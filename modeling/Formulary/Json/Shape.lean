import Formulary.Json.Fault
import Formulary.Json.Reader

/-!
# Finding what is wrong with a JSON text

A shape says what a reader of records expects. `Shape.fault?` goes through a text as such a reader
does, from its start, and gives the first thing that stops it. A wrong value stops the reader where
the value ends; what only the record as a whole shows, such as a missing key, where the record
ends.
-/

namespace Formulary.Json

/-! ## Going through a text -/

/-- The rest of a text, and where it starts. -/
structure Source where
  place : Place := {}
  rest : List Char

/-- Why a reading stops. -/
inductive Failure where
  | placed (fault : Fault)
  /-- The place is the end of the container that is read. -/
  | loose (reason : Reason) (source : Source)

abbrev ReadM := StateT Source (Except Failure)

/-- The place after a character. -/
def Place.after (p : Place) (c : Char) : Place :=
  if c = '\n' then ⟨p.line + 1, 0⟩ else ⟨p.line, p.column + c.utf8Size⟩

/-- The place after the first byte of a text. -/
def Place.afterByte (p : Place) : List Char → Place
  | [] => p
  | c :: _ => if c = '\n' then ⟨p.line + 1, 0⟩ else ⟨p.line, p.column + 1⟩

/-- The place after some bytes of a text. -/
def Place.afterBytes (p : Place) : Nat → List Char → Place
  | _, [] => p
  | n, c :: s =>
    if n < c.utf8Size then ⟨p.line, p.column + n⟩ else (p.after c).afterBytes (n - c.utf8Size) s

/-- Stops at the place that is reached. -/
def stop {α : Type} (reason : Reason) : ReadM α := fun s => .error (.placed ⟨reason, s.place⟩)

/-- Stops after the next byte. -/
def stopAfter {α : Type} (reason : Reason) : ReadM α :=
  fun s => .error (.placed ⟨reason, s.place.afterByte s.rest⟩)

/-- Stops at the end of the container. -/
def stopLoose {α : Type} (reason : Reason) : ReadM α := fun s => .error (.loose reason s)

def peek? : ReadM (Option Char) := return (← get).rest.head?

/-- Takes the characters at the start for which a test holds. -/
def takeWhile (test : Char → Bool) : ReadM (List Char) := do
  let s ← get
  let taken := s.rest.takeWhile test
  set { place := taken.foldl Place.after s.place, rest := s.rest.dropWhile test : Source }
  return taken

/-- Takes a character. -/
def advance : ReadM Unit := modify fun s =>
  match s.rest with
  | [] => s
  | c :: rest => ⟨s.place.after c, rest⟩

/-- The next character after blanks. -/
def nextToken? : ReadM (Option Char) := do
  discard (takeWhile isSpace)
  peek?

/-- Takes the rest of a keyword. -/
def keyword : List Char → ReadM Unit
  | [] => return
  | c :: expected => do
    match ← peek? with
    | none => stop (.unfinished .value)
    | some d => if c = d then advance; keyword expected else stopAfter .expectedWord

/-- Stops where a digit is missing. -/
def digitMissing {α : Type} (skipped : Bool) : ReadM α := do
  if (← peek?).isNone && !skipped then stop (.unfinished .value) else stopAfter .invalidNumber

/-- Takes digits, at least one. -/
def takeDigits (skipped : Bool) : ReadM Unit := do
  if (← takeWhile Char.isDigit).isEmpty then digitMissing skipped

/-- Takes a number. One that is skipped may be out of range. -/
def takeNumber (skipped : Bool) : ReadM Json := do
  let start := (← get).rest
  if (← peek?) = some '-' then advance
  match ← peek? with
  | some '0' =>
    advance
    if (← peek?).any Char.isDigit then stopAfter .invalidNumber
  | _ => takeDigits skipped
  if (← peek?) = some '.' then
    advance
    takeDigits skipped
  if (← peek?).any fun c => c = 'e' || c = 'E' then
    advance
    if (← peek?).any fun c => c = '+' || c = '-' then advance
    takeDigits skipped
  let text := start.take (start.length - (← get).rest.length)
  match readWord text with
  | some v => return v
  | none => if skipped then return .null else stop .numberOutOfRange

/-- The failure of an escape by number at the start of a text. -/
def escapeFailure (p : Place) (s : List Char) : Failure :=
  if (s.map Char.utf8Size).sum < 4 then
    .placed ⟨.unfinished .string, s.foldl Place.after p⟩
  else .placed ⟨.invalidEscape, p.afterBytes 4 s⟩

/-- A string from inside it: its characters, last first, after those of `r`; `high` is the first
half of a pair. -/
def stringFrom (skipped : Bool) (high : Option Nat) (p : Place) (r : List Char) :
    List Char → Except Failure (List Char × Source)
  | [] => .error (.placed ⟨.unfinished .string, p⟩)
  | '\\' :: 'u' :: a :: b :: c :: d :: s =>
    let p := (p.after '\\').after 'u'
    match hexUnit? a b c d with
    | none => .error (escapeFailure p (a :: b :: c :: d :: s))
    | some unit =>
      let p := p.afterBytes 4 [a, b, c, d]
      let isLow := 0xDC00 ≤ unit ∧ unit < 0xE000
      if skipped then stringFrom skipped none p r s
      else match high with
        | some high =>
          if isLow then
            let code := 0x10000 + (high - 0xD800) * 0x400 + (unit - 0xDC00)
            stringFrom skipped none p (Char.ofNat code :: r) s
          else .error (.placed ⟨.loneSurrogate, p⟩)
        | none =>
          if isLow then .error (.placed ⟨.loneSurrogate, p⟩)
          else if 0xD800 ≤ unit ∧ unit < 0xDC00 then stringFrom skipped (some unit) p r s
          else stringFrom skipped none p (Char.ofNat unit :: r) s
  | '\\' :: 'u' :: s => .error (escapeFailure ((p.after '\\').after 'u') s)
  | ['\\'] => .error (.placed ⟨.unfinished .string, p.after '\\'⟩)
  | '\\' :: c :: s =>
    let p := p.after '\\'
    if high.isSome then .error (.placed ⟨.unfinishedPair, p.afterByte (c :: s)⟩)
    else match shortEscape? c with
      | some x => stringFrom skipped none (p.after c) (x :: r) s
      | none => .error (.placed ⟨.invalidEscape, p.afterByte (c :: s)⟩)
  | c :: s =>
    if high.isSome then .error (.placed ⟨.unfinishedPair, p.afterByte (c :: s)⟩)
    else if c = '"' then .ok (r, ⟨p.after c, s⟩)
    else if c.toNat < 32 then
      .error (.placed ⟨.controlInString, if skipped then p else p.after c⟩)
    else stringFrom skipped none (p.after c) (c :: r) s

/-- Takes a string. -/
def takeString (skipped : Bool) : ReadM String := do
  advance
  let s ← get
  match stringFrom skipped none s.place [] s.rest with
  | .ok (r, s) =>
    set s
    return String.ofList r.reverse
  | .error e => throw e

/-- Takes a value that is no container, if one is there. -/
def takeScalar? (skipped : Bool) : ReadM (Option Json) := do
  match ← peek? with
  | some 'n' =>
    advance
    keyword "ull".toList
    return some .null
  | some 't' =>
    advance
    keyword "rue".toList
    return some (.bool true)
  | some 'f' =>
    advance
    keyword "alse".toList
    return some (.bool false)
  | some '"' => return some (.string (← takeString skipped))
  | some c => if c = '-' || c.isDigit then return some (← takeNumber skipped) else return none
  | none => return none

/-- Takes the colon after a key. -/
def takeColon : ReadM Unit := do
  match ← nextToken? with
  | some ':' => advance
  | some _ => stopAfter .expectedColon
  | none => stopAfter (.unfinished .object)

/-- Goes to the next item of an array. False at its end. -/
def nextItem (skipped first : Bool) : ReadM Bool := do
  match ← nextToken? with
  | none => stopAfter (.unfinished .list)
  | some ']' => return false
  | some c =>
    if first then return true
    else if c = ',' then
      advance
      match ← nextToken? with
      | some ']' => if skipped then return true else stopAfter .trailingComma
      | some _ => return true
      | none => stopAfter (.unfinished .value)
    else stopAfter .expectedListCommaOrEnd

/-- Goes to the next key of an object. False at its end. -/
def nextKey (skipped first : Bool) : ReadM Bool := do
  let key (ending eof : Reason) : ReadM Bool := do
    match ← nextToken? with
    | some '"' => return true
    | some '\x7d' => stopAfter ending
    | some _ => stopAfter .keyNotString
    | none => stopAfter eof
  match ← nextToken? with
  | none => stopAfter (.unfinished .object)
  | some '\x7d' => return false
  | some c =>
    if first then key .keyNotString (.unfinished .object)
    else if c = ',' then
      advance
      if skipped then key .keyNotString (.unfinished .object)
      else key .trailingComma (.unfinished .value)
    else stopAfter .expectedObjectCommaOrEnd

mutual

/-- Takes a value. Containers nest at most `depth` deep, unless the value is skipped. -/
def takeValue (skipped : Bool) (depth : Nat) : Nat → ReadM Json
  | 0 => stop .tooDeep
  | fuel + 1 => do
    match ← nextToken? with
    | none => stopAfter (.unfinished .value)
    | some '[' =>
      if depth = 0 && !skipped then stopAfter .tooDeep
      advance
      return .array (← takeItems skipped (depth - 1) true fuel)
    | some '\x7b' =>
      if depth = 0 && !skipped then stopAfter .tooDeep
      advance
      return .object (← takeMembers skipped (depth - 1) true fuel)
    | some _ => match ← takeScalar? skipped with
      | some v => return v
      | none => stopAfter .expectedValue

/-- Takes the items of an array and its end. -/
def takeItems (skipped : Bool) (depth : Nat) (first : Bool) : Nat → ReadM (List Json)
  | 0 => stop .tooDeep
  | fuel + 1 => do
    if ← nextItem skipped first then
      let v ← takeValue skipped depth fuel
      return v :: (← takeItems skipped depth false fuel)
    else
      advance
      return []

/-- Takes the members of an object and its end. -/
def takeMembers (skipped : Bool) (depth : Nat) (first : Bool) : Nat → ReadM Members
  | 0 => stop .tooDeep
  | fuel + 1 => do
    if ← nextKey skipped first then
      let key ← takeString skipped
      takeColon
      let v ← takeValue skipped depth fuel
      return (key, v) :: (← takeMembers skipped depth false fuel)
    else
      advance
      return []

end

/-! ## Shapes -/

/-- When a key of a record must be given. -/
structure Need where
  /-- The record is an object. -/
  inObject : Bool
  /-- The record is an array of its values. -/
  inArray : Bool

def Need.always : Need := ⟨true, true⟩

/-- A missing value is null. -/
def Need.nullable : Need := ⟨false, true⟩

def Need.never : Need := ⟨false, false⟩

/-- What is expected. -/
inductive Shape where
  | string (name : String)
  | flag
  /-- A whole number of 64 bits. -/
  | natural
  | nullable (shape : Shape)
  | list (item : Shape)
  /-- Any value, which is then judged. -/
  | judged (fault : Json → Option Reason)
  /-- An object with some keys. Its other members are judged; where they are not, they are skipped,
  and the record may also be an array of its values. -/
  | record (name : String) (keys : List (String × Need × Shape))
      (others : Option (Members → Option Reason))

namespace Shape

/-- Stops at a value of the wrong kind. -/
def wrongType {α : Type} (expected : String) : ReadM α := do
  match ← nextToken? with
  | none => stopAfter (.unfinished .value)
  | some '[' => stop (.invalidType .sequence expected)
  | some '\x7b' => stop (.invalidType .map expected)
  | some _ => match ← takeScalar? false with
    | some v => stop (.invalidType (.ofJson v) expected)
    | none => stopAfter .expectedValue

/-- The end of an array: it has no further item. -/
def takeArrayEnd : ReadM Unit := do
  match ← nextToken? with
  | some ']' => advance
  | some ',' =>
    advance
    match ← nextToken? with
    | some ']' => stopAfter .trailingComma
    | _ => stopAfter .trailingCharacters
  | some _ => stopAfter .trailingCharacters
  | none => stopAfter (.unfinished .list)

/-- Where an array ends for what went wrong in it. -/
def arrayEnd : ReadM Unit := do
  match ← nextToken? with
  | some ']' => advance
  | some ',' =>
    advance
    discard nextToken?
  | _ => return

/-- Where an object ends for what went wrong in it. -/
def objectEnd : ReadM Unit := do
  if (← nextToken?) = some '\x7d' then advance

/-- Gives what goes wrong in a container its place. -/
def within {α : Type} (finish : ReadM Unit) (read : ReadM α) : ReadM α := fun s =>
  match read s with
  | .error (.loose reason s) => match finish s with
    | .ok (_, s) => .error (.placed ⟨reason, s.place⟩)
    | .error e => .error e
  | r => r

/-- The first key that must be given and is not. -/
def missing? (keys : List (String × Need × Shape)) (seen : List String) : Option String :=
  (keys.find? fun (key, need, _) => need.inObject && !seen.contains key).map (·.1)

/-- What is expected of a record that is an array. -/
def rowText (name : String) (length : Nat) : String :=
  "struct " ++ name ++ " with " ++ String.ofList (Decimal.digits length) ++
    (if length = 1 then " element" else " elements")

mutual

/-- Takes a value of a shape. -/
def take (shape : Shape) (depth : Nat) : Nat → ReadM Unit
  | 0 => stop .tooDeep
  | fuel + 1 => do
    let next ← nextToken?
    if next.isNone then stopAfter (.unfinished .value)
    match shape with
    | .string name => if next = some '"' then discard (takeString false) else wrongType name
    | .flag =>
      if next = some 't' || next = some 'f' then discard (takeScalar? false)
      else wrongType "a boolean"
    | .natural =>
      if next.any fun c => c = '-' || c.isDigit then
        match ← takeNumber false with
        | .int n => if n < 0 then stop (.invalidValue (.int n) "u64")
        | v => stop (.invalidType (.ofJson v) "u64")
      else wrongType "u64"
    | .nullable shape =>
      if next = some 'n' then discard (takeScalar? false) else take shape depth fuel
    | .list item =>
      if next ≠ some '[' then wrongType "a sequence"
      if depth = 0 then stopAfter .tooDeep
      advance
      within arrayEnd (takeList item (depth - 1) true fuel)
    | .judged fault =>
      let v ← takeValue false depth fuel
      match fault v with
      | some reason => stopLoose reason
      | none => return
    | .record name keys others =>
      let isArray := next = some '[' && others.isNone
      if !isArray && next ≠ some '\x7b' then wrongType ("struct " ++ name)
      if depth = 0 then stopAfter .tooDeep
      advance
      if isArray then within arrayEnd (takeRow name keys keys (depth - 1) fuel)
      else within objectEnd (takeKeys keys others [] [] (depth - 1) fuel)
termination_by structural fuel => fuel

/-- Takes the items of an array of one shape, and its end. -/
def takeList (item : Shape) (depth : Nat) (first : Bool) : Nat → ReadM Unit
  | 0 => stop .tooDeep
  | fuel + 1 => do
    if ← nextItem false first then
      take item depth fuel
      takeList item depth false fuel
    else advance
termination_by structural fuel => fuel

/-- Takes the values of a record that is an array, and its end; `left` are the keys whose values
come next. -/
def takeRow (name : String) (keys left : List (String × Need × Shape)) (depth : Nat) :
    Nat → ReadM Unit
  | 0 => stop .tooDeep
  | fuel + 1 => do
    match left with
    | [] => takeArrayEnd
    | (_, need, shape) :: left' =>
      let taken := keys.length - left.length
      if ← nextItem false (taken = 0) then take shape depth fuel
      else if need.inArray then stopLoose (.invalidLength taken (rowText name keys.length))
      takeRow name keys left' depth fuel
termination_by structural fuel => fuel

/-- Takes the members of a record that is an object, and its end. -/
def takeKeys (keys : List (String × Need × Shape)) (others : Option (Members → Option Reason))
    (seen : List String) (kept : Members) (depth : Nat) : Nat → ReadM Unit
  | 0 => stop .tooDeep
  | fuel + 1 => do
    if ← nextKey false (seen.isEmpty && kept.isEmpty) then
      let key ← takeString false
      match keys.lookup key, others with
      | some (_, shape), _ =>
        if seen.contains key then stopLoose (.duplicateKey key)
        takeColon
        take shape depth fuel
        takeKeys keys others (key :: seen) kept depth fuel
      | none, none =>
        takeColon
        discard (takeValue true depth fuel)
        takeKeys keys others (key :: seen) kept depth fuel
      | none, some _ =>
        takeColon
        let v ← takeValue false depth fuel
        takeKeys keys others seen (kept ++ [(key, v)]) depth fuel
    else
      match missing? keys seen, others.bind (· kept) with
      | some key, _ => stopLoose (.missingKey key)
      | none, some reason => stopLoose reason
      | none, none => advance
termination_by structural fuel => fuel

end

/-- Takes a value of a shape, and nothing after it. -/
def takeWhole (shape : Shape) (fuel : Nat) : ReadM Unit := do
  take shape depthLimit fuel
  if (← nextToken?).isSome then stopAfter .trailingCharacters

/-- The first thing wrong with a text that should have a shape. -/
def fault? (shape : Shape) (s : List Char) : Option Fault :=
  match shape.takeWhole (4 * (s.length + 4)) { rest := s } with
  | .ok _ => none
  | .error (.placed fault) => some fault
  | .error (.loose reason source) => some ⟨reason, source.place⟩

end Shape

end Formulary.Json
