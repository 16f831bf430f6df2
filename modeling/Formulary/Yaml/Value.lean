import Formulary.Json.Printer
import Formulary.Yaml.Parser

/-!
# The values of documents

A plain scalar is read as null, a truth value, a number or a text; a tag of the standard asks for
one of them, and any other tag stays, as the only key of an object. Keys become texts, and one value
must not be a key twice.
-/

namespace Formulary.Yaml

/-! ## Plain scalars -/

def isNullText (s : List Char) : Bool :=
  ["null", "Null", "NULL", "~"].contains (String.ofList s)

def readBool? (s : List Char) : Option Bool :=
  if ["true", "True", "TRUE"].contains (String.ofList s) then some true
  else if ["false", "False", "FALSE"].contains (String.ofList s) then some false
  else none

/-- The value of a digit in a base up to sixteen. -/
def digit? (base : Nat) (c : Char) : Option Nat := (hexValue? c).filter (· < base)

/-- The number that digits spell. -/
def numeral? (base : Nat) (digits : List Char) : Option Nat :=
  if digits.isEmpty then none
  else digits.foldlM (fun n c => (digit? base c).map (n * base + ·)) 0

/-- A number with a mark in front for its base, or in base ten, where a zero must not lead. -/
def unsigned? : List Char → Option Nat
  | '0' :: 'x' :: s => numeral? 16 s
  | '0' :: 'o' :: s => numeral? 8 s
  | '0' :: 'b' :: s => numeral? 2 s
  | '0' :: c :: s => if (c :: s).all Char.isDigit then none else numeral? 10 ('0' :: c :: s)
  | s => numeral? 10 s

/-- The integer that a whole text spells. -/
def readInteger? : List Char → Option Int
  | '-' :: s => (unsigned? s).map fun n => -(n : Int)
  | '+' :: s => (unsigned? s).map Int.ofNat
  | s => (unsigned? s).map Int.ofNat

/-- Digits behind a zero are a text. -/
def isPadded (s : List Char) : Bool :=
  match s with
  | '-' :: '0' :: c :: s | '+' :: '0' :: c :: s | '0' :: c :: s => (c :: s).all Char.isDigit
  | _ => false

/-- The number that a whole text spells, with a dot in front of the names of those that are not
finite. -/
def readDouble? (s : List Char) : Option Binary64 :=
  let text := String.ofList s
  if [".inf", ".Inf", ".INF", "+.inf", "+.Inf", "+.INF"].contains text then some (.infinite false)
  else if ["-.inf", "-.Inf", "-.INF"].contains text then some (.infinite true)
  else if [".nan", ".NaN", ".NAN"].contains text then some .nan
  else (Binary64.ofText? s).filter Binary64.isFinite

/-- An integer as a value. Those of 64 bits are, longer ones of up to 128 bits are refused. -/
def ofInteger? (n : Int) : Option Json := if -2 ^ 63 ≤ n && n < 2 ^ 64 then some (.int n) else none

/-- Beyond 128 bits digits are no integer any more. -/
def readBounded? (s : List Char) : Option Int :=
  (readInteger? s).filter fun n => -2 ^ 127 ≤ n && n < 2 ^ 128

/-- The value of a plain scalar. -/
def plainValue? (s : List Char) : Option Json :=
  if s.isEmpty || isNullText s then some .null
  else match readBool? s, readBounded? s with
    | some b, _ => some (.bool b)
    | none, some n => ofInteger? n
    | none, none =>
      if isPadded s then some (.string (String.ofList s))
      else match readDouble? s with
        | some x => some (.float x)
        | none => some (.string (String.ofList s))

/-! ## Tags -/

/-- The tag of the standard with a name. -/
def standardTag (name : String) : List Char := ("tag:yaml.org,2002:" ++ name).toList

/-- The key under which a value with a tag stands. Tags of the standard leave no key. -/
def tagKey? (tag : Option (List Char)) : Option String :=
  match tag with
  | some ['!'] => some "!!"
  | some ('!' :: name) => some (String.ofList ('!' :: name))
  | _ => none

/-- The value without its tag, under the tag. -/
def underTag (tag : Option (List Char)) (v : Json) : Json :=
  match tagKey? tag with
  | some key => .object [(key, v)]
  | none => v

/-- The value of a scalar without a tag. -/
def untaggedScalar? (text : List Char) (plain : Bool) : Option Json :=
  if plain then plainValue? text else some (.string (String.ofList text))

/-- The value of a scalar, but for a tag that stays. -/
def scalarValue? (tag : Option (List Char)) (text : List Char) (plain : Bool) : Option Json :=
  match tag with
  | none => untaggedScalar? text plain
  | some t =>
    if (tagKey? tag).isSome then untaggedScalar? text plain
    else if t = standardTag "bool" then (readBool? text).map .bool
    else if t = standardTag "int" then (readBounded? text).bind ofInteger?
    else if t = standardTag "float" then (readDouble? text).map .float
    else if t = standardTag "null" then if isNullText text then some .null else none
    else some (.string (String.ofList text))

/-! ## Keys -/

/-- The text of a key. -/
def keyText? : Json → Option String
  | .string s => some s
  | .bool b => some (if b then "true" else "false")
  | .int n => some (String.ofList (Json.intText n))
  | .float x => if x.isFinite then some (String.ofList (Decimal.Layout.json.text x)) else none
  | _ => none

/-- No value is in the list twice. -/
def allDistinct : List Json → Bool
  | [] => true
  | v :: vs => vs.all (fun w => !v.same w) && allDistinct vs

/-! ## Documents -/

/-- A document with what its aliases stand for. -/
structure Document where
  root : Node
  /-- The anchored nodes by their numbers, the last to start first. -/
  anchored : List (Nat × Node)
  /-- How many aliases may be followed. -/
  follows : Nat

def Document.ofNode (root : Node) : Document := ⟨root, root.anchored.reverse, 100 * root.events⟩

/-- A computation that counts the aliases followed. -/
abbrev FollowM := StateT Nat Option

/-- The node itself, or the one that an alias stands for. -/
def Document.follow (d : Document) : Node → FollowM Node
  | .alias a => do
    modify (· + 1)
    if d.follows < (← get) then failure
    match d.anchored.lookup a with
    | some n => return n
    | none => failure
  | n => return n

/-- The value of a key. A tag must not stay with a key, but in a mapping with a tag, the tags of
keys do not count. -/
def Document.key (d : Document) (tagged : Bool) (key : Node) : FollowM Json := do
  match key, ← d.follow key with
  | .scalar .., .scalar p text plain =>
    if tagged then StateT.lift (untaggedScalar? text plain)
    else if (tagKey? p.tag).isSome then failure
    else StateT.lift (scalarValue? p.tag text plain)
  | _, .scalar p text plain =>
    if (tagKey? p.tag).isSome then failure else StateT.lift (scalarValue? p.tag text plain)
  | _, _ => failure

/-- A value as JSON has it: a number that is not finite is null. -/
def finiteOrNull : Json → Json
  | .float x => if x.isFinite then .float x else .null
  | v => v

/-- The object of pairs. A later key replaces an earlier one of the same text. -/
def objectOf? (pairs : List (Json × Json)) : Option Json := do
  if !allDistinct (pairs.map Prod.fst) then none
  let members ← pairs.mapM fun (k, v) => (keyText? k).map (·, v)
  return Json.ofMembers members

/-- The value of a scalar under its tag. -/
def Node.ofScalar? (p : Properties) (text : List Char) (plain : Bool) : Option Json :=
  (scalarValue? p.tag text plain).map fun v => underTag p.tag (finiteOrNull v)

/-- The value of a node whose collections are nested no deeper than the bound. -/
def Document.value (d : Document) : Nat → Node → FollowM Json
  | 0, n => do
    match ← d.follow n with
    | .scalar p text plain => StateT.lift (Node.ofScalar? p text plain)
    | _ => failure
  | bound + 1, n => do
    match ← d.follow n with
    | .scalar p text plain => StateT.lift (Node.ofScalar? p text plain)
    | .sequence p items => return underTag p.tag (.array (← items.mapM (d.value bound)))
    | .mapping p pairs =>
      let pairs ← pairs.mapM fun (k, v) => do
        let key ← d.key (tagKey? p.tag).isSome k
        return (key, ← d.value bound v)
      return underTag p.tag (← StateT.lift (objectOf? pairs))
    | .alias _ => failure

/-- How deep collections may be nested. -/
def nestingLimit : Nat := 128

/-- The value of the only document of a text. A text without a document is null. -/
def read? (s : List Char) : Option Json :=
  match Node.ofText? s with
  | none => none
  | some none => some .null
  | some (some root) =>
    let d := Document.ofNode root
    (d.value nestingLimit d.root).run' 0

end Formulary.Yaml
