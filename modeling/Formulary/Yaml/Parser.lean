import Formulary.Yaml.Lexer
import Formulary.Yaml.Node

/-!
# Reading documents

Recursive descent over the tokens. The readers count their nesting down from a bound that is larger
than any nesting the tokens can have.
-/

namespace Formulary.Yaml

/-- What is left to read, and what names and handles stand for. -/
structure Reading where
  tokens : List Token
  /-- The number that each anchor name has at present. -/
  anchors : List (List Char × Nat) := []
  handles : List (List Char × List Char) := []

abbrev ReadM := StateT Reading Option

namespace ReadM

/-! ## Tokens -/

/-- The next token; it stays. -/
def peek? : ReadM (Option Token) := return (← get).tokens.head?

/-- Takes the next token. -/
def next : ReadM Unit := modify fun r => { r with tokens := r.tokens.drop 1 }

/-- Takes the next token if it is the given one. -/
def eat (t : Token) : ReadM Bool := do
  if (← peek?) = some t then
    next
    return true
  else return false

/-- Takes a token that must come next. -/
def expect (t : Token) : ReadM Unit := do
  if !(← eat t) then failure

/-- The next token is one of those given. -/
def sees (ts : List Token) : ReadM Bool := return (← peek?).any (ts.contains ·)

/-! ## Properties -/

/-- Numbers an anchor. The number is how many names there are; a name met before gets a new one. -/
def number (name : List Char) : ReadM Nat := fun r =>
  let n := r.anchors.length
  let anchors :=
    if (r.anchors.lookup name).isSome then
      r.anchors.map fun (other, m) => if other = name then (name, n) else (other, m)
    else r.anchors ++ [(name, n)]
  some (n, { r with anchors := anchors })

/-- The tag of a handle and a suffix. -/
def resolveTag (handle suffix : List Char) : ReadM (List Char) := do
  if handle.isEmpty then return suffix
  match (← get).handles.lookup handle with
  | some meaning => return meaning ++ suffix
  | none =>
    if handle = ['!'] then return '!' :: suffix
    else if handle = ['!', '!'] then return "tag:yaml.org,2002:".toList ++ suffix
    else failure

def anchor? : ReadM (Option (List Char)) := do
  match ← peek? with
  | some (.anchor name) =>
    next
    return some name
  | _ => return none

def tag? : ReadM (Option (List Char)) := do
  match ← peek? with
  | some (.tag handle suffix) =>
    next
    return some (← resolveTag handle suffix)
  | _ => return none

/-- The anchor and the tag of a node, in either order. -/
def properties : ReadM (Option (List Char) × Option (List Char)) := do
  match ← anchor? with
  | some name => return (some name, ← tag?)
  | none =>
    match ← tag? with
    | some tag => return (← anchor?, some tag)
    | none => return (none, none)

/-- Numbers the anchor that a node has. -/
def numbered (name : Option (List Char)) (tag : Option (List Char)) : ReadM Properties := do
  match name with
  | some name => return ⟨some (← number name), tag⟩
  | none => return ⟨none, tag⟩

/-- A tag that leaves the meaning of a scalar open is none, if there is a scalar. -/
def scalarTag (tag : Option (List Char)) : Option (List Char) := tag.filter (· != ['!'])

/-! ## Nodes -/

mutual

/-- A node. Where `blocks` does not hold, only a flow collection may come; where `indentless` holds,
entries of a sequence may stand as deep as the key in front of them. -/
def node (blocks indentless : Bool) : Nat → ReadM Node
  | 0 => failure
  | n + 1 => do
    if let some (.alias name) ← peek? then
      next
      match (← get).anchors.lookup name with
      | some number => return .alias number
      | none => failure
    let (name, tag) ← properties
    let token ← peek?
    if indentless && token = some .blockEntry then
      let p ← numbered name tag
      return .sequence p (← indentlessItems n)
    match token with
    | some (.scalar text plain) =>
      next
      return .scalar (← numbered name (scalarTag tag)) text plain
    | some .flowSequenceStart =>
      next
      let p ← numbered name tag
      return .sequence p (← flowItems true n)
    | some .flowMappingStart =>
      next
      let p ← numbered name tag
      return .mapping p (← flowPairs true n)
    | _ =>
      if blocks && token = some .blockSequenceStart then
        next
        let p ← numbered name tag
        return .sequence p (← blockItems n)
      else if blocks && token = some .blockMappingStart then
        next
        let p ← numbered name tag
        return .mapping p (← blockPairs n)
      else if name.isSome || tag.isSome then
        return .scalar (← numbered name tag) [] true
      else failure

/-- A node, unless one of the tokens comes that show that nothing stands there. -/
def nodeUnless (absent : List Token) (blocks indentless : Bool) : Nat → ReadM Node
  | 0 => failure
  | n + 1 => do
    if ← sees absent then return .empty else node blocks indentless n

/-- The items of a block sequence. -/
def blockItems : Nat → ReadM (List Node)
  | 0 => failure
  | n + 1 => do
    if ← eat .blockEntry then
      let item ← nodeUnless [.blockEntry, .blockEnd] true false n
      return item :: (← blockItems n)
    else
      expect .blockEnd
      return []

/-- The items of a block sequence that has no start and no end of its own. -/
def indentlessItems : Nat → ReadM (List Node)
  | 0 => failure
  | n + 1 => do
    if ← eat .blockEntry then
      let item ← nodeUnless [.blockEntry, .key, .value, .blockEnd] true false n
      return item :: (← indentlessItems n)
    else return []

/-- The pairs of a block mapping. -/
def blockPairs : Nat → ReadM (List (Node × Node))
  | 0 => failure
  | n + 1 => do
    if ← eat .key then
      let key ← nodeUnless [.key, .value, .blockEnd] true true n
      let value ←
        if ← eat .value then nodeUnless [.key, .value, .blockEnd] true true n else pure .empty
      return (key, value) :: (← blockPairs n)
    else
      expect .blockEnd
      return []

/-- The items of a flow sequence; `first` holds before the first. An item may be a single pair, and
stands for a mapping then. -/
def flowItems (first : Bool) : Nat → ReadM (List Node)
  | 0 => failure
  | n + 1 => do
    if ← eat .flowSequenceEnd then return []
    if !first then expect .flowEntry
    if ← eat .flowSequenceEnd then return []
    let item ← if ← eat .key then singlePair n else node false false n
    return item :: (← flowItems false n)

/-- A pair in a flow sequence, behind the token of its key. A missing key takes the next token with
it. -/
def singlePair : Nat → ReadM Node
  | 0 => failure
  | n + 1 => do
    let key ←
      if ← sees [.value, .flowEntry, .flowSequenceEnd] then
        next
        pure .empty
      else node false false n
    let value ←
      if ← eat .value then nodeUnless [.flowEntry, .flowSequenceEnd] false false n
      else pure .empty
    return .mapping {} [(key, value)]

/-- The pairs of a flow mapping; `first` holds before the first. -/
def flowPairs (first : Bool) : Nat → ReadM (List (Node × Node))
  | 0 => failure
  | n + 1 => do
    if ← eat .flowMappingEnd then return []
    if !first then expect .flowEntry
    if ← eat .flowMappingEnd then return []
    let pair ←
      if ← eat .key then
        let key ← nodeUnless [.value, .flowEntry, .flowMappingEnd] false false n
        let value ←
          if ← eat .value then nodeUnless [.flowEntry, .flowMappingEnd] false false n
          else pure .empty
        pure (key, value)
      else pure (← node false false n, .empty)
    return pair :: (← flowPairs false n)

end

/-! ## Documents -/

/-- Takes the directives in front of a document. There is one for the version at most, and one for
each handle. -/
def directives (versioned : Bool) : Nat → ReadM Unit
  | 0 => failure
  | n + 1 => do
    match ← peek? with
    | some .versionDirective =>
      if versioned then failure
      next
      directives true n
    | some (.tagDirective handle meaning) =>
      if ((← get).handles.lookup handle).isSome then failure
      next
      modify fun r => { r with handles := r.handles ++ [(handle, meaning)] }
      directives versioned n
    | _ => return

/-- The next token is a directive. -/
def startsWithDirective : ReadM Bool := do
  match ← peek? with
  | some .versionDirective | some (.tagDirective ..) => return true
  | _ => return false

/-- Takes the lines that end a document. -/
def documentEnds : Nat → ReadM Unit
  | 0 => return
  | n + 1 => do if ← eat .documentEnd then documentEnds n

/-- The document of the tokens. One without a line that starts it must not have directives. -/
def root (bound : Nat) : ReadM Node := do
  let implicit := !(← sees [.documentStart]) && !(← startsWithDirective)
  directives false bound
  if implicit then node true false bound
  else
    expect .documentStart
    if (← peek?).isNone then return .empty else nodeUnless [.documentEnd] true false bound

/-- The only document of the tokens; none if there are no tokens. -/
def document (bound : Nat) : ReadM (Option Node) := do
  if (← peek?).isNone then return none
  let n ← root bound
  documentEnds bound
  if (← peek?).isSome then failure
  return some n

end ReadM

/-- The only document of a text. The outer option tells whether the text can be read, the inner one
whether it has a document. -/
def Node.ofText? (s : List Char) : Option (Option Node) := do
  let tokens ← Token.ofText? s
  (ReadM.document (4 * tokens.length + 4)).run' { tokens := tokens }

end Formulary.Yaml
