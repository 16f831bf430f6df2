import Formulary.Script.Builtin
import Formulary.Script.Parser

/-!
# Evaluating expressions

The evaluator keeps one stack of bindings, innermost first. Applying an arrow function puts its
argument on the stack for the time of its body and takes it off again, also when the body fails
(`withBinding`). Arguments are evaluated before the receiver of a method.
-/

namespace Formulary.Script

/-- The bindings of parameters, innermost first. -/
abbrev Scopes := List (String × Json)

/-- A computation with bindings that may fail. -/
abbrev EvalM := ExceptT EvalCause (StateM Scopes)

/-- An argument of a call: a value, or an arrow function that has not run. -/
inductive Arg where
  | value (v : Json)
  | arrow (run : Json → EvalM Json)

/-- The value of an argument. -/
def Arg.value? : Arg → Option Json
  | .value v => some v
  | .arrow _ => none

/-! ## Bindings -/

/-- The value of the innermost binding of a name. -/
def lookup (name : String) : EvalM Json := do
  match (← get).lookup name with
  | some v => return v
  | none => throw (.undefinedName name)

/-- Runs a body with a parameter bound to an argument. The binding ends with the body. -/
def withBinding (param : Option String) (argument : Json) (body : EvalM Json) : EvalM Json :=
  match param with
  | none => body
  | some name => ExceptT.mk fun scopes =>
    let (result, scopes) := body.run.run ((name, argument) :: scopes)
    (result, scopes.tail)

/-! ## Operators and accesses -/

/-- The value of an operator that reads both operands. -/
def StrictOp.apply (op : StrictOp) (v w : Json) : Json :=
  match op with
  | .add =>
    if v.isString || w.isString || v.isCompound || w.isCompound then
      textValue (v.display ++ w.display)
    else .ofNumber (v.toNumber.add w.toNumber)
  | .sub => .ofNumber (v.toNumber.sub w.toNumber)
  | .mul => .ofNumber (v.toNumber.mul w.toNumber)
  | .div => .ofNumber (v.toNumber.div w.toNumber)
  | .rem => .ofNumber (v.toNumber.rem w.toNumber)
  | .eq => .bool (v.looselyEquals w)
  | .ne => .bool (!v.looselyEquals w)
  | .lt => .bool (v.compare? w == some .lt)
  | .le => .bool (v.compare? w == some .lt || v.compare? w == some .eq)
  | .gt => .bool (v.compare? w == some .gt)
  | .ge => .bool (v.compare? w == some .gt || v.compare? w == some .eq)

/-- The left operand is the result already. -/
def LazyOp.stopsAt (op : LazyOp) (v : Json) : Bool :=
  match op with
  | .and => !v.truthy
  | .or => v.truthy
  | .nullish => !v.isNull

def UnaryOp.apply (op : UnaryOp) (v : Json) : Json :=
  match op with
  | .not => .bool (!v.truthy)
  | .negate => .ofNumber v.toNumber.neg
  | .plus => .ofNumber v.toNumber

/-- A property of a value; one that is missing is null. -/
def property (v : Json) (name : String) : Except EvalCause Json :=
  match v with
  | .null => .error (.propertyOfNull name)
  | .string s => .ok (if name = "length" then .int s.length else .null)
  | .array items => .ok (if name = "length" then .int items.length else .null)
  | .object members => .ok ((Members.get? members name).getD .null)
  | _ => .ok .null

/-- The index that a key gives: a whole number from zero on. -/
def indexOf? (key : Json) : Option Nat :=
  let x := key.toNumber
  if x.isIntegral && (0 : Binary64).le x then some x.toNat64 else none

/-- The element of a value under a key; one that is missing is null. -/
def element (v key : Json) : Except EvalCause Json :=
  match v with
  | .null => .error (.indexOfNull key.displayText)
  | .array items => .ok (((indexOf? key).bind (items[·]?)).getD .null)
  | .string s =>
    match (indexOf? key).bind (s.toList[·]?) with
    | some c => .ok (textValue [c])
    | none => .ok .null
  | .object _ => property v key.displayText
  | _ => .ok .null

/-! ## Callbacks -/

/-- The elements for which a test holds. -/
def filterItems (test : Json → EvalM Bool) : List Json → EvalM (List Json)
  | [] => return []
  | v :: items => do
    let keep ← test v
    let rest ← filterItems test items
    return if keep then v :: rest else rest

/-- The first element for which a test holds; later ones are not tested. -/
def firstItem (test : Json → EvalM Bool) : List Json → EvalM (Option Json)
  | [] => return none
  | v :: items => do
    if ← test v then return some v
    firstItem test items

/-- The methods of arrays that take an arrow function. -/
def arrowMethods : List String := ["map", "filter", "find", "some", "every"]

/-- A method of an array with an arrow function. -/
def callArrowMethod (items : List Json) (name : String) (run : Json → EvalM Json) : EvalM Json :=
  let holds (v : Json) : EvalM Bool := return (← run v).truthy
  match name with
  | "map" => return .array (← items.mapM run)
  | "filter" => return .array (← filterItems holds items)
  | "find" => return (← firstItem holds items).getD .null
  | "some" => return .bool (← firstItem holds items).isSome
  | _ => return .bool (← firstItem (fun v => return !(← holds v)) items).isNone

/-- A method of a value. -/
def callMethod (receiver : Json) (name : String) (args : List Arg) : EvalM Json :=
  match receiver with
  | .string s => liftExcept (callTextMethod s.toList name (args.map Arg.value?))
  | .array items =>
    if arrowMethods.contains name then
      match args with
      | .arrow run :: _ => callArrowMethod items name run
      | _ => throw (.expectsArrow name)
    else liftExcept (callArrayMethod items name (args.map Arg.value?))
  | .null => throw (.callOnNull name)
  | v => throw (.notAFunctionOn name v.displayText)
where
  /-- A result that reads no bindings. -/
  liftExcept (r : Except EvalCause Json) : EvalM Json := ExceptT.mk (pure r)

/-! ## Expressions -/

mutual

/-- The value of an expression. -/
def Expr.eval (now : Calendar.Instant) : Expr → EvalM Json
  | .literal v => return v
  | .template pieces => return textValue (← evalPieces now pieces)
  | .array items => return .array (← evalItems now items)
  | .object entries => return .ofMembers (← evalEntries now entries)
  | .ident name => lookup name
  | .member object name optional => do
    let v ← object.eval now
    if optional && v.isNull then return .null
    ExceptT.mk (pure (property v name))
  | .index object key optional => do
    let v ← object.eval now
    if optional && v.isNull then return .null
    let k ← key.eval now
    ExceptT.mk (pure (element v k))
  | .call callee args => do
    let args ← evalArgs now args
    match callee with
    | .ident name => ExceptT.mk (pure (callGlobal now name (args.map Arg.value?)))
    | .member (.ident space) name _ =>
      if namespaces.contains space && ((← get).lookup space).isNone then
        ExceptT.mk (pure (callNamespaced space name (args.map Arg.value?)))
      else
        let receiver ← lookup space
        callMethod receiver name args
    | .member object name _ => do
      let receiver ← object.eval now
      callMethod receiver name args
    | callee => throw (.notCallable callee.listing)
  | .unary op operand => return op.apply (← operand.eval now)
  | .strict op left right => do
    let v ← left.eval now
    let w ← right.eval now
    return op.apply v w
  | .lazy op left right => do
    let v ← left.eval now
    if op.stopsAt v then return v
    right.eval now
  | .conditional test consequent alternate => do
    if (← test.eval now).truthy then consequent.eval now else alternate.eval now
  | .arrow _ _ => throw .strayArrow

/-- The text of the pieces of a template. -/
def evalPieces (now : Calendar.Instant) : List Piece → EvalM (List Char)
  | [] => return []
  | .text s :: pieces => return s ++ (← evalPieces now pieces)
  | .expr e :: pieces => do
    let v ← e.eval now
    return v.display ++ (← evalPieces now pieces)

def evalItems (now : Calendar.Instant) : List Expr → EvalM (List Json)
  | [] => return []
  | e :: items => do
    let v ← e.eval now
    return v :: (← evalItems now items)

def evalEntries (now : Calendar.Instant) : List (String × Expr) → EvalM (List (String × Json))
  | [] => return []
  | (key, e) :: entries => do
    let v ← e.eval now
    return (key, v) :: (← evalEntries now entries)

/-- The arguments of a call. An arrow function waits to be applied. -/
def evalArgs (now : Calendar.Instant) : List Expr → EvalM (List Arg)
  | [] => return []
  | .arrow param body :: args => do
    return .arrow (fun v => withBinding param v (body.eval now)) :: (← evalArgs now args)
  | e :: args => do
    let v ← e.eval now
    return .value v :: (← evalArgs now args)

end

/-- The value of an expression without bindings. -/
def Expr.value (now : Calendar.Instant) (e : Expr) : Except Error Json :=
  ((e.eval now).run.run []).1.mapError .eval

/-- Parses and evaluates a text. -/
def evaluate (now : Calendar.Instant) (source : List Char) : Except Error Json := do
  (← parse source).value now

/-- Parses without evaluating. -/
def checkSyntax (source : List Char) : Except Error Unit := do
  let _ ← parse source

end Formulary.Script
