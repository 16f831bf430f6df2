import Formulary.Calendar.Date
import Formulary.Script.Error
import Formulary.Script.Value
import Formulary.Json.Reader
import Formulary.Text.Case

/-!
# Functions and methods without callbacks

What expressions can call: the global functions, the functions of the namespaces `Math`, `Object`
and `JSON`, the methods of texts, and the methods of arrays that take no arrow function. An
argument is `none` where the call gives an arrow function.
-/

namespace Formulary.Script

/-! ## Arguments -/

/-- The values of the arguments of a call. -/
abbrev Args := List (Option Json)

/-- The argument at an index; null where there is no value. -/
def Args.value (args : Args) (i : Nat) : Json := (args[i]?.join).getD .null

/-- The argument at an index as text; null is empty. -/
def Args.text (args : Args) (i : Nat) : List Char :=
  match args.value i with
  | .null => []
  | v => v.display

/-- A position in `length` things: negative ones count from the end, and all are held within. -/
def positionOf (length : Nat) (v : Json) : Nat :=
  let x := v.toNumber
  if x.isNaN then 0
  else
    let n := x.toInt64
    if n < 0 then (length + n).toNat else min n.toNat length

/-- The position that an argument gives, or `default` without a value. -/
def Args.position (args : Args) (i length default : Nat) : Nat :=
  match args.value i with
  | .null => default
  | v => positionOf length v

/-- The index that an argument gives to a single element; negative ones count from the end. -/
def Args.element? (args : Args) (i length : Nat) : Option Nat :=
  let n := (args.value i).toNumber.toInt64
  let n := if n < 0 then length + n else n
  if n < 0 then none else some n.toNat

/-- The elements from `start` on and before `stop`. -/
def between {α : Type} (xs : List α) (start stop : Nat) : List α := (xs.take stop).drop start

/-! ## Functions -/

def namespaces : List String := ["Math", "Object", "JSON"]

/-- A text value. -/
def textValue (s : List Char) : Json := .string (String.ofList s)

/-- The keys, the values or both of an object, in the order of its keys. -/
def objectParts (name : String) (v : Json) : Json :=
  match v with
  | .object members => .array (members.map fun (key, value) =>
      if name = "keys" then .string key
      else if name = "values" then value
      else .array [.string key, value])
  | _ => .array []

/-- A function of a namespace. -/
def callNamespaced (space name : String) (args : Args) : Except EvalCause Json :=
  match space, name with
  | "Object", "keys" | "Object", "values" | "Object", "entries" =>
    .ok (objectParts name (args.value 0))
  | "Math", "round" => .ok (.ofNumber ((args.value 0).toNumber.add Binary64.half).floor)
  | "Math", "floor" => .ok (.ofNumber (args.value 0).toNumber.floor)
  | "Math", "ceil" => .ok (.ofNumber (args.value 0).toNumber.ceil)
  | "Math", "abs" => .ok (.ofNumber (args.value 0).toNumber.abs)
  | "Math", "min" =>
    .ok (.ofNumber ((args.filterMap id).foldl (fun x v => x.min v.toNumber) (.infinite false)))
  | "Math", "max" =>
    .ok (.ofNumber ((args.filterMap id).foldl (fun x v => x.max v.toNumber) (.infinite true)))
  | "JSON", "stringify" => .ok (.string (args.value 0).text)
  | "JSON", "parse" =>
    match Json.ofText? (args.text 0) with
    | some v => .ok v
    | none => .error .unreadableJson
  | _, _ => .error (.notAFunction (space ++ "." ++ name))

/-- A global function; `now` is the present instant. -/
def callGlobal (now : Calendar.Instant) (name : String) (args : Args) : Except EvalCause Json :=
  match name with
  | "today" => .ok (.string (((Calendar.dateOf? now).map Calendar.Date.text).getD ""))
  | "time" => .ok (.string (((Calendar.timeOf? now).map Calendar.Time.text).getD ""))
  | "now" => .ok (.int now)
  | "Number" => .ok (.ofNumber (args.value 0).toNumber)
  | "String" => .ok (textValue (args.value 0).display)
  | "Boolean" => .ok (.bool (args.value 0).truthy)
  | "keys" | "values" | "entries" => callNamespaced "Object" name args
  | _ => .error (.notAFunction name)

/-! ## Methods of texts -/

/-- The longest text that padding makes. -/
def padLimit : Nat := 4096

/-- The filling that brings `length` characters to the width of an argument. -/
def padding (name : String) (args : Args) (length : Nat) : Except EvalCause (List Char) :=
  let width := (args.value 0).toNumber.max 0
  if (Binary64.ofNat padLimit).lt width then
    .error (.padTooWide name (String.ofList (Decimal.Layout.full.text width)) padLimit)
  else
    let fill := match args.value 1 with
      | .null => [' ']
      | v => v.display
    let missing := width.toNat64 - length
    .ok ((List.replicate missing fill).flatten.take missing)

/-- The pieces of a text around a separator: its characters if the separator is empty. -/
def splitText (s : List Char) (separator : Json) : List Json :=
  match separator with
  | .null => [textValue s]
  | separator =>
    let separator := separator.display
    if separator.isEmpty then s.map fun c => textValue [c]
    else (Text.splitOn separator s).map textValue

/-- A method of a text. -/
def callTextMethod (s : List Char) (name : String) (args : Args) : Except EvalCause Json :=
  match name with
  | "toLowerCase" | "toLocaleLowerCase" => .ok (textValue (Text.lower s))
  | "toUpperCase" | "toLocaleUpperCase" => .ok (textValue (Text.upper s))
  | "trim" => .ok (textValue (Text.trim s))
  | "trimStart" => .ok (textValue (Text.trimStart s))
  | "trimEnd" => .ok (textValue (Text.trimEnd s))
  | "toString" => .ok (textValue s)
  | "includes" => .ok (.bool (Text.contains (args.text 0) s))
  | "startsWith" => .ok (.bool ((args.text 0).isPrefixOf s))
  | "endsWith" => .ok (.bool ((args.text 0).isSuffixOf s))
  | "indexOf" =>
    match Text.cut? (args.text 0) s with
    | some (before, _) => .ok (.int before.length)
    | none => .ok (.int (-1))
  | "replace" => .ok (textValue (Text.replaceFirst (args.text 0) (args.text 1) s))
  | "replaceAll" =>
    if (args.text 0).isEmpty then .ok (textValue s)
    else .ok (textValue (Text.replaceAll (args.text 0) (args.text 1) s))
  | "split" => .ok (.array (splitText s (args.value 0)))
  | "slice" =>
    .ok (textValue (between s (args.position 0 s.length 0) (args.position 1 s.length s.length)))
  | "substring" =>
    let start := args.position 0 s.length 0
    let stop := args.position 1 s.length s.length
    .ok (textValue (between s (min start stop) (max start stop)))
  | "padStart" => do return textValue ((← padding name args s.length) ++ s)
  | "padEnd" => do return textValue (s ++ (← padding name args s.length))
  | "concat" => .ok (textValue (s ++ (args.filterMap id).flatMap Json.display))
  | "at" =>
    match (args.element? 0 s.length).bind (s[·]?) with
    | some c => .ok (textValue [c])
    | none => .ok .null
  | _ => .error (.notAStringMethod name)

/-! ## Methods of arrays -/

/-- A method of an array that takes no arrow function. -/
def callArrayMethod (items : List Json) (name : String) (args : Args) : Except EvalCause Json :=
  match name with
  | "includes" => .ok (.bool (items.any (·.looselyEquals (args.value 0))))
  | "indexOf" =>
    match items.findIdx? (·.looselyEquals (args.value 0)) with
    | some i => .ok (.int i)
    | none => .ok (.int (-1))
  | "join" =>
    let separator := match args.value 0 with
      | .null => [',']
      | v => v.display
    .ok (textValue (Text.join separator (Json.displayItems items)))
  | "slice" =>
    .ok (.array (between items (args.position 0 items.length 0)
      (args.position 1 items.length items.length)))
  | "concat" =>
    .ok (.array (items ++ (args.filterMap id).flatMap fun
      | .array more => more
      | v => [v]))
  | "reverse" => .ok (.array items.reverse)
  | "at" => .ok (((args.element? 0 items.length).bind (items[·]?)).getD .null)
  | _ => .error (.notAnArrayMethod name)

end Formulary.Script
