import Formulary.Number.Binary64

/-!
# JSON values

Numbers are integers or doubles, and the two stay distinct. The members of an object stand in the
order of their keys; `Json.ofMembers` brings written members into that order, a later member
replacing an earlier one of the same key.
-/

namespace Formulary

inductive Json where
  | null
  | bool (value : Bool)
  | int (value : Int)
  | float (value : Binary64)
  | string (text : String)
  | array (items : List Json)
  | object (members : List (String × Json))

/-- Keys with their values. -/
abbrev Members := List (String × Json)

namespace Members

/-- The value under a key. -/
def get? (members : Members) (key : String) : Option Json := members.lookup key

/-- The members with `value` under `key`, in the order of keys. -/
def insert (key : String) (value : Json) : Members → Members
  | [] => [(key, value)]
  | (k, v) :: rest =>
    if key = k then (key, value) :: rest
    else if key < k then (key, value) :: (k, v) :: rest
    else (k, v) :: insert key value rest

/-- Written members in the order of keys; the last of one key counts. -/
def ofWritten (written : Members) : Members :=
  written.foldl (fun members (key, value) => members.insert key value) []

end Members

namespace Json

instance : Inhabited Json := ⟨.null⟩

/-- An object from members as written. -/
def ofMembers (written : Members) : Json := .object (Members.ofWritten written)

/-- An array of strings. -/
def ofStrings (texts : List String) : Json := .array (texts.map .string)

def isNull : Json → Bool
  | .null => true
  | _ => false

def isString : Json → Bool
  | .string _ => true
  | _ => false

/-- The value under a key of an object. -/
def get? (key : String) : Json → Option Json
  | .object members => Members.get? members key
  | _ => none

/-! ## Order of keys -/

mutual

/-- The value with the members of every object in the order of keys. -/
def normalized : Json → Json
  | .array items => .array (normalizedItems items)
  | .object members => ofMembers (normalizedMembers members)
  | v => v

def normalizedItems : List Json → List Json
  | [] => []
  | v :: items => v.normalized :: normalizedItems items

def normalizedMembers : List (String × Json) → List (String × Json)
  | [] => []
  | (k, v) :: members => (k, v.normalized) :: normalizedMembers members

end

/-! ## Equality -/

mutual

/-- The values are equal. An integer never equals a double, and doubles are equal as numbers. -/
def same : Json → Json → Bool
  | .null, .null => true
  | .bool a, .bool b => a == b
  | .int a, .int b => a == b
  | .float a, .float b => a.sameValue b
  | .string a, .string b => a == b
  | .array a, .array b => sameItems a b
  | .object a, .object b => sameMembers a b
  | _, _ => false

def sameItems : List Json → List Json → Bool
  | [], [] => true
  | v :: a, w :: b => v.same w && sameItems a b
  | _, _ => false

def sameMembers : List (String × Json) → List (String × Json) → Bool
  | [], [] => true
  | (k, v) :: a, (l, w) :: b => k == l && v.same w && sameMembers a b
  | _, _ => false

end

end Json

end Formulary
