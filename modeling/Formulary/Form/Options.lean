/-!
# Options of a dropdown

An option comes from the definition, or it was contributed on the occasion of some field's change:
by the expression of the options, or by a value that was not among them. Contributions are marked,
so that the next one on the same occasion replaces them.
-/

namespace Formulary.Form

/-- How an option came in. -/
inductive Origin where
  | options
  | value
  deriving DecidableEq, Repr

/-- The field whose change contributed an option, and how. -/
structure Provenance where
  source : String
  origin : Origin
  deriving DecidableEq, Repr

/-- An option; without a mark it comes from the definition. -/
structure Entry where
  value : String
  mark : Option Provenance
  deriving DecidableEq, Repr

/-- The options in order. -/
structure OptionSet where
  entries : List Entry := []
  deriving DecidableEq, Repr

namespace OptionSet

def values (o : OptionSet) : List String := o.entries.map Entry.value

def contains (o : OptionSet) (value : String) : Bool := o.values.contains value

def first? (o : OptionSet) : Option String := o.values.head?

def isEmpty (o : OptionSet) : Bool := o.entries.isEmpty

/-- The options with a new one at the end, unless it is empty or there already. -/
def push (o : OptionSet) (mark : Option Provenance) (value : String) : OptionSet :=
  if value.isEmpty || o.contains value then o else ⟨o.entries ++ [⟨value, mark⟩]⟩

/-- The options of a definition. -/
def fixed (values : List String) : OptionSet := values.foldl (·.push none) {}

/-- The options without those of a mark. -/
def drop (o : OptionSet) (mark : Provenance) : OptionSet :=
  ⟨o.entries.filter (·.mark != some mark)⟩

/-- The options with `values` in place of those of a mark. -/
def merge (o : OptionSet) (mark : Provenance) (values : List String) : OptionSet :=
  values.foldl (·.push (some mark)) (o.drop mark)

/-- The options with one value in place of those of a mark, if it is not there already, and whether
it was new. -/
def inject (o : OptionSet) (mark : Provenance) (value : String) : OptionSet × Bool :=
  if value.isEmpty || o.contains value then (o, false)
  else ((o.drop mark).push (some mark) value, true)

end OptionSet

end Formulary.Form
