/-!
# Whole numbers

Powers of whole numbers, and the zero that their sums start from, are those of the core library,
whatever else is in scope. A power of numerals alone is a natural number.
-/

namespace Formulary

@[default_instance 30000]
instance (priority := 20000) natPow : Pow Nat Nat := instPowNat

@[default_instance 20000]
instance (priority := 20000) intPow : Pow Int Nat := instPowNat

instance (priority := 20000) natZero : Zero Nat := ⟨0⟩

end Formulary
