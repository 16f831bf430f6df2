/-!
# Notices

Short messages for the person who fills in a form.
-/

namespace Formulary

inductive Notice.Level where
  | info
  | warning
  | error
  deriving DecidableEq, Repr

structure Notice where
  level : Notice.Level
  message : String
  deriving DecidableEq, Repr

def Notice.info (message : String) : Notice := ⟨.info, message⟩

def Notice.warning (message : String) : Notice := ⟨.warning, message⟩

def Notice.error (message : String) : Notice := ⟨.error, message⟩

end Formulary
