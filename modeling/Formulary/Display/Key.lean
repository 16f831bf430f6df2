/-!
# Keys

The keys by which a form is filled in.
-/

namespace Formulary.Display

inductive Key.Code where
  | char (c : Char)
  | enter
  | escape
  | tab
  | backTab
  | left
  | right
  | up
  | down
  | backspace
  | delete
  deriving DecidableEq

structure Key where
  code : Key.Code
  /-- The control key is held. -/
  control : Bool := false
  deriving DecidableEq

/-! ## Keys by name -/

/-- The key of a name. -/
def Key.ofName? : String → Option Key
  | "enter" => some ⟨.enter, false⟩
  | "esc" => some ⟨.escape, false⟩
  | "tab" => some ⟨.tab, false⟩
  | "backtab" => some ⟨.backTab, false⟩
  | "left" => some ⟨.left, false⟩
  | "right" => some ⟨.right, false⟩
  | "up" => some ⟨.up, false⟩
  | "down" => some ⟨.down, false⟩
  | "backspace" => some ⟨.backspace, false⟩
  | "delete" => some ⟨.delete, false⟩
  | "submit" => some ⟨.char 's', true⟩
  | _ => none

/-- The keys that a line stands for: one by its name after a colon, or characters as typed. -/
def Key.ofLine (line : List Char) : List Key :=
  let typed := line.map fun c => (⟨.char c, false⟩ : Key)
  match line with
  | ':' :: name => match Key.ofName? (String.ofList name) with
    | some key => [key]
    | none => typed
  | _ => typed

end Formulary.Display
