import Formulary.Display.FormView
import Formulary.Notice

/-!
# What is on the screen besides the form

The latest notices, the errors that wait to be dismissed one after another, and what was saved last.
-/

namespace Formulary.Display

structure Board where
  form : FormView := {}
  /-- The latest notices, the oldest first. -/
  notices : List Notice := []
  /-- The errors that wait, the oldest first. -/
  errors : List String := []
  saved : Option String := none

namespace Board

/-- The number of notices that are kept. -/
def noticeLimit : Nat := 20

/-- Adds a notice; the oldest makes room for it. -/
def notify (b : Board) (n : Notice) : Board :=
  let kept := if b.notices.length = noticeLimit then b.notices.drop 1 else b.notices
  { b with notices := kept ++ [n] }

def latestNotice? (b : Board) : Option Notice := b.notices.getLast?

def addError (b : Board) (message : String) : Board := { b with errors := b.errors ++ [message] }

/-- The error that is shown. -/
def error? (b : Board) : Option String := b.errors.head?

/-- Takes away the error that is shown. -/
def dismiss (b : Board) : Board := { b with errors := b.errors.drop 1 }

/-- Says what was saved, in place of the notices. -/
def announce (b : Board) (saved : String) : Board := { b with notices := [], saved := some saved }

end Board

end Formulary.Display
