/-!
# Lines

A line ends with a line feed, or with a carriage return and a line feed.
-/

namespace Formulary.Text

/-- A line without the carriage return at its end; the last character stands first in it. -/
def withoutReturn : List Char → List Char
  | '\r' :: line => line
  | line => line

/-- The lines of a text; `line` is the line under way, its last character first. -/
def linesFrom (line : List Char) : List Char → List (List Char)
  | [] => if line.isEmpty then [] else [line.reverse]
  | '\n' :: s => (withoutReturn line).reverse :: linesFrom [] s
  | c :: s => linesFrom (c :: line) s

/-- The lines of a text. An end of line at the end of the text starts no further line. -/
def lines (s : List Char) : List (List Char) := linesFrom [] s

end Formulary.Text
