/-!
# Lines of a text

A line ends at a line feed, and a carriage return right before the line feed belongs to the
terminator. The last line needs no terminator, and a terminator at the very end starts no
further line. A carriage return anywhere else is part of its line.
-/

namespace Coursework.Text

/-- The line without a carriage return at its end. -/
def dropReturn (line : List Char) : List Char :=
  match line.reverse with
  | '\r' :: rest => rest.reverse
  | _ => line

/-- The lines of `cs`, the first of which continues the characters of `line`, given in reverse
order. -/
def linesFrom (line : List Char) : List Char → List (List Char)
  | [] => if line.isEmpty then [] else [line.reverse]
  | '\n' :: rest => dropReturn line.reverse :: linesFrom [] rest
  | c :: rest => linesFrom (c :: line) rest

/-- The lines of a text. -/
def lines (s : String) : List String :=
  (linesFrom [] s.toList).map String.ofList

end Coursework.Text
