import Coursework.Text.PrintableTable

/-!
# Quoted text in messages

A text that a message quotes stands between double quotes. Inside, a quote, a backslash and the
common control characters have an escape of two characters; any other character that could not
be seen, or that would join the one before it, is given by its code point in hexadecimal.
-/

namespace Coursework.Text

/-- The character can be shown as it is. -/
def isShown (c : Char) : Bool :=
  !graphemeExtendRanges.contains c && !unprintableRanges.contains c && !fillerRanges.contains c

/-- The code point of the character between braces. -/
def codePointEscape (c : Char) : List Char :=
  ['\\', 'u', '\x7b'] ++ Nat.toDigits 16 c.toNat ++ ['\x7d']

/-- One character as it stands between the quotes. -/
def quotedChar (c : Char) : List Char :=
  match c with
  | '\x00' => ['\\', '0']
  | '\t' => ['\\', 't']
  | '\n' => ['\\', 'n']
  | '\r' => ['\\', 'r']
  | '\\' => ['\\', '\\']
  | '\"' => ['\\', '\"']
  | c => if isShown c then [c] else codePointEscape c

/-- The text between double quotes, with escapes. -/
def quoted (s : String) : String :=
  String.ofList ('\"' :: s.toList.flatMap quotedChar ++ ['\"'])

end Coursework.Text
