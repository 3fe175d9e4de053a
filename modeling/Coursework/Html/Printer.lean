import Coursework.Html.Basic

/-!
# Printing markup

A tree is printed as a sequence of tags and texts. In texts the three characters of markup are
escaped, in the values of attributes also the quotation mark, so neither can end early or begin
a tag.
-/

namespace Coursework.Html

/-- A character of a text. -/
def escapedChar : Char → List Char
  | '&' => "&amp;".toList
  | '<' => "&lt;".toList
  | '>' => "&gt;".toList
  | c => [c]

/-- A character of the value of an attribute. -/
def quotedChar : Char → List Char
  | '\"' => "&quot;".toList
  | c => escapedChar c

/-- A text with the characters of markup escaped. -/
def escaped (s : String) : String := String.ofList (s.toList.flatMap escapedChar)

/-- The value of an attribute, to be put in quotation marks. -/
def quoted (s : String) : String := String.ofList (s.toList.flatMap quotedChar)

/-- A part of a printed page. -/
inductive Token where
  | opening (name : String) (attributes : List Attribute)
  | closing (name : String)
  | text (content : String)
  deriving DecidableEq

/-- An attribute as it stands in an opening tag. -/
def Attribute.print (given : Attribute) : String :=
  " " ++ given.name.text ++ "=\"" ++ quoted given.value ++ "\""

/-- A part as it is printed. -/
def Token.print : Token → String
  | opening name attributes => "<" ++ name ++ String.join (attributes.map Attribute.print) ++ ">"
  | closing name => "</" ++ name ++ ">"
  | text content => escaped content

/-- What is shown for a text from the data. -/
def shown (data : String) : String := if data = "" then " " else data

mutual

/-- The parts of a node. -/
def Node.tokens : Node → List Token
  | .text wording => [.text wording]
  | .value data => [.text (shown data)]
  | .void tag attributes => [.opening tag.name attributes]
  | .element tag attributes children =>
    .opening tag.name attributes :: tokens children ++ [.closing tag.name]

/-- The parts of a piece of a page. -/
def tokens : List Node → List Token
  | [] => []
  | node :: rest => node.tokens ++ tokens rest

end

/-- A piece of a page as it is sent. -/
def print (html : Html) : String := String.join ((tokens html).map Token.print)

@[simp] theorem tokens_nil : tokens [] = [] := by simp [tokens]

@[simp] theorem tokens_cons (node : Node) (rest : List Node) :
    tokens (node :: rest) = node.tokens ++ tokens rest := by simp [tokens]

@[simp] theorem tokens_append (first second : List Node) :
    tokens (first ++ second) = tokens first ++ tokens second := by
  induction first with
  | nil => simp
  | cons node rest ih => simp [ih]

@[simp] theorem print_nil : print [] = "" := by simp [print]

/-- Pieces of a page are printed one after the other. -/
@[simp] theorem print_append (first second : Html) :
    print (first ++ second) = print first ++ print second := by
  simp [print, String.join_append]

end Coursework.Html
