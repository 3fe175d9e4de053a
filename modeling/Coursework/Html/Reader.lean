import Coursework.Html.Basic

/-!
# Reading markup

The markup of a page is read as a sequence of marks: tags that open an element, tags that close
one, and the texts between them. The reader has no vocabulary of its own, so any name can be read.
The value of an attribute ends at its quotation mark, and a text at the next tag. In both, an
ampersand has to begin one of the four references.
-/

namespace Coursework.Html

/-- A part of a page as it is read. -/
inductive Mark where
  | opening (name : String) (attributes : List (String × String))
  | closing (name : String)
  | text (content : String)
  deriving DecidableEq

/-- The characters that are meant by a text with references. -/
def unescaped? : List Char → Option (List Char)
  | [] => some []
  | '&' :: 'a' :: 'm' :: 'p' :: ';' :: rest => (unescaped? rest).map ('&' :: ·)
  | '&' :: 'l' :: 't' :: ';' :: rest => (unescaped? rest).map ('<' :: ·)
  | '&' :: 'g' :: 't' :: ';' :: rest => (unescaped? rest).map ('>' :: ·)
  | '&' :: 'q' :: 'u' :: 'o' :: 't' :: ';' :: rest => (unescaped? rest).map ('\"' :: ·)
  | c :: rest => if c = '&' then none else (unescaped? rest).map (c :: ·)

/-- A character of a name. -/
def isNameChar (c : Char) : Bool := c.isAlphanum || c = '-'

/-- An opening tag, as far as it has been read. -/
structure TagStart where
  name : String
  attributes : List (String × String)

/-- The marks of a text, the first of which is the rest of an opening tag if one has been begun. -/
def marks? (tag : Option TagStart) (cs : List Char) : Option (List Mark) :=
  match tag, cs with
  | none, [] => some []
  | none, '<' :: '/' :: rest =>
    let name := rest.takeWhile isNameChar
    let after := rest.dropWhile isNameChar
    if name ≠ [] ∧ after.head? = some '>' then
      (marks? none after.tail).map (.closing (String.ofList name) :: ·)
    else none
  | none, '<' :: rest =>
    let name := rest.takeWhile isNameChar
    if name ≠ [] then marks? (some ⟨String.ofList name, []⟩) (rest.dropWhile isNameChar)
    else none
  | none, c :: rest => do
    let content ← unescaped? (c :: rest.takeWhile (· != '<'))
    let others ← marks? none (rest.dropWhile (· != '<'))
    return .text (String.ofList content) :: others
  | some tag, '>' :: rest => (marks? none rest).map (.opening tag.name tag.attributes :: ·)
  | some tag, ' ' :: rest =>
    let name := rest.takeWhile isNameChar
    let assigned := rest.dropWhile isNameChar
    let quoted := assigned.drop 2
    if name ≠ [] ∧ assigned.take 2 = ['=', '\"'] ∧ '\"' ∈ quoted then do
      let value ← unescaped? (quoted.takeWhile (· != '\"'))
      marks? (some ⟨tag.name, tag.attributes ++ [(String.ofList name, String.ofList value)]⟩)
        (quoted.dropWhile (· != '\"')).tail
    else none
  | some _, _ => none
termination_by cs.length
decreasing_by
  · have shorter := (rest.dropWhile_sublist isNameChar).length_le
    grind
  · have shorter := (rest.dropWhile_sublist isNameChar).length_le
    grind
  · have shorter := (rest.dropWhile_sublist (· != '<')).length_le
    grind
  · simp
  · have named := (rest.dropWhile_sublist isNameChar).length_le
    have shorter := (((rest.dropWhile isNameChar).drop 2).dropWhile_sublist (· != '\"')).length_le
    grind

/-- The marks of a page. -/
def read? (page : String) : Option (List Mark) := marks? none page.toList

/-- Elements that have no content, nor a closing tag. -/
def voidNames : List String :=
  ["area", "base", "br", "col", "embed", "hr", "img", "input", "link", "meta", "source", "track",
    "wbr"]

/-- The elements that are open after the marks, the innermost first. There are none if a closing
tag does not close the innermost one. -/
def openAfter? (opened : List String) : List Mark → Option (List String)
  | [] => some opened
  | .opening name _ :: rest =>
    openAfter? (if name ∈ voidNames then opened else name :: opened) rest
  | .closing name :: rest =>
    match opened with
    | [] => none
    | innermost :: outer => if innermost = name then openAfter? outer rest else none
  | .text _ :: rest => openAfter? opened rest

/-- Every element is closed, and within the one in which it was opened. -/
def Balanced (marks : List Mark) : Prop := openAfter? [] marks = some []

instance (marks : List Mark) : Decidable (Balanced marks) :=
  inferInstanceAs (Decidable (openAfter? [] marks = some []))

end Coursework.Html
