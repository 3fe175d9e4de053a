/-!
# Markup

A piece of a page is a list of nodes, each a text or an element. The names of elements and
attributes come from enumerations, so no tree can have another one; texts and the values of
attributes are any texts, and only printing makes them harmless.

`Node.text` is wording of the page itself. `Node.value` is a text from the data, which may be
empty and is then shown as one blank, so that there is always something to show.
-/

namespace Coursework

namespace Html

/-- An element with content. -/
inductive Tag where
  | a
  | button
  | code
  | div
  | h2
  | h3
  | h4
  | i
  | label
  | li
  | mainPart
  | nav
  | option
  | p
  | select
  | small
  | span
  | strong
  | table
  | tbody
  | td
  | tfoot
  | th
  | thead
  | tr
  | ul
  deriving DecidableEq

/-- The name of the element. -/
def Tag.name : Tag → String
  | a => "a"
  | button => "button"
  | code => "code"
  | div => "div"
  | h2 => "h2"
  | h3 => "h3"
  | h4 => "h4"
  | i => "i"
  | label => "label"
  | li => "li"
  | mainPart => "main"
  | nav => "nav"
  | option => "option"
  | p => "p"
  | select => "select"
  | small => "small"
  | span => "span"
  | strong => "strong"
  | table => "table"
  | tbody => "tbody"
  | td => "td"
  | tfoot => "tfoot"
  | th => "th"
  | thead => "thead"
  | tr => "tr"
  | ul => "ul"

/-- An element that never has content, nor a closing tag. -/
inductive VoidTag where
  | br
  | img
  | input
  deriving DecidableEq

/-- The name of the element. -/
def VoidTag.name : VoidTag → String
  | br => "br"
  | img => "img"
  | input => "input"

/-- What an attribute is about. -/
inductive AttributeName where
  | alt
  | ariaCurrent
  | cssClass
  | colspan
  | href
  | max
  | min
  | placeholder
  | role
  | src
  | style
  | type
  | value
  deriving DecidableEq

/-- The name of the attribute. -/
def AttributeName.text : AttributeName → String
  | alt => "alt"
  | ariaCurrent => "aria-current"
  | cssClass => "class"
  | colspan => "colspan"
  | href => "href"
  | max => "max"
  | min => "min"
  | placeholder => "placeholder"
  | role => "role"
  | src => "src"
  | style => "style"
  | type => "type"
  | value => "value"

/-- An attribute with its value. -/
structure Attribute where
  name : AttributeName
  value : String
  deriving DecidableEq

namespace Attribute

/-- The classes of an element. Those that are empty are left out. -/
def classes (names : List String) : Attribute :=
  ⟨.cssClass, " ".intercalate (names.filter (· ≠ ""))⟩

/-- The style of an element. The declarations are closed by a semicolon. -/
def style (declarations : String) : Attribute :=
  ⟨.style, declarations ++ ";"⟩

/-- The address that a link leads to. -/
def href (uri : String) : Attribute := ⟨.href, uri⟩

@[simp] theorem classes_name (names : List String) : (classes names).name = .cssClass := rfl

@[simp] theorem style_name (declarations : String) : (style declarations).name = .style := rfl

@[simp] theorem href_name (uri : String) : (href uri).name = .href := rfl

end Attribute

/-- A text or an element. -/
inductive Node where
  /-- Wording of the page. -/
  | text (wording : String)
  /-- A text from the data. -/
  | value (data : String)
  | void (tag : VoidTag) (attributes : List Attribute)
  | element (tag : Tag) (attributes : List Attribute) (children : List Node)

namespace Node

/-- An element without attributes. -/
def bare (tag : Tag) (children : List Node) : Node := .element tag [] children

/-- An element with classes and no other attribute. -/
def classed (tag : Tag) (names : String) (children : List Node) : Node :=
  .element tag [.classes [names]] children

end Node

end Html

/-- A piece of a page. -/
abbrev Html := List Html.Node

end Coursework
