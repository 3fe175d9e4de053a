import Coursework.Html.Printer
import Coursework.Html.Reader

/-!
# Printed markup is read back

The main theorem is `read?_print`: a printed piece of a page is read as the tags and the texts that
it shows, whatever its texts and the values of its attributes are. The induction is over the
parts that are printed. A text of the page may be followed by another one, and the reader cannot
tell them apart, so the statement carries the text that has been printed since the last tag.

`balanced_joined` says that each of these tags is closed where it was opened.
-/

namespace Coursework.Html

/-! ## Escaped texts -/

theorem unescaped?_cons {c : Char} (plain : c ≠ '&') (rest : List Char) :
    unescaped? (c :: rest) = (unescaped? rest).map (c :: ·) := by
  rw [unescaped?, if_neg plain]
  all_goals
    rintro _ rfl
    exact fun _ => plain rfl

/-- A character of a text is read as itself. -/
theorem unescaped?_escapedChar (c : Char) (rest : List Char) :
    unescaped? (escapedChar c ++ rest) = (unescaped? rest).map (c :: ·) := by
  unfold escapedChar
  split
  · simp [unescaped?]
  · simp [unescaped?]
  · simp [unescaped?]
  · rename_i noAmpersand _ _
    exact unescaped?_cons noAmpersand rest

/-- A character of a value is read as itself. -/
theorem unescaped?_quotedChar (c : Char) (rest : List Char) :
    unescaped? (quotedChar c ++ rest) = (unescaped? rest).map (c :: ·) := by
  unfold quotedChar
  split
  · simp [unescaped?]
  · exact unescaped?_escapedChar c rest

theorem lt_not_mem_escapedChar (c : Char) : '<' ∉ escapedChar c := by
  unfold escapedChar
  split
  · decide
  · decide
  · decide
  · rename_i noLess _
    simpa using Ne.symm noLess

theorem quote_not_mem_quotedChar (c : Char) : '\"' ∉ quotedChar c := by
  unfold quotedChar
  split
  · decide
  · rename_i noQuote
    unfold escapedChar
    split
    · decide
    · decide
    · decide
    · simpa using Ne.symm noQuote

/-- If each character is read as itself, so is a text. -/
theorem unescaped?_flatMap {written : Char → List Char}
    (step : ∀ c rest, unescaped? (written c ++ rest) = (unescaped? rest).map (c :: ·))
    (cs : List Char) : unescaped? (cs.flatMap written) = some cs := by
  induction cs with
  | nil => rfl
  | cons c cs ih => rw [List.flatMap_cons, step, ih, Option.map_some]

/-- What is written of an escaped text, and of a value. -/
theorem unescaped?_escaped (s : String) : unescaped? (escaped s).toList = some s.toList := by
  rw [escaped, String.toList_ofList]
  exact unescaped?_flatMap unescaped?_escapedChar s.toList

theorem unescaped?_quoted (s : String) : unescaped? (quoted s).toList = some s.toList := by
  rw [quoted, String.toList_ofList]
  exact unescaped?_flatMap unescaped?_quotedChar s.toList

theorem lt_not_mem_escaped (s : String) : '<' ∉ (escaped s).toList := by
  rw [escaped, String.toList_ofList, List.mem_flatMap]
  rintro ⟨c, _, member⟩
  exact lt_not_mem_escapedChar c member

theorem quote_not_mem_quoted (s : String) : '\"' ∉ (quoted s).toList := by
  rw [quoted, String.toList_ofList, List.mem_flatMap]
  rintro ⟨c, _, member⟩
  exact quote_not_mem_quotedChar c member

/-- The text of a part, and the values of its attributes, end where they should and mean what
they meant. -/
def Token.Unescapes : Token → Prop
  | opening _ attributes =>
    ∀ given ∈ attributes,
      '\"' ∉ (quoted given.value).toList ∧
        unescaped? (quoted given.value).toList = some given.value.toList
  | closing _ => True
  | text content =>
    '<' ∉ (escaped content).toList ∧ unescaped? (escaped content).toList = some content.toList

theorem Token.unescapes (part : Token) : part.Unescapes := by
  cases part with
  | opening name attributes =>
    exact fun given _ => ⟨quote_not_mem_quoted given.value, unescaped?_quoted given.value⟩
  | closing name => trivial
  | text content => exact ⟨lt_not_mem_escaped content, unescaped?_escaped content⟩

theorem escaped_append (first second : String) :
    escaped (first ++ second) = escaped first ++ escaped second := by
  simp [escaped, String.ofList_append]

theorem toList_escaped_eq_nil_iff {s : String} : (escaped s).toList = [] ↔ s = "" := by
  constructor
  · intro none
    have chars := unescaped?_escaped s
    rw [none, unescaped?, Option.some.injEq] at chars
    exact String.toList_eq_nil_iff.mp chars.symm
  · rintro rfl
    rfl

/-! ## Tags -/

/-- A run of characters ends where the next one fails the test. -/
theorem takeWhile_append_stop {α : Type} {test : α → Bool} {run : List α}
    (passes : ∀ x ∈ run, test x = true) (rest : List α)
    (stops : ∀ x ∈ rest.head?, test x = false) :
    (run ++ rest).takeWhile test = run ∧ (run ++ rest).dropWhile test = rest := by
  rw [List.takeWhile_append_of_pos passes, List.dropWhile_append_of_pos passes]
  cases rest with
  | nil => simp
  | cons x rest =>
    have fails : ¬ test x = true := by simp [stops x rfl]
    rw [List.takeWhile_cons_of_neg fails, List.dropWhile_cons_of_neg fails, List.append_nil]
    exact ⟨rfl, rfl⟩

/-- A name that can stand in a tag. -/
structure IsName (name : String) : Prop where
  nonempty : name.toList ≠ []
  chars : ∀ c ∈ name.toList, isNameChar c = true

theorem isName_iff {name : String} :
    IsName name ↔ name.toList ≠ [] ∧ name.toList.all isNameChar = true := by
  rw [List.all_eq_true]
  constructor
  · rintro ⟨nonempty, chars⟩
    exact ⟨nonempty, chars⟩
  · rintro ⟨nonempty, chars⟩
    exact ⟨nonempty, chars⟩

instance (name : String) : Decidable (IsName name) := decidable_of_iff _ isName_iff.symm

theorem Tag.isName (tag : Tag) : IsName tag.name := by
  cases tag <;> decide

theorem VoidTag.isName (tag : VoidTag) : IsName tag.name := by
  cases tag <;> decide

theorem AttributeName.isName (name : AttributeName) : IsName name.text := by
  cases name <;> decide

/-- A text up to the next tag is read as it was before it was escaped. -/
theorem marks?_escaped {content : String} {cs : List Char} (filled : content ≠ "")
    (upTo : ∀ c ∈ cs.head?, c = '<') :
    marks? none ((escaped content).toList ++ cs) =
      (marks? none cs).map (.text content :: ·) := by
  have noTag : ∀ c ∈ (escaped content).toList, (c != '<') = true := by
    intro c member
    exact bne_iff_ne.mpr fun same => lt_not_mem_escaped content (same ▸ member)
  have decoded := unescaped?_escaped content
  cases written : (escaped content).toList with
  | nil => exact absurd (toList_escaped_eq_nil_iff.mp written) filled
  | cons c rest =>
    rw [written] at noTag decoded
    have noLess : c ≠ '<' := bne_iff_ne.mp (noTag c List.mem_cons_self)
    obtain ⟨taken, dropped⟩ := takeWhile_append_stop
      (fun x member => noTag x (List.mem_cons_of_mem _ member)) cs
      (fun x here => by simp [upTo x here])
    rw [List.cons_append, marks?, taken, dropped, decoded]
    · rw [Option.bind_eq_bind, Option.bind_some, String.ofList_toList]
      cases marks? none cs <;> rfl
    -- The character is not one that begins a tag.
    · exact fun _ less => absurd less noLess
    · exact noLess

/-- An attribute with its name and its value as they are to be read. -/
def Attribute.pair (given : Attribute) : String × String := (given.name.text, given.value)

theorem Attribute.toList_print (given : Attribute) :
    given.print.toList =
      ' ' :: (given.name.text.toList ++
        '=' :: '\"' :: ((quoted given.value).toList ++ ['\"'])) := by
  simp [Attribute.print]

/-- The value of an attribute is read as it was before it was quoted. -/
theorem marks?_attribute (given : Attribute) (tag : TagStart) (cs : List Char) :
    marks? (some tag) (given.print.toList ++ cs) =
      marks? (some ⟨tag.name, tag.attributes ++ [given.pair]⟩) cs := by
  have named := given.name.isName
  have noQuote : ∀ c ∈ (quoted given.value).toList, (c != '\"') = true := by
    intro c member
    exact bne_iff_ne.mpr fun same => quote_not_mem_quoted given.value (same ▸ member)
  obtain ⟨name, assigned⟩ := takeWhile_append_stop named.chars
    ('=' :: '\"' :: ((quoted given.value).toList ++ '\"' :: cs)) (by simp [isNameChar])
  obtain ⟨value, after⟩ := takeWhile_append_stop noQuote ('\"' :: cs) (by simp)
  have shape : given.print.toList ++ cs =
      ' ' :: (given.name.text.toList ++
        '=' :: '\"' :: ((quoted given.value).toList ++ '\"' :: cs)) := by
    simp [given.toList_print]
  rw [shape, marks?, name, assigned, List.drop_succ_cons, List.drop_succ_cons, List.drop_zero,
    value, after, unescaped?_quoted]
  simp [named.nonempty, Attribute.pair]

/-- After the attributes a tag is complete. -/
theorem marks?_attributes (attributes : List Attribute) (tag : TagStart) (cs : List Char) :
    marks? (some tag) ((String.join (attributes.map Attribute.print)).toList ++ '>' :: cs) =
      (marks? none cs).map
        (.opening tag.name (tag.attributes ++ attributes.map Attribute.pair) :: ·) := by
  induction attributes generalizing tag with
  | nil => simp [marks?]
  | cons given attributes ih =>
    rw [List.map_cons, String.join_cons, String.toList_append, List.append_assoc,
      marks?_attribute, ih, List.map_cons, List.append_assoc, List.singleton_append]

theorem IsName.exists_cons {name : String} (isName : IsName name) :
    ∃ c rest, name.toList = c :: rest ∧ isNameChar c = true := by
  cases chars : name.toList with
  | nil => exact absurd chars isName.nonempty
  | cons c rest =>
    exact ⟨c, rest, rfl, isName.chars c (chars ▸ List.mem_cons_self)⟩

/-- An opening tag is read with the values of its attributes. -/
theorem marks?_opening {name : String} (isName : IsName name) (attributes : List Attribute)
    (cs : List Char) :
    marks? none ((Token.opening name attributes).print.toList ++ cs) =
      (marks? none cs).map (.opening name (attributes.map Attribute.pair) :: ·) := by
  have ends : ∀ c ∈
      ((String.join (attributes.map Attribute.print)).toList ++ '>' :: cs).head?,
      isNameChar c = false := by
    cases attributes with
    | nil => simp [isNameChar]
    | cons given rest => simp [given.toList_print, isNameChar]
  obtain ⟨read, after⟩ := takeWhile_append_stop isName.chars _ ends
  have shape : (Token.opening name attributes).print.toList ++ cs =
      '<' :: (name.toList ++
        ((String.join (attributes.map Attribute.print)).toList ++ '>' :: cs)) := by
    simp [Token.print]
  rw [shape, marks?, read, after, if_pos isName.nonempty, String.ofList_toList,
    marks?_attributes, List.nil_append]
  -- A name does not begin with a slash, so the tag is not a closing one.
  intro rest slash
  obtain ⟨c, others, chars, named⟩ := isName.exists_cons
  rw [chars, List.cons_append, List.cons.injEq] at slash
  rw [slash.1] at named
  exact absurd named (by decide)

/-- A closing tag is read. -/
theorem marks?_closing {name : String} (isName : IsName name) (cs : List Char) :
    marks? none ((Token.closing name).print.toList ++ cs) =
      (marks? none cs).map (.closing name :: ·) := by
  obtain ⟨read, after⟩ := takeWhile_append_stop isName.chars ('>' :: cs)
    (by simp [isNameChar])
  have shape : (Token.closing name).print.toList ++ cs =
      '<' :: '/' :: (name.toList ++ '>' :: cs) := by
    simp [Token.print]
  rw [shape, marks?, read, after]
  simp [isName.nonempty]

/-! ## Pages -/

/-- A part as it is to be read. -/
def Token.mark : Token → Mark
  | opening name attributes => .opening name (attributes.map Attribute.pair)
  | closing name => .closing name
  | text content => .text content

/-- A text as it is read. An empty one is not. -/
def textMarks (content : String) : List Mark := if content = "" then [] else [.text content]

/-- Marks as they are read when they are printed one after the other. Texts that meet are read as
one, and the first of them meets the text before. -/
def joined (before : String) : List Mark → List Mark
  | [] => textMarks before
  | .text content :: rest => joined (before ++ content) rest
  | .opening name attributes :: rest =>
    textMarks before ++ .opening name attributes :: joined "" rest
  | .closing name :: rest => textMarks before ++ .closing name :: joined "" rest

/-- The name of a tag can be read. -/
def Mark.Named : Mark → Prop
  | opening name _ => IsName name
  | closing name => IsName name
  | text _ => True

/-- A text before a tag or the end. -/
theorem marks?_before (before : String) {cs : List Char} {marks : List Mark}
    (upTo : ∀ c ∈ cs.head?, c = '<') (read : marks? none cs = some marks) :
    marks? none ((escaped before).toList ++ cs) = some (textMarks before ++ marks) := by
  by_cases empty : before = ""
  · subst empty
    simpa [textMarks, escaped] using read
  · rw [marks?_escaped empty upTo, read, textMarks, if_neg empty]
    rfl

/-- Parts with names that can be read are read as they are, but for texts that meet. -/
theorem marks?_parts (parts : List Token) (before : String)
    (named : ∀ part ∈ parts, part.mark.Named) :
    marks? none ((escaped before).toList ++ (String.join (parts.map Token.print)).toList) =
      some (joined before (parts.map Token.mark)) := by
  induction parts generalizing before with
  | nil =>
    have ended : marks? none [] = some [] := by rw [marks?]
    simpa [joined] using marks?_before before (by simp) ended
  | cons part parts ih =>
    obtain ⟨here, others⟩ := List.forall_mem_cons.mp named
    have after := ih "" others
    rw [show escaped "" = "" from rfl, String.toList_empty, List.nil_append] at after
    rw [List.map_cons, String.join_cons, String.toList_append, List.map_cons]
    cases part with
    | opening name attributes =>
      refine marks?_before before (by simp [Token.print]) ?_
      rw [marks?_opening here, after]
      rfl
    | closing name =>
      refine marks?_before before (by simp [Token.print]) ?_
      rw [marks?_closing here, after]
      rfl
    | text content =>
      -- The reader goes on to the next tag, through both texts.
      rw [← List.append_assoc, ← String.toList_append, Token.print, ← escaped_append]
      exact ih (before ++ content) others

/-- The tags and the texts that a piece of a page shows, whatever way it is printed. In the place of
an empty text from the data there may be a blank. -/
inductive Shows : List Node → List Mark → Prop where
  | nil : Shows [] []
  | text (wording : String) {rest : List Node} {marks : List Mark} (others : Shows rest marks) :
      Shows (.text wording :: rest) (.text wording :: marks)
  | value (data : String) {rest : List Node} {marks : List Mark} (others : Shows rest marks) :
      Shows (.value data :: rest) (.text data :: marks)
  | blank {rest : List Node} {marks : List Mark} (others : Shows rest marks) :
      Shows (.value "" :: rest) (.text " " :: marks)
  | void (tag : VoidTag) (attributes : List Attribute) {rest : List Node} {marks : List Mark}
      (others : Shows rest marks) :
      Shows (.void tag attributes :: rest)
        (.opening tag.name (attributes.map Attribute.pair) :: marks)
  | element (tag : Tag) (attributes : List Attribute) {children rest : List Node}
      {inner marks : List Mark} (inside : Shows children inner) (others : Shows rest marks) :
      Shows (.element tag attributes children :: rest)
        (.opening tag.name (attributes.map Attribute.pair) ::
          (inner ++ .closing tag.name :: marks))

/-- The marks of the parts of a piece of a page. -/
def placed (html : List Node) : List Mark := (tokens html).map Token.mark

/-- The parts of a piece of a page are what it shows. -/
theorem shows_placed : ∀ html, Shows html (placed html)
  | [] => .nil
  | .text wording :: rest => by
    simpa [placed, Node.tokens, Token.mark] using Shows.text wording (shows_placed rest)
  | .value data :: rest => by
    have others := shows_placed rest
    by_cases empty : data = ""
    · subst empty
      simpa [placed, Node.tokens, Token.mark, shown] using Shows.blank others
    · simpa [placed, Node.tokens, Token.mark, shown, empty] using Shows.value data others
  | .void tag attributes :: rest => by
    simpa [placed, Node.tokens, Token.mark] using
      Shows.void tag attributes (shows_placed rest)
  | .element tag attributes children :: rest => by
    simpa [placed, Node.tokens, Token.mark] using
      Shows.element tag attributes (shows_placed children) (shows_placed rest)

theorem Shows.named {html : List Node} {marks : List Mark} (shows : Shows html marks) :
    ∀ mark ∈ marks, mark.Named := by
  induction shows with
  | nil => simp
  | text _ _ ih => exact List.forall_mem_cons.mpr ⟨trivial, ih⟩
  | value _ _ ih => exact List.forall_mem_cons.mpr ⟨trivial, ih⟩
  | blank _ ih => exact List.forall_mem_cons.mpr ⟨trivial, ih⟩
  | void tag _ _ ih => exact List.forall_mem_cons.mpr ⟨tag.isName, ih⟩
  | element tag _ _ _ insideIh othersIh =>
    refine List.forall_mem_cons.mpr ⟨tag.isName, List.forall_mem_append.mpr ⟨insideIh, ?_⟩⟩
    exact List.forall_mem_cons.mpr ⟨tag.isName, othersIh⟩

/-- A printed piece of a page is read as what it shows. -/
theorem read?_print (html : Html) : read? (print html) = some (joined "" (placed html)) := by
  have named : ∀ part ∈ tokens html, part.mark.Named := by
    intro part member
    exact (shows_placed html).named part.mark (List.mem_map_of_mem member)
  exact marks?_parts (tokens html) "" named

/-- A text that looks like markup is read as a text. -/
example :
    read? (print [.element .li [⟨.alt, "\">"⟩] [.text "Name: ", .value "<b>&amp;"]]) =
      some [.opening "li" [("alt", "\">")], .text "Name: <b>&amp;", .closing "li"] := by
  decide +kernel

/-- What holds of texts and of the marks holds of the marks that are read. -/
theorem forall_joined {holds : Mark → Prop} (texts : ∀ content, holds (.text content))
    {marks : List Mark} (all : ∀ mark ∈ marks, holds mark) (before : String) :
    ∀ mark ∈ joined before marks, holds mark := by
  have ofText : ∀ content, ∀ mark ∈ textMarks content, holds mark := by
    intro content
    unfold textMarks
    split
    · simp
    · simpa using texts content
  induction marks generalizing before with
  | nil => exact ofText before
  | cons mark marks ih =>
    obtain ⟨here, others⟩ := List.forall_mem_cons.mp all
    cases mark with
    | text content => exact ih others (before ++ content)
    | opening name attributes =>
      refine List.forall_mem_append.mpr ⟨ofText before, ?_⟩
      exact List.forall_mem_cons.mpr ⟨here, ih others ""⟩
    | closing name =>
      refine List.forall_mem_append.mpr ⟨ofText before, ?_⟩
      exact List.forall_mem_cons.mpr ⟨here, ih others ""⟩

/-! ## Balance -/

theorem Tag.not_mem_voidNames (tag : Tag) : tag.name ∉ voidNames := by
  cases tag <;> decide

theorem VoidTag.mem_voidNames (tag : VoidTag) : tag.name ∈ voidNames := by
  cases tag <;> decide

/-- After what a piece of a page shows, the same elements are open as before. -/
theorem Shows.openAfter?_append {html : List Node} {marks : List Mark} (shows : Shows html marks)
    (opened : List String) (after : List Mark) :
    openAfter? opened (marks ++ after) = openAfter? opened after := by
  induction shows generalizing opened after with
  | nil => rfl
  | text _ _ ih => exact ih opened after
  | value _ _ ih => exact ih opened after
  | blank _ ih => exact ih opened after
  | void tag _ _ ih =>
    rw [List.cons_append, openAfter?, if_pos tag.mem_voidNames, ih]
  | element tag _ _ _ insideIh othersIh =>
    rw [List.cons_append, openAfter?, if_neg tag.not_mem_voidNames, List.append_assoc, insideIh,
      List.cons_append, openAfter?, if_pos rfl, othersIh]

theorem openAfter?_textMarks (content : String) (opened : List String) (after : List Mark) :
    openAfter? opened (textMarks content ++ after) = openAfter? opened after := by
  unfold textMarks
  split <;> rfl

/-- Joining texts leaves open what was open. -/
theorem openAfter?_joined (marks : List Mark) (opened : List String) (before : String) :
    openAfter? opened (joined before marks) = openAfter? opened marks := by
  induction marks generalizing opened before with
  | nil => simpa [joined] using openAfter?_textMarks before opened []
  | cons mark marks ih =>
    cases mark with
    | text content => exact ih opened (before ++ content)
    | opening name attributes =>
      rw [joined, openAfter?_textMarks, openAfter?, ih, openAfter?]
    | closing name =>
      rw [joined, openAfter?_textMarks]
      cases opened with
      | nil => rfl
      | cons innermost outer => rw [openAfter?, openAfter?, ih]

/-- Every element that a piece of a page opens it closes, the innermost first. -/
theorem balanced_joined (html : Html) : Balanced (joined "" (placed html)) := by
  have unchanged := (shows_placed html).openAfter?_append [] []
  rw [List.append_nil] at unchanged
  rw [Balanced, openAfter?_joined, unchanged, openAfter?]

/-- As markup, the same text leaves an element open. -/
example :
    (read? "<li>Name: <b>&amp;</li>").map (fun marks => decide (Balanced marks)) = some false := by
  decide +kernel

end Coursework.Html
