import Coursework.Proofs.WrittenScalars

/-!
# Written documents are read back

`read?_text` says that the text of a document is read as that document, up to the order of fields:
the reader puts the fields of every object in the order of their names. The document has to fit
the reader, which nests arrays and objects only so deep and takes whole numbers of 64 bits.

The induction is on the document, with anything after it that can end a value. The items of an
array and the fields of an object are read by an induction of their own, for any reader that takes
back each of them. The reader also counts members; a written array or object is at least as long
as it has members, so the length of the text is always enough.
-/

namespace Coursework.Json

open Numeral

mutual

/-- The document as it is read back: the fields of every object in the order of their names. -/
def ordered : Json → Json
  | array items => array (orderedItems items)
  | object fields => object (orderedFields [] fields)
  | other => other

/-- The items of an array as they are read back. -/
def orderedItems : List Json → List Json
  | [] => []
  | item :: rest => item.ordered :: orderedItems rest

/-- Fields as they are read back, one after the other, into those that are known. -/
def orderedFields (known : List (String × Json)) : List (String × Json) → List (String × Json)
  | [] => known
  | (name, value) :: rest => orderedFields (insertField name value.ordered known) rest

end

/-- The reader has room for a document: its numbers are whole ones of 64 bits without a sign, and
at most `depth` arrays and objects are inside each other. -/
inductive Fits : Nat → Json → Prop where
  | null {depth} : Fits depth null
  | bool {depth value} : Fits depth (bool value)
  | natural {depth value} (within : value ≤ greatest64) : Fits depth (natural value)
  | string {depth value} : Fits depth (string value)
  | array {depth items} (inner : ∀ item ∈ items, Fits depth item) : Fits (depth + 1) (array items)
  | object {depth fields} (inner : ∀ field ∈ fields, Fits depth field.2) :
      Fits (depth + 1) (object fields)

/-! ## How a written value begins -/

theorem isSpace_of_isDigit {c : Char} (digit : c.isDigit = true) : isSpace c = false := by
  have blank : ∀ space : Char, space.isDigit = false → c ≠ space := fun _ => ne_of_isDigit digit
  simp [isSpace, blank ' ' (by decide), blank '\n' (by decide), blank '\t' (by decide),
    blank '\r' (by decide)]

/-- A written value begins neither with a blank nor with a closing bracket. -/
theorem chars_eq_cons {depth : Nat} {document : Json} (fits : Fits depth document) :
    ∃ c cs, document.chars = c :: cs ∧ isSpace c = false ∧ c ≠ ']' := by
  cases fits with
  | null => exact ⟨_, _, by rw [chars], by decide⟩
  | @bool _ value => cases value <;> exact ⟨_, _, by rw [chars], by decide⟩
  | @natural _ value _ =>
    obtain ⟨c, cs, decimal, digit, _⟩ := toDigits_eq_cons value
    exact ⟨c, cs, decimal, isSpace_of_isDigit digit, ne_of_isDigit digit (by decide)⟩
  | string => exact ⟨_, _, by rw [chars, stringChars, List.cons_append], by decide⟩
  | array => exact ⟨_, _, by rw [chars, List.cons_append], by decide⟩
  | object => exact ⟨_, _, by rw [chars, List.cons_append], by decide⟩

theorem itemsChars_eq_cons {depth : Nat} {item : Json} (fits : Fits depth item)
    (more : List Json) :
    ∃ c cs, itemsChars (item :: more) = c :: cs ∧ isSpace c = false ∧ c ≠ ']' := by
  obtain ⟨c, cs, begins, first⟩ := chars_eq_cons fits
  cases more with
  | nil => exact ⟨c, cs, by rw [itemsChars, begins], first⟩
  | cons next more => exact ⟨c, _, by rw [itemsChars, begins, List.cons_append], first⟩

theorem fieldsChars_eq_cons (field : String × Json) (more : List (String × Json)) :
    ∃ cs, fieldsChars (field :: more) = '\"' :: cs := by
  obtain ⟨name, value⟩ := field
  cases more with
  | nil => exact ⟨_, by rw [fieldsChars, stringChars_append]⟩
  | cons next more => exact ⟨_, by rw [fieldsChars, List.append_assoc, stringChars_append]⟩

/-! ## How long it is -/

theorem itemsChars_eq_intercalate (items : List Json) :
    itemsChars items = [','].intercalate (items.map chars) := by
  induction items with
  | nil => rfl
  | cons item rest ih =>
    cases rest with
    | nil => simp [itemsChars]
    | cons next rest =>
      rw [itemsChars, ih]
      simp [List.intercalate_cons_cons]

/-- The text of a field. -/
def fieldChars (field : String × Json) : List Char :=
  stringChars field.1 ++ ':' :: field.2.chars

theorem fieldsChars_eq_intercalate (fields : List (String × Json)) :
    fieldsChars fields = [','].intercalate (fields.map fieldChars) := by
  induction fields with
  | nil => rfl
  | cons field rest ih =>
    obtain ⟨name, value⟩ := field
    cases rest with
    | nil => simp [fieldsChars, fieldChars]
    | cons next rest =>
      rw [fieldsChars, ih]
      simp [List.intercalate_cons_cons, fieldChars]

section

variable (texts : List (List Char))

/-- There is a comma between any two texts. -/
theorem length_le_intercalate : texts.length ≤ ([','].intercalate texts).length + 1 := by
  induction texts with
  | nil => exact Nat.zero_le _
  | cons text rest ih =>
    cases rest with
    | nil => simp
    | cons next rest =>
      simp only [List.intercalate_cons_cons, List.length_append, List.length_cons] at ih ⊢
      omega

theorem length_le_intercalate_of_mem {text : List Char} (member : text ∈ texts) :
    text.length ≤ ([','].intercalate texts).length := by
  induction texts with
  | nil => cases member
  | cons first rest ih =>
    cases rest with
    | nil =>
      cases List.mem_singleton.mp member
      exact Nat.le_of_eq (congrArg _ List.intercalate_singleton.symm)
    | cons next rest =>
      simp only [List.intercalate_cons_cons, List.length_append]
      rcases List.mem_cons.mp member with rfl | later
      · omega
      · have shorter := ih later
        omega

end

theorem length_items_le (items : List Json) : items.length ≤ (itemsChars items).length + 1 := by
  have separated := length_le_intercalate (items.map chars)
  rwa [← itemsChars_eq_intercalate, List.length_map] at separated

theorem length_item_le {items : List Json} {item : Json} (member : item ∈ items) :
    item.chars.length ≤ (itemsChars items).length := by
  rw [itemsChars_eq_intercalate]
  exact length_le_intercalate_of_mem _ (List.mem_map_of_mem member)

theorem length_fields_le (fields : List (String × Json)) :
    fields.length ≤ (fieldsChars fields).length + 1 := by
  have separated := length_le_intercalate (fields.map fieldChars)
  rwa [← fieldsChars_eq_intercalate, List.length_map] at separated

theorem length_field_le {fields : List (String × Json)} {field : String × Json}
    (member : field ∈ fields) : field.2.chars.length ≤ (fieldsChars fields).length := by
  have within : field.2.chars.length ≤ (fieldChars field).length := by
    simp only [fieldChars, List.length_append, List.length_cons]
    omega
  rw [fieldsChars_eq_intercalate]
  exact Nat.le_trans within (length_le_intercalate_of_mem _ (List.mem_map_of_mem member))

/-! ## Steps of the reader -/

theorem skipSpace_cons {c : Char} (solid : isSpace c = false) (cs : List Char) :
    skipSpace (c :: cs) = c :: cs :=
  List.dropWhile_cons_of_neg (by simp [solid])

/-- What opens neither an array nor an object is read as a scalar, at any depth. -/
theorem value?_eq_scalar? {c : Char} (solid : isSpace c = false) (noArray : c ≠ '[')
    (noObject : c ≠ '\x7b') (width depth : Nat) (cs : List Char) :
    value? width depth (c :: cs) = scalar? (c :: cs) := by
  cases depth with
  | zero =>
    rw [value?, skipSpace_cons solid]
    split <;> simp_all
  | succ depth =>
    rw [value?, skipSpace_cons solid]
    split <;> simp_all

theorem scalar?_of_isDigit {c : Char} (digit : c.isDigit = true) (cs : List Char) :
    scalar? (c :: cs) = number? (c :: cs) := by
  unfold scalar?
  split <;> rename_i same
  · cases same
    cases digit
  · cases same
    cases digit
  · cases same
    cases digit
  · cases same
    cases digit
  · rfl

/-- What is not closed at once is read item by item. -/
theorem value?_bracket {c : Char} (solid : isSpace c = false) (unclosed : c ≠ ']')
    (width depth : Nat) (cs : List Char) :
    value? width (depth + 1) ('[' :: c :: cs) = items? (value? width depth) width [] (c :: cs) := by
  rw [value?, skipSpace_cons (by decide)]
  simp only [skipSpace_cons solid]
  split
  · rename_i same
    cases same
    exact absurd rfl unclosed
  · rfl

/-- What goes on with a name is read field by field. -/
theorem value?_brace (width depth : Nat) (cs : List Char) :
    value? width (depth + 1) ('\x7b' :: '\"' :: cs) =
      fields? (value? width depth) width [] ('\"' :: cs) := by
  rw [value?, skipSpace_cons (by decide)]
  simp only [skipSpace_cons (c := '\"') (by decide)]
  rfl

/-! ## Members -/

/-- A reader takes back a document, whatever comes after it that can end a value. -/
def TakesBack (read : List Char → Option (Json × List Char)) (document : Json) : Prop :=
  ∀ rest, EndsValue rest → read (document.chars ++ rest) = some (document.ordered, rest)

section

variable {read : List Char → Option (Json × List Char)} {width : Nat}

/-- Items are read one after the other, up to the closing bracket. -/
theorem items?_itemsChars {items : List Json} (reversed : List Json) (rest : List Char)
    (nonempty : items ≠ []) (room : items.length ≤ width)
    (reads : ∀ item ∈ items, TakesBack read item) :
    items? read width reversed (itemsChars items ++ ']' :: rest) =
      some (array (reversed.reverse ++ orderedItems items), rest) := by
  induction items generalizing width reversed with
  | nil => exact absurd rfl nonempty
  | cons item more ih =>
    obtain ⟨width, rfl⟩ := Nat.exists_eq_add_of_le' (Nat.le_trans (Nat.le_add_left 1 _) room)
    have readsItem := reads item List.mem_cons_self
    cases more with
    | nil =>
      have last := readsItem (']' :: rest) (endsValue_cons (by decide) rest)
      rw [itemsChars, items?, last]
      simp [skipSpace_cons (c := ']') (by decide), orderedItems]
    | cons next more =>
      have readsMore : ∀ later ∈ next :: more, TakesBack read later :=
        fun later member => reads later (List.mem_cons_of_mem item member)
      have others := ih (item.ordered :: reversed) (List.cons_ne_nil _ _)
        (Nat.le_of_succ_le_succ room) readsMore
      have first := readsItem (',' :: (itemsChars (next :: more) ++ ']' :: rest))
        (endsValue_cons (by decide) _)
      rw [itemsChars, List.append_assoc, List.cons_append, items?, first]
      simp only [skipSpace_cons (c := ',') (by decide)]
      rw [others, List.reverse_cons, List.append_assoc]
      rfl

/-- Fields are read one after the other, up to the closing brace. -/
theorem fields?_fieldsChars {fields : List (String × Json)} (known : List (String × Json))
    (rest : List Char) (nonempty : fields ≠ []) (room : fields.length ≤ width)
    (reads : ∀ field ∈ fields, TakesBack read field.2) :
    fields? read width known (fieldsChars fields ++ '\x7d' :: rest) =
      some (object (orderedFields known fields), rest) := by
  induction fields generalizing width known with
  | nil => exact absurd rfl nonempty
  | cons field more ih =>
    obtain ⟨width, rfl⟩ := Nat.exists_eq_add_of_le' (Nat.le_trans (Nat.le_add_left 1 _) room)
    have readsValue := reads field List.mem_cons_self
    obtain ⟨name, value⟩ := field
    cases more with
    | nil =>
      have last := readsValue ('\x7d' :: rest) (endsValue_cons (by decide) rest)
      rw [fieldsChars, List.append_assoc, List.cons_append, stringChars_append, fields?,
        skipSpace_cons (by decide)]
      simp only [stringRest?_string, skipSpace_cons (c := ':') (by decide), last,
        skipSpace_cons (c := '\x7d') (by decide), orderedFields]
    | cons next more =>
      have readsMore : ∀ later ∈ next :: more, TakesBack read later.2 :=
        fun later member => reads later (List.mem_cons_of_mem (name, value) member)
      have others := ih (insertField name value.ordered known) (List.cons_ne_nil _ _)
        (Nat.le_of_succ_le_succ room) readsMore
      have first := readsValue (',' :: (fieldsChars (next :: more) ++ '\x7d' :: rest))
        (endsValue_cons (by decide) _)
      rw [fieldsChars, List.append_assoc, List.append_assoc, List.cons_append,
        stringChars_append, fields?, skipSpace_cons (by decide)]
      simp only [stringRest?_string, skipSpace_cons (c := ':') (by decide), List.cons_append,
        first, skipSpace_cons (c := ',') (by decide), others]
      rfl

end

/-! ## Documents -/

section

variable {depth width : Nat}

theorem takesBack_natural {value : Nat} (within : value ≤ greatest64) :
    TakesBack (value? width depth) (natural value) := by
  intro rest ends
  obtain ⟨c, cs, decimal, digit, _⟩ := toDigits_eq_cons value
  have read := number?_natural within ends
  rw [decimal, List.cons_append, ← scalar?_of_isDigit digit] at read
  change value? width depth (Nat.toDigits 10 value ++ rest) = _
  rw [decimal, List.cons_append, value?_eq_scalar? (isSpace_of_isDigit digit)
    (ne_of_isDigit digit (by decide)) (ne_of_isDigit digit (by decide))]
  exact read

/-- An array is read back one level above its items, if there is room for each of them. -/
theorem takesBack_array {items : List Json} (inner : ∀ item ∈ items, Fits depth item)
    (room : (array items).chars.length ≤ width)
    (reads : ∀ item ∈ items, item.chars.length ≤ width → TakesBack (value? width depth) item) :
    TakesBack (value? width (depth + 1)) (array items) := by
  intro rest _
  have length : (itemsChars items).length + 2 ≤ width := by
    simpa only [chars, List.length_cons, List.length_append, List.length_nil] using room
  have opened : (array items).chars ++ rest = '[' :: (itemsChars items ++ ']' :: rest) := by
    simp [chars]
  have readsAll : ∀ item ∈ items, TakesBack (value? width depth) item := by
    intro item member
    have shorter := length_item_le member
    exact reads item member (by omega)
  rw [opened]
  cases items with
  | nil => rfl
  | cons item more =>
    have enough : (item :: more).length ≤ width := by
      have shorter := length_items_le (item :: more)
      omega
    have all := items?_itemsChars [] rest (List.cons_ne_nil item more) enough readsAll
    obtain ⟨c, cs, begins, solid, unclosed⟩ :=
      itemsChars_eq_cons (inner item List.mem_cons_self) more
    rw [begins, List.cons_append] at all ⊢
    rw [value?_bracket solid unclosed]
    exact all

/-- An object is read back one level above its values, if there is room for each of them. -/
theorem takesBack_object {fields : List (String × Json)}
    (room : (object fields).chars.length ≤ width)
    (reads : ∀ field ∈ fields,
      field.2.chars.length ≤ width → TakesBack (value? width depth) field.2) :
    TakesBack (value? width (depth + 1)) (object fields) := by
  intro rest _
  have length : (fieldsChars fields).length + 2 ≤ width := by
    simpa only [chars, List.length_cons, List.length_append, List.length_nil] using room
  have opened : (object fields).chars ++ rest =
      '\x7b' :: (fieldsChars fields ++ '\x7d' :: rest) := by
    simp [chars]
  have readsAll : ∀ field ∈ fields, TakesBack (value? width depth) field.2 := by
    intro field member
    have shorter := length_field_le member
    exact reads field member (by omega)
  rw [opened]
  cases fields with
  | nil => rfl
  | cons field more =>
    have enough : (field :: more).length ≤ width := by
      have shorter := length_fields_le (field :: more)
      omega
    have all := fields?_fieldsChars [] rest (List.cons_ne_nil field more) enough readsAll
    obtain ⟨cs, begins⟩ := fieldsChars_eq_cons field more
    rw [begins, List.cons_append] at all ⊢
    rw [value?_brace]
    exact all

/-- A written document is read back at any width that its text does not exceed. -/
theorem takesBack_value? {document : Json} (fits : Fits depth document)
    (room : document.chars.length ≤ width) : TakesBack (value? width depth) document := by
  induction fits with
  | null =>
    intro rest _
    rw [chars]
    exact value?_eq_scalar? (by decide) (by decide) (by decide) ..
  | @bool depth value =>
    intro rest _
    cases value <;> rw [chars] <;>
      exact value?_eq_scalar? (by decide) (by decide) (by decide) ..
  | natural within => exact takesBack_natural within
  | string =>
    intro rest _
    rw [chars, stringChars_append, value?_eq_scalar? (by decide) (by decide) (by decide), scalar?,
      stringRest?_string]
    rfl
  | array inner ih => exact takesBack_array inner room ih
  | object inner ih => exact takesBack_object room ih

end

/-- The text of a document is read as that document, with the fields of its objects in order. -/
theorem read?_text {document : Json} (fits : Fits deepest document) :
    read? document.text = some document.ordered := by
  have read := takesBack_value? fits (Nat.le_refl document.chars.length) [] endsValue_nil
  rw [List.append_nil] at read
  simp only [read?, readChars?, text, String.toList_ofList, read]
  rfl

/-! ## Members of documents that were read -/

theorem orderedItems_eq_map (items : List Json) : orderedItems items = items.map ordered := by
  induction items with
  | nil => rfl
  | cons item rest ih => rw [orderedItems, ih, List.map_cons]

/-- A field of a new name is put somewhere among the others. -/
theorem insertField_perm {fields : List (String × Json)} {name : String}
    (fresh : name ∉ fields.map Prod.fst) (value : Json) :
    (insertField name value fields).Perm ((name, value) :: fields) := by
  induction fields with
  | nil => exact .refl _
  | cons field rest ih =>
    obtain ⟨other, old⟩ := field
    obtain ⟨different, restFresh⟩ := not_or.mp (mt List.mem_cons.mpr fresh)
    rw [insertField, if_neg different]
    split
    · exact .refl _
    · exact ((ih restFresh).cons _).trans (.swap _ _ _)

/-- Where names are distinct, each member is read back, and no other one. -/
theorem orderedFields_perm {known fields : List (String × Json)}
    (distinct : (known.map Prod.fst ++ fields.map Prod.fst).Nodup) :
    (orderedFields known fields).Perm
      (known ++ fields.map fun field => (field.1, field.2.ordered)) := by
  induction fields generalizing known with
  | nil => simp [orderedFields]
  | cons field rest ih =>
    obtain ⟨name, value⟩ := field
    have inserted :
        (insertField name value.ordered known).Perm ((name, value.ordered) :: known) := by
      refine insertField_perm ?_ value.ordered
      obtain ⟨_, _, apart⟩ := List.nodup_append.mp distinct
      intro listed
      exact apart name listed name List.mem_cons_self rfl
    have distinctAgain :
        ((insertField name value.ordered known).map Prod.fst ++ rest.map Prod.fst).Nodup := by
      refine ((inserted.map Prod.fst).append_right _).nodup_iff.mpr ?_
      exact List.perm_middle.nodup_iff.mp distinct
    refine (ih distinctAgain).trans ((inserted.append_right _).trans ?_)
    exact List.perm_middle.symm

end Coursework.Json
