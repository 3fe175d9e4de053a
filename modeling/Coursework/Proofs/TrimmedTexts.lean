import Mathlib.Data.List.DropRight
import Coursework.Text.Blank

/-!
# What is left of a text

Dropping a class of characters from an end of a text is described by what is left and what stood
around it: there were only characters of the class, and what is left does not end in one
(`dropEnd_eq_iff`). For blanks at both ends this is `TrimsTo`.

A character outside the class stops the dropping, whatever stands behind it.
-/

namespace Coursework.Text

section Dropping

variable {p : Char → Bool} {cs kept : List Char}

theorem dropEnd_append_of_all {after : List Char} (dropped : ∀ c ∈ after, p c = true)
    (cs : List Char) : dropEnd p (cs ++ after) = dropEnd p cs := by
  have before : ∀ c ∈ after.reverse, p c = true := fun c member =>
    dropped c (List.mem_reverse.mp member)
  rw [dropEnd, dropEnd, List.reverse_append, List.dropWhile_append_of_pos before]

theorem dropEnd_eq_self_iff : dropEnd p cs = cs ↔ ∀ c ∈ cs.getLast?, p c = false := by
  refine List.rdropWhile_eq_self_iff.trans ⟨fun stops c last => ?_, fun stops filled => ?_⟩
  · obtain ⟨filled, rfl⟩ := List.mem_getLast?_eq_getLast last
    exact eq_false_of_ne_true (stops filled)
  · rw [stops _ (List.getLast_mem_getLast? filled)]
    exact Bool.false_ne_true

theorem dropWhile_eq_self_iff_head? :
    cs.dropWhile p = cs ↔ ∀ c ∈ cs.head?, p c = false := by
  rw [List.dropWhile_eq_self_iff]
  cases cs with
  | nil => simp
  | cons c cs => simp

/-- What is left begins the list, and only characters of the class follow. -/
theorem dropEnd_eq_iff :
    dropEnd p cs = kept ↔
      (∃ after, cs = kept ++ after ∧ ∀ c ∈ after, p c = true) ∧
        ∀ c ∈ kept.getLast?, p c = false := by
  constructor
  · rintro rfl
    refine ⟨⟨(cs.reverse.takeWhile p).reverse, ?_, ?_⟩, ?_⟩
    · rw [dropEnd, ← List.reverse_append, List.takeWhile_append_dropWhile, List.reverse_reverse]
    · intro c member
      exact List.mem_takeWhile_imp (List.mem_reverse.mp member)
    · exact dropEnd_eq_self_iff.mp (List.rdropWhile_idempotent p cs)
  · rintro ⟨⟨after, rfl, dropped⟩, stops⟩
    rw [dropEnd_append_of_all dropped, dropEnd_eq_self_iff.mpr stops]

/-- What is dropped from the end once is not there to be dropped again. -/
theorem dropEndWhile_dropEndWhile (p : Char → Bool) (s : String) :
    dropEndWhile p (dropEndWhile p s) = dropEndWhile p s := by
  apply String.toList_injective
  rw [toList_dropEndWhile, toList_dropEndWhile]
  exact List.rdropWhile_idempotent p s.toList

end Dropping

section Stop

variable {p : Char → Bool} {c : Char}

theorem takeWhile_append_stop (stops : p c = false) (xs ys : List Char) :
    (xs ++ c :: ys).takeWhile p = xs.takeWhile p := by
  induction xs with
  | nil => simp [stops]
  | cons x xs ih => simp [List.takeWhile_cons, ih]

end Stop

/-- The text stands between blanks in the value, and neither begins nor ends with one. -/
structure TrimsTo (value text : String) : Prop where
  between : ∃ before after, value.toList = before ++ (text.toList ++ after) ∧
    (∀ c ∈ before, isBlank c = true) ∧ ∀ c ∈ after, isBlank c = true
  begins : ∀ c ∈ text.toList.head?, isBlank c = false
  ends : ∀ c ∈ text.toList.getLast?, isBlank c = false

theorem trim_eq_iff {value text : String} : trim value = text ↔ TrimsTo value text := by
  rw [← String.toList_inj, toList_trim]
  constructor
  · intro same
    obtain ⟨⟨after, rest, blankAfter⟩, ends⟩ := dropEnd_eq_iff.mp same
    refine ⟨⟨value.toList.takeWhile isBlank, after, ?_, ?_, blankAfter⟩, ?_, ends⟩
    · rw [← rest, List.takeWhile_append_dropWhile]
    · exact fun c member => List.mem_takeWhile_imp member
    · intro c first
      have stops := List.head?_dropWhile_not isBlank value.toList
      rw [rest, List.head?_append, Option.mem_def.mp first] at stops
      simpa using stops
  · rintro ⟨⟨before, after, split, blankBefore, blankAfter⟩, begins, ends⟩
    rw [split, List.dropWhile_append_of_pos blankBefore]
    by_cases empty : text.toList = []
    · rw [empty, List.nil_append, List.dropWhile_eq_nil_iff.mpr blankAfter]
      rfl
    · have starts : ∀ c ∈ (text.toList ++ after).head?, isBlank c = false := by
        rwa [List.head?_append_of_ne_nil _ empty]
      rw [dropWhile_eq_self_iff_head?.mpr starts]
      exact dropEnd_eq_iff.mpr ⟨⟨after, rfl, blankAfter⟩, ends⟩

end Coursework.Text
