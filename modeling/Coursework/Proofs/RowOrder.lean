import Mathlib.Data.String.Basic
import Coursework.Grading.Matrix
import Coursework.Proofs.StableSorting

/-!
# The order of the rows of the matrix

Rows are compared by names, identifiers or counts, and a descending order is made by comparing the
other way round. `sortedOwners_sorts_stably` says that each of these orders is the stable one by
the key that was chosen.

Turning the direction does not turn the list, because equal rows keep the order of the course. It
does where no two rows have the same key.
-/

namespace Coursework

namespace Text

/-- The code points of a text. -/
def codePoints (text : String) : List Nat := text.toList.map Char.toNat

/-- Texts are compared by code points. -/
theorem codePoints_le_iff {a b : String} : codePoints a ≤ codePoints b ↔ a ≤ b := by
  have strict : StrictMono (List.map Char.toNat) := by
    intro first second less
    exact List.map_lt (fun _ _ charLess => charLess) less
  rw [String.le_iff_toList_le]
  exact strict.le_iff_le

end Text

namespace Grading

/-- What rows are compared by: the code points of a name, an identifier, or a count. -/
def KeyValue : MatrixSortKey → Type
  | .name => List Nat
  | .id => Nat
  | .approved => Nat

instance : (key : MatrixSortKey) → LinearOrder (KeyValue key)
  | .name => inferInstanceAs (LinearOrder (List Nat))
  | .id => inferInstanceAs (LinearOrder Nat)
  | .approved => inferInstanceAs (LinearOrder Nat)

/-- The value of a key for an owner. Case is ignored in names. -/
def keyValue (course : Gradebook) : (key : MatrixSortKey) → Owner → KeyValue key
  | .name, owner => Text.codePoints (Text.lowercase owner.name)
  | .id, owner => owner.sortId.toNat
  | .approved, owner => course.approvedCount owner

/-- The owners that a search finds, in the order of the course. -/
def foundOwners (course : Gradebook) (groupView : Bool) (query : String) : List Owner :=
  (course.owners groupView).filter fun owner => Text.found query owner.name

theorem ownerLe_iff {course : Gradebook} {key : MatrixSortKey} {a b : Owner} :
    ownerLe course key a b = true ↔ keyValue course key a ≤ keyValue course key b := by
  cases key with
  | name => exact decide_eq_true_iff.trans Text.codePoints_le_iff.symm
  | id => exact decide_eq_true_iff.trans UInt64.le_iff_toNat_le
  | approved => exact decide_eq_true_iff

theorem stablySorted_sortedOwners (course : Gradebook) (groupView : Bool) (query : String)
    (sort : MatrixSort) :
    StablySorted (keyValue course sort.key) sort.ascending (foundOwners course groupView query)
      (sortedOwners course groupView query sort) := by
  obtain ⟨key, ascending⟩ := sort
  cases ascending with
  | true => exact stablySorted_mergeSort (fun _ _ => ownerLe_iff) _
  | false => exact stablySorted_mergeSort (fun _ _ => ownerLe_iff) _

/-- The rows are the stable order by the key of what the search finds. Where no two of them have
the same key, the other direction is the reverse. -/
theorem sortedOwners_sorts_stably (course : Gradebook) (groupView : Bool) (query : String)
    (sort : MatrixSort) :
    (∀ rows, rows = sortedOwners course groupView query sort ↔
      StablySorted (keyValue course sort.key) sort.ascending
        (foundOwners course groupView query) rows) ∧
    (((foundOwners course groupView query).map (keyValue course sort.key)).Nodup →
      sortedOwners course groupView query ⟨sort.key, !sort.ascending⟩ =
        (sortedOwners course groupView query sort).reverse) := by
  have sorted := stablySorted_sortedOwners course groupView query sort
  refine ⟨fun rows => sorted.eq_iff, ?_⟩
  intro distinct
  have turned := stablySorted_sortedOwners course groupView query ⟨sort.key, !sort.ascending⟩
  exact turned.unique (sorted.reverse distinct)

/-- A student of that name. -/
def studentNamed (id : Id) (name : String) : Enrollment :=
  ⟨id, 1, id, some { User.blank with id, name }, .student, 0, 0, "", 0⟩

/-- A course with three students, one of whom has a name in lowercase. -/
def rosterCourse : Gradebook :=
  { Gradebook.empty with
    enrollments := [studentNamed 3 "Carl", studentNamed 2 "bo", studentNamed 1 "Ada"] }

/-- Two of the students are found, and have names that differ in more than case. -/
theorem sortedOwners_sorts_stably_by_name :
    ((foundOwners rosterCourse false " A ").map (keyValue rosterCourse .name)).Nodup ∧
      (foundOwners rosterCourse false " A ").length = 2 ∧
      sortedOwners rosterCourse false " A " ⟨.name, false⟩ =
        (sortedOwners rosterCourse false " A " ⟨.name, true⟩).reverse := by
  have distinct : ((foundOwners rosterCourse false " A ").map
      (keyValue rosterCourse .name)).Nodup := by
    decide +kernel
  exact ⟨distinct, by decide +kernel,
    (sortedOwners_sorts_stably rosterCourse false " A " ⟨.name, true⟩).2 distinct⟩

end Grading

end Coursework
