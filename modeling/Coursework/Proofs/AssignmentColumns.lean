import Coursework.Proofs.ApprovedCells
import Coursework.Proofs.CourseUpdates

/-!
# Columns under a filter

The results screen has a column for each lab of the view, or for the labs of the chosen identifier
only. `columns_follow_filter` says for which identifiers the choice is followed.

The choice is an identifier, and the filter of a matrix a signed number, of which those above zero
choose. So zero, which identifies nothing, and identifiers that are too great for a signed number
choose nothing: then the screen shows what it shows without a choice.
-/

namespace Coursework.Grading

/-- A filter can choose the labs of this identifier. -/
def CanFilter (id : Id) : Prop := 0 < id.toNat ∧ id.toNat < 2 ^ 63

instance (id : Id) : Decidable (CanFilter id) := inferInstanceAs (Decidable (_ ∧ _))

theorem toInt_filterOf {id : Id} (can : CanFilter id) :
    (filterOf (some id)).toInt = id.toNat := by
  rw [filterOf, if_pos (Nat.le_of_lt_succ can.2)]
  exact Int64.toInt_ofNat_of_lt can.2

/-- What a filter cannot choose does not filter. -/
theorem filterOf_le_zero_iff {id : Id} : filterOf (some id) ≤ 0 ↔ ¬ CanFilter id := by
  by_cases can : CanFilter id
  · rw [Int64.le_iff_toInt_le, toInt_filterOf can]
    have positive := can.1
    simp only [can, not_true_eq_false, iff_false, Int64.toInt_zero]
    omega
  · simp only [can, not_false_eq_true, iff_true]
    by_cases small : id.toNat < 2 ^ 63
    · have zero : id.toNat = 0 := Nat.eq_zero_of_not_pos fun positive => can ⟨positive, small⟩
      rw [filterOf, zero]
      decide
    · rw [filterOf, if_neg (by omega)]
      decide

/-- The labs of the course, in group view the group labs only. -/
def labsInView (store : Store) : List Assignment :=
  store.course.assignments.filter fun lab => !store.selection.groupView || lab.isGroupLab

/-- The matrix of the results screen. -/
def resultsMatrix (store : Store) (query : String) : Matrix :=
  storeMatrix store .normal (storeFilter store .normal) query

/-- The columns of the results screen behind the leading ones are those of the labs. -/
structure HasColumns (store : Store) (query : String) (labs : List Assignment) : Prop where
  visible : (resultsMatrix store query).visible = labs
  header : (resultsMatrix store query).header.drop (leadingColumns (withIdColumn labs)) =
    labs.map fun lab => ⟨lab.name, none⟩
  rows : (resultsMatrix store query).rows.map (assignmentCells (withIdColumn labs)) =
    (resultsMatrix store query).owners.map fun owner =>
      labs.map (cell (storeContext store) .normal owner)

/-- The header has the names of labs behind its leading cells. -/
theorem drop_header (visible : List Assignment) (withId : Bool) :
    (header visible withId).drop (leadingColumns withId) =
      visible.map fun lab => ⟨lab.name, none⟩ := by
  cases withId with
  | true => rfl
  | false => rfl

theorem hasColumns_iff {store : Store} {query : String} {labs : List Assignment} :
    HasColumns store query labs ↔
      visibleAssignments store.course.assignments (storeFilter store .normal)
        store.selection.groupView = labs := by
  constructor
  · exact fun columns => columns.visible
  · rintro rfl
    refine ⟨rfl, drop_header _ _, ?_⟩
    refine List.map_map.trans (List.map_congr_left fun owner _ => ?_)
    exact assignmentCells_row ..

/-- A filter that chooses an identifier leaves the labs of that identifier. -/
theorem visibleAssignments_filterOf {assignments : List Assignment} {groupView : Bool} {id : Id}
    (can : CanFilter id) :
    visibleAssignments assignments (filterOf (some id)) groupView =
      (assignments.filter fun lab => !groupView || lab.isGroupLab).filter (·.id = id) := by
  have chooses : ¬ filterOf (some id) ≤ 0 := mt filterOf_le_zero_iff.mp (not_not_intro can)
  have same (lab : Assignment) :
      ((lab.id.toNat : Int) == (id.toNat : Int)) = decide (lab.id = id) := by
    rw [Bool.eq_iff_iff, beq_iff_eq, decide_eq_true_eq, Int.natCast_inj, UInt64.toNat_inj]
  rw [List.filter_filter, visibleAssignments]
  simp only [chooses, decide_false, Bool.false_or, toInt_filterOf can, same]

/-- Without a choice, all labs of the view have a column. With one that can be followed, those of
the chosen identifier do, and with any other again all of the view. The columns are in the order of
the course, which loading makes that of the labs. -/
theorem columns_follow_filter (store : Store) (query : String) :
    (store.selection.selectedAssignmentId = none → HasColumns store query (labsInView store)) ∧
    (∀ id, store.selection.selectedAssignmentId = some id →
      (CanFilter id → HasColumns store query ((labsInView store).filter (·.id = id))) ∧
      (¬ CanFilter id → HasColumns store query (labsInView store))) ∧
    ∀ labs, HasColumns store query labs →
      labs.Sublist store.course.assignments ∧
      ∀ (book : Gradebook) (snapshot : Snapshot) (updates : List Update),
        store.course = (book.load snapshot).run updates →
          labs.Pairwise fun a b => a.order ≤ b.order := by
  refine ⟨?_, ?_, ?_⟩
  · intro unchosen
    rw [hasColumns_iff, storeFilter, unchosen]
    exact visibleAssignments_of_le_zero (by decide)
  · intro id chosen
    rw [hasColumns_iff, hasColumns_iff, storeFilter, chosen]
    exact ⟨visibleAssignments_filterOf,
      fun cannot => visibleAssignments_of_le_zero (filterOf_le_zero_iff.mpr cannot)⟩
  · intro labs columns
    have within : labs.Sublist store.course.assignments := by
      rw [← hasColumns_iff.mp columns]
      exact List.filter_sublist
    refine ⟨within, ?_⟩
    intro book snapshot updates loaded
    rw [loaded, Gradebook.assignments_run] at within
    exact (Gradebook.pairwise_assignments_load book snapshot).sublist within

def firstLab : Assignment := ⟨10, 1, "Lab 1", "2024-05-01", 80, 1, false, false, 0⟩

/-- A lab with an identifier too great for a filter. -/
def secondLab : Assignment :=
  ⟨0x8000000000000000, 1, "Lab 2", "2024-06-01", 80, 2, false, false, 0⟩

/-- A course of two labs, the second sent first. -/
def twoLabs : Snapshot where
  course := ⟨1, "DAT320", "", 0, 100, 0⟩
  assignments := [secondLab, firstLab]
  enrollments := [⟨1, 1, 200, none, .student, 0, 0, "", 0⟩]
  groups := []
  submissions := []

/-- The results screen of that course with a choice. -/
def choosing (choice : Option Id) : Store :=
  { Store.initial with
    course := (Gradebook.empty.load twoLabs).run []
    selection := { Selection.initial with selectedAssignmentId := choice } }

/-- The first lab is chosen, and neither the second nor that of the identifier zero can be. -/
theorem columns_follow_filter_of_two_labs :
    (choosing (some 10)).selection.selectedAssignmentId = some 10 ∧ CanFilter 10 ∧
      HasColumns (choosing (some 10)) "" ((labsInView (choosing none)).filter (·.id = 10)) ∧
      ¬ CanFilter 0 ∧ HasColumns (choosing (some 0)) "" (labsInView (choosing none)) ∧
      HasColumns (choosing none) "" (labsInView (choosing none)) ∧
      (labsInView (choosing none)).Pairwise fun a b => a.order ≤ b.order := by
  have unchosen := (columns_follow_filter (choosing none) "").1 rfl
  refine ⟨rfl, by decide, ?_, by decide, ?_, unchosen, ?_⟩
  · exact ((columns_follow_filter (choosing (some 10)) "").2.1 10 rfl).1 (by decide)
  · exact ((columns_follow_filter (choosing (some 0)) "").2.1 0 rfl).2 (by decide)
  · exact ((columns_follow_filter (choosing none) "").2.2 _ unchosen).2 Gradebook.empty twoLabs [] rfl

/-- Where the second lab is chosen, the first has a column, too. -/
theorem not_only_columns_of_chosen :
    ¬ ∀ (store : Store) (query : String) (id : Id) (labs : List Assignment),
      store.selection.selectedAssignmentId = some id → HasColumns store query labs →
        ∀ lab ∈ labs, lab.id = id := by
  intro always
  have columns : HasColumns (choosing (some secondLab.id)) "" (labsInView (choosing none)) :=
    hasColumns_iff.mpr (visibleAssignments_of_le_zero (by decide))
  have sent : firstLab ∈ (Gradebook.empty.load twoLabs).assignments :=
    (Gradebook.stablySorted_assignments_load _ _).perm.mem_iff.mpr (by decide)
  have shown : firstLab ∈ labsInView (choosing none) := List.mem_filter.mpr ⟨sent, rfl⟩
  exact absurd (always _ "" secondLab.id _ rfl columns firstLab shown) (by decide)

end Coursework.Grading
