import Coursework.Proofs.OwnStatus
import Coursework.Proofs.RowOrder

/-!
# Counting approved cells

Rows can be sorted by a count of approved submissions that is made apart from the cells of the
row. `approvedCount_counts_cells` says that it is the number of cells of the row that are marked
as approved, so what the order goes by can be seen in the table.

The marks of a cell are classes, which stand in one text. They are read back from there.
-/

namespace Coursework.Grading

namespace Cell

/-- The classes that stand in the text of a cell, with blanks between them. -/
def classList (cell : Cell) : List String :=
  ((cell.cssClass.toList.splitOn ' ').filter (· ≠ [])).map String.ofList

/-- A text that stands between blanks as one class. -/
def IsWord (name : String) : Prop := name ≠ "" ∧ ' ' ∉ name.toList

instance (name : String) : Decidable (IsWord name) := inferInstanceAs (Decidable (_ ∧ _))

/-- Classes are read back if each is one word. -/
theorem classList_eq {cell : Cell} (words : ∀ name ∈ cell.classes, IsWord name) :
    cell.classList = cell.classes := by
  have noBlank : ∀ cs ∈ cell.classes.map String.toList, ' ' ∉ cs :=
    List.forall_mem_map.mpr fun name listed => (words name listed).2
  have notEmpty : ∀ cs ∈ cell.classes.map String.toList, decide (cs ≠ []) = true := by
    refine List.forall_mem_map.mpr fun name listed => decide_eq_true ?_
    rw [ne_eq, String.toList_eq_nil_iff]
    exact (words name listed).1
  have text : cell.cssClass.toList = [' '].intercalate (cell.classes.map String.toList) :=
    String.toList_intercalate
  have pieces : (cell.cssClass.toList.splitOn ' ').filter (· ≠ []) =
      cell.classes.map String.toList := by
    by_cases none : cell.classes = []
    · rw [text, none]
      rfl
    · have some : cell.classes.map String.toList ≠ [] := by
        simpa using none
      rw [text, List.splitOn_intercalate ' ' noBlank some, List.filter_eq_self.mpr notEmpty]
  rw [classList, pieces, List.map_map]
  exact List.map_id'' (fun _ => String.ofList_toList) _

/-- The cell is marked as approved. -/
def isApproved (cell : Cell) : Bool :=
  decide ("result-approved" ∈ cell.classList)

end Cell

/-- The class of a status and that of the selected submission are words. -/
theorem isWord_of_mem_statusClasses {context : MatrixContext} {submission : Submission}
    {name : String}
    (member : name ∈ cellClass submission.status :: selectedClass context submission) :
    Cell.IsWord name := by
  rcases List.mem_cons.mp member with rfl | selected
  · cases submission.status <;> decide
  · unfold selectedClass at selected
    split at selected
    · rw [List.mem_singleton.mp selected]
      decide
    · exact absurd selected List.not_mem_nil

theorem classList_scoreCell (context : MatrixContext) (submission : Submission) (owner : Owner) :
    (scoreCell context submission owner).classList =
      (scoreCell context submission owner).classes :=
  Cell.classList_eq fun _ member => isWord_of_mem_statusClasses member

/-- A cell of the results screen is marked as approved if it is about an approved submission. -/
theorem isApproved_cell_iff {context : MatrixContext} {owner : Owner} {assignment : Assignment} :
    (cell context .normal owner assignment).isApproved = true ↔
      ∃ submission, context.course.submissionFor? owner assignment = some submission ∧
        submission.status = .approved := by
  unfold Cell.isApproved cell
  rw [decide_eq_true_eq]
  cases context.course.submissionFor? owner assignment with
  | none =>
    have unmarked : (Cell.plain "N/A").classList = [] :=
      Cell.classList_eq fun _ member => absurd member List.not_mem_nil
    simp [unmarked]
  | some submission =>
    have marked : cellClass .approved ∈ (scoreCell context submission owner).classes ↔
        .approved = submission.status := cellClass_mem_scoreCell
    dsimp only
    rw [classList_scoreCell]
    constructor
    · intro member
      exact ⟨submission, rfl, (marked.mp member).symm⟩
    · rintro ⟨found, same, approved⟩
      rw [← Option.some.inj same] at approved
      exact marked.mpr approved.symm

/-- The number of cells that are marked as approved. -/
def approvedCells (cells : List Cell) : Nat := cells.countP (·.isApproved)

/-- The cells of a row that stand below assignments. -/
def assignmentCells (withId : Bool) (cells : List Cell) : List Cell :=
  cells.drop (leadingColumns withId)

theorem assignmentCells_row (context : MatrixContext) (visible : List Assignment) (withId : Bool)
    (mode : MatrixMode) (owner : Owner) :
    assignmentCells withId (row context visible withId mode owner) =
      visible.map (cell context mode owner) := by
  cases withId with
  | true => rfl
  | false => rfl

/-- If nothing is filtered, all assignments are visible, in group view all group labs. -/
theorem visibleAssignments_of_le_zero {assignments : List Assignment} {filter : Int64}
    {groupView : Bool} (unfiltered : filter ≤ 0) :
    visibleAssignments assignments filter groupView =
      assignments.filter fun lab => !groupView || lab.isGroupLab := by
  simp [visibleAssignments, unfiltered]

theorem visibleAssignments_eq (assignments : List Assignment) {filter : Int64}
    (unfiltered : filter ≤ 0) : visibleAssignments assignments filter false = assignments := by
  rw [visibleAssignments_of_le_zero unfiltered]
  exact List.filter_eq_self.mpr fun _ _ => rfl

/-- The row of an owner on the results screen, outside group view. -/
def scoreRow (context : MatrixContext) (filter : Int64) (withId : Bool) (owner : Owner) :
    List Cell :=
  row context (visibleAssignments context.course.assignments filter false) withId .normal owner

/-- The cells below all assignments that are marked as approved are as many as the approved
submissions of the owner. -/
theorem approvedCells_row (context : MatrixContext) (withId : Bool) (owner : Owner) :
    approvedCells (assignmentCells withId
        (row context context.course.assignments withId .normal owner)) =
      context.course.approvedCount owner := by
  rw [assignmentCells_row, approvedCells, List.countP_map, Gradebook.approvedCount,
    List.countP_filterMap]
  refine List.countP_congr ?_
  intro assignment _
  rw [Function.comp_apply, isApproved_cell_iff]
  cases context.course.submissionFor? owner assignment with
  | none => simp
  | some submission => simp

/-- The number of approved submissions is the number of cells in the row that are marked as
approved, where nothing is filtered and the view is not that of groups. So the rows sorted by it
are the stable order by the cells that are marked. -/
theorem approvedCount_counts_cells (context : MatrixContext) (withId : Bool) {filter : Int64}
    (unfiltered : filter ≤ 0) :
    (∀ owner, approvedCells (assignmentCells withId (scoreRow context filter withId owner)) =
      context.course.approvedCount owner) ∧
    ∀ (groupView : Bool) (query : String) (ascending : Bool),
      StablySorted (fun cells => approvedCells (assignmentCells withId cells)) ascending
        ((foundOwners context.course groupView query).map (scoreRow context filter withId))
        ((sortedOwners context.course groupView query ⟨.approved, ascending⟩).map
          (scoreRow context filter withId)) := by
  have counts : ∀ owner,
      approvedCells (assignmentCells withId (scoreRow context filter withId owner)) =
        context.course.approvedCount owner := by
    intro owner
    unfold scoreRow
    rw [visibleAssignments_eq _ unfiltered]
    exact approvedCells_row context withId owner
  refine ⟨counts, ?_⟩
  intro groupView query ascending
  have sorted : StablySorted context.course.approvedCount ascending
      (foundOwners context.course groupView query)
      (sortedOwners context.course groupView query ⟨.approved, ascending⟩) :=
    stablySorted_sortedOwners context.course groupView query ⟨.approved, ascending⟩
  exact sorted.map counts

/-- The results screen of a course in which one lab is listed twice and another has no delivery.
The delivery for the first is selected. -/
def relistedContext : MatrixContext where
  course :=
    { Gradebook.empty with
      assignments := [pairLab, { pairLab with id := 30 }, pairLab]
      enrollments := [pairMember 1 200]
      submissions := [{ pairWork with status := .approved }] }
  review := .initial
  selectedSubmissionId := some 51
  selfId := 100

/-- The delivery counts twice, as it has two cells. -/
theorem approvedCount_counts_cells_relisted :
    (-1 : Int64) ≤ 0 ∧
      relistedContext.course.approvedCount (.enrollment (pairMember 1 200)) = 2 ∧
      approvedCells (assignmentCells true
        (scoreRow relistedContext (-1) true (.enrollment (pairMember 1 200)))) = 2 := by
  have unfiltered : (-1 : Int64) ≤ 0 := by decide
  have count : relistedContext.course.approvedCount (.enrollment (pairMember 1 200)) = 2 := by
    decide
  refine ⟨unfiltered, count, ?_⟩
  rw [(approvedCount_counts_cells relistedContext true unfiltered).1, count]

end Coursework.Grading
