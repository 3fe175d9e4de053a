import Mathlib.Data.List.Basic
import Coursework.Grading.Matrix

/-!
# Cells of the submission matrix

The header, the rows and the cells of the matrix are made apart from each other.
`matrix_aligned` says that they fit: there is a row for each member of the course that the search
finds and a column for each assignment that the filter leaves, each row is as long as the header,
and the cell below an assignment is about the row's owner and that assignment.

Who has a row, what has a column, and whose a submission is, is said by `HasRow`, `HasColumn` and
`Delivers` without the tests that the matrix uses for it.
-/

namespace Coursework

/-- A submission is the owner's delivery for an assignment: of a group as such, of a member with
the group when the lab is for groups, and otherwise of the member alone. -/
inductive Delivers : Owner → Assignment → Submission → Prop where
  | asGroup {group assignment submission} (own : submission.groupId = group.id) :
      Delivers (.group group) assignment submission
  | withGroup {enrollment assignment submission} (groupLab : assignment.isGroupLab = true)
      (grouped : 0 < enrollment.groupId) (own : submission.groupId = enrollment.groupId) :
      Delivers (.enrollment enrollment) assignment submission
  | alone {enrollment assignment submission}
      (single : ¬ (assignment.isGroupLab = true ∧ 0 < enrollment.groupId))
      (own : submission.userId = enrollment.userId) (ungrouped : submission.groupId = 0) :
      Delivers (.enrollment enrollment) assignment submission

theorem Owner.owns_iff {owner : Owner} {assignment : Assignment} {submission : Submission} :
    owner.owns assignment submission = true ↔ Delivers owner assignment submission := by
  cases owner with
  | group group =>
    constructor
    · intro owns
      exact .asGroup (beq_iff_eq.mp owns)
    · rintro ⟨own⟩
      exact beq_iff_eq.mpr own
  | enrollment enrollment =>
    unfold owns
    by_cases together : assignment.isGroupLab = true ∧ 0 < enrollment.groupId
    · simp only [together, decide_true, Bool.and_self, if_true, beq_iff_eq]
      constructor
      · intro own
        exact .withGroup together.1 together.2 own
      · intro delivers
        cases delivers with
        | withGroup _ _ own => exact own
        | alone single _ _ => exact absurd together single
    · have test : (assignment.isGroupLab && decide (0 < enrollment.groupId)) = false := by
        simpa using together
      simp only [test, Bool.false_eq_true, if_false, Bool.and_eq_true, beq_iff_eq]
      constructor
      · rintro ⟨own, ungrouped⟩
        exact .alone together own ungrouped
      · intro delivers
        cases delivers with
        | withGroup groupLab grouped _ => exact absurd ⟨groupLab, grouped⟩ together
        | alone _ own ungrouped => exact ⟨own, ungrouped⟩

namespace Gradebook

theorem submissionFor?_eq_none_iff {book : Gradebook} {owner : Owner} {assignment : Assignment} :
    book.submissionFor? owner assignment = none ↔
      ∀ submission ∈ book.submissions,
        ¬ (submission.assignmentId = assignment.id ∧ Delivers owner assignment submission) := by
  simp only [submissionFor?, List.find?_eq_none, Bool.and_eq_true, beq_iff_eq, Owner.owns_iff]

/-- What is found for an owner and an assignment is the first delivery. -/
theorem submissionFor?_eq_some_iff {book : Gradebook} {owner : Owner} {assignment : Assignment}
    {submission : Submission} :
    book.submissionFor? owner assignment = some submission ↔
      (submission.assignmentId = assignment.id ∧ Delivers owner assignment submission) ∧
      ∃ before after, book.submissions = before ++ submission :: after ∧
        ∀ earlier ∈ before,
          ¬ (earlier.assignmentId = assignment.id ∧ Delivers owner assignment earlier) := by
  simp only [submissionFor?, List.find?_eq_some_iff_append, Bool.and_eq_true, beq_iff_eq,
    Owner.owns_iff, Bool.not_eq_true', ← Bool.not_eq_true]

end Gradebook

namespace Grading

/-- A cell is about the owner's delivery for the assignment. -/
structure ShowsDelivery (course : Gradebook) (mode : MatrixMode) (owner : Owner)
    (assignment : Assignment) (cell : Cell) : Prop where
  /-- It is blank without a delivery, and on the review screen without reviewers. -/
  blank : cell = .plain "N/A" ↔
    (∀ submission ∈ course.submissions,
      ¬ (submission.assignmentId = assignment.id ∧ Delivers owner assignment submission)) ∨
    mode = .review ∧ assignment.reviewers = 0
  /-- Otherwise a click selects the first delivery. -/
  first : cell ≠ .plain "N/A" →
    ∃ click, cell.click = some click ∧
      click.submission.assignmentId = assignment.id ∧
      Delivers owner assignment click.submission ∧
      ∃ before after, course.submissions = before ++ click.submission :: after ∧
        ∀ earlier ∈ before,
          ¬ (earlier.assignmentId = assignment.id ∧ Delivers owner assignment earlier)
  /-- A click in the row of a member brings the member into focus. -/
  member : ∀ enrollment, owner = .enrollment enrollment →
    ∀ click, cell.click = some click → click.enrollment = some enrollment
  group : ∀ group, owner = .group group →
    ∀ click, cell.click = some click → click.enrollment = none

/-- With a delivery, a cell is blank on the review screen without reviewers, and otherwise has a
click on the delivery. -/
theorem cell_of_delivery {context : MatrixContext} (mode : MatrixMode) {owner : Owner}
    {assignment : Assignment} {submission : Submission}
    (found : context.course.submissionFor? owner assignment = some submission) :
    (mode = .review ∧ assignment.reviewers = 0 ∧
      cell context mode owner assignment = .plain "N/A") ∨
    (¬ (mode = .review ∧ assignment.reviewers = 0) ∧
      (cell context mode owner assignment).click = some (clickFor submission owner)) := by
  unfold cell
  rw [found]
  cases mode with
  | normal => exact .inr ⟨by simp, rfl⟩
  | review =>
    dsimp only
    unfold reviewCell
    by_cases graded : assignment.isManuallyGraded = true
    · refine .inr ⟨?_, ?_⟩
      · rintro ⟨_, unreviewed⟩
        rw [Assignment.isManuallyGraded_eq_false_iff.mpr unreviewed] at graded
        exact Bool.false_ne_true graded
      · rw [if_pos graded]
    · have unreviewed := Assignment.isManuallyGraded_eq_false_iff.mp (eq_false_of_ne_true graded)
      exact .inl ⟨rfl, unreviewed, if_neg graded⟩

theorem showsDelivery_plain {course : Gradebook} {mode : MatrixMode} {owner : Owner}
    {assignment : Assignment}
    (reason : (∀ submission ∈ course.submissions,
        ¬ (submission.assignmentId = assignment.id ∧ Delivers owner assignment submission)) ∨
      mode = .review ∧ assignment.reviewers = 0) :
    ShowsDelivery course mode owner assignment (.plain "N/A") where
  blank := iff_of_true rfl reason
  first other := absurd rfl other
  member _ _ _ click := by cases click
  group _ _ _ click := by cases click

/-- Each cell is about its owner's delivery for its assignment. -/
theorem showsDelivery_cell (context : MatrixContext) (mode : MatrixMode) (owner : Owner)
    (assignment : Assignment) :
    ShowsDelivery context.course mode owner assignment (cell context mode owner assignment) := by
  cases found : context.course.submissionFor? owner assignment with
  | none =>
    have blank : cell context mode owner assignment = .plain "N/A" := by
      unfold cell
      rw [found]
    rw [blank]
    exact showsDelivery_plain (.inl (Gradebook.submissionFor?_eq_none_iff.mp found))
  | some submission =>
    obtain ⟨delivery, before, after, split, earlier⟩ :=
      Gradebook.submissionFor?_eq_some_iff.mp found
    rcases cell_of_delivery mode found with ⟨review, unreviewed, blank⟩ | ⟨shown, click⟩
    · rw [blank]
      exact showsDelivery_plain (.inr ⟨review, unreviewed⟩)
    · have member : submission ∈ context.course.submissions := by
        rw [split]
        simp
      have filled : cell context mode owner assignment ≠ .plain "N/A" := by
        intro blank
        rw [blank] at click
        cases click
      refine ⟨iff_of_false filled ?_, fun _ => ?_, ?_, ?_⟩
      · rintro (undelivered | unreviewed)
        · exact undelivered submission member delivery
        · exact shown unreviewed
      · exact ⟨_, click, delivery.1, delivery.2, before, after, split, earlier⟩
      · intro enrollment isMember selected same
        rw [← Option.some.inj (click.symm.trans same), isMember]
        rfl
      · intro group isGroup selected same
        rw [← Option.some.inj (click.symm.trans same), isGroup]
        rfl

/-- The columns before those of assignments: names, and identifiers if they are shown. -/
def leadingColumns (withId : Bool) : Nat := if withId then 2 else 1

theorem length_row (context : MatrixContext) (visible : List Assignment) (withId : Bool)
    (mode : MatrixMode) (owner : Owner) :
    (row context visible withId mode owner).length = leadingColumns withId + visible.length := by
  cases withId <;> simp [row, leadingColumns] <;> omega

theorem length_header (visible : List Assignment) (withId : Bool) :
    (header visible withId).length = leadingColumns withId + visible.length := by
  cases withId <;> simp [header, leadingColumns] <;> omega

/-- A row has the cells of the assignments after its leading columns. -/
theorem getElem?_row (context : MatrixContext) (visible : List Assignment) (withId : Bool)
    (mode : MatrixMode) (owner : Owner) (column : Nat) :
    (row context visible withId mode owner)[leadingColumns withId + column]? =
      visible[column]?.map (cell context mode owner) := by
  unfold row
  rw [List.getElem?_append_right]
  · cases withId <;> simp [leadingColumns]
  · cases withId <;> simp [leadingColumns]

theorem getElem?_header (visible : List Assignment) (withId : Bool) (column : Nat) :
    (header visible withId)[leadingColumns withId + column]? =
      visible[column]?.map fun assignment => ⟨assignment.name, none⟩ := by
  unfold header
  dsimp only
  rw [List.getElem?_append_right]
  · cases withId <;> simp [leadingColumns]
  · cases withId <;> simp [leadingColumns]

/-- The matrix has a row for each group in group view, and else for each student and teacher. -/
inductive HasRow (course : Gradebook) : (groupView : Bool) → Owner → Prop where
  | group {group} (listed : group ∈ course.groups) : HasRow course true (.group group)
  | enrollment {enrollment} (listed : enrollment ∈ course.enrollments)
      (role : enrollment.status ∈ [EnrollmentStatus.student, .teacher]) :
      HasRow course false (.enrollment enrollment)

theorem mem_owners_iff {course : Gradebook} {groupView : Bool} {owner : Owner} :
    owner ∈ course.owners groupView ↔ HasRow course groupView owner := by
  have isMember (enrollment : Enrollment) : (enrollment.isStudent || enrollment.isTeacher) = true ↔
      enrollment.status ∈ [EnrollmentStatus.student, .teacher] := by
    simp [Enrollment.isStudent, Enrollment.isTeacher]
  cases groupView with
  | true =>
    constructor
    · intro listed
      obtain ⟨group, there, rfl⟩ := List.mem_map.mp listed
      exact .group there
    · rintro ⟨there⟩
      exact List.mem_map_of_mem there
  | false =>
    constructor
    · intro listed
      obtain ⟨enrollment, there, rfl⟩ := List.mem_map.mp listed
      obtain ⟨listed, role⟩ := List.mem_filter.mp there
      exact .enrollment listed ((isMember enrollment).mp role)
    · rintro (_ | ⟨there, role⟩)
      exact List.mem_map_of_mem (List.mem_filter.mpr ⟨there, (isMember _).mpr role⟩)

theorem mem_sortedOwners_iff {course : Gradebook} {groupView : Bool} {query : String}
    {sort : MatrixSort} {owner : Owner} :
    owner ∈ sortedOwners course groupView query sort ↔
      HasRow course groupView owner ∧ Text.found query owner.name = true := by
  rw [← mem_owners_iff]
  unfold sortedOwners
  dsimp only
  split <;> rw [List.mem_mergeSort, List.mem_filter]

/-- The matrix has a column for an assignment: it is the one of the filter, if the filter is
positive, and a group lab in group view. -/
structure HasColumn (filter : Int64) (groupView : Bool) (assignment : Assignment) : Prop where
  chosen : 0 < filter → (assignment.id.toNat : Int) = filter.toInt
  inView : groupView = true → assignment.isGroupLab = true

theorem mem_visibleAssignments_iff {assignments : List Assignment} {filter : Int64}
    {groupView : Bool} {assignment : Assignment} :
    assignment ∈ visibleAssignments assignments filter groupView ↔
      assignment ∈ assignments ∧ HasColumn filter groupView assignment := by
  unfold visibleAssignments
  rw [List.mem_filter, Bool.and_eq_true]
  refine and_congr_right fun _ => ⟨?_, ?_⟩
  · rintro ⟨chosen, inView⟩
    constructor
    · intro positive
      have notAll : ¬ filter ≤ 0 := Int64.not_le.mpr positive
      simpa [notAll] using chosen
    · rintro rfl
      simpa using inView
  · rintro ⟨chosen, inView⟩
    constructor
    · by_cases all : filter ≤ 0
      · simp [all]
      · simp [chosen (Int64.not_le.mp all)]
    · cases groupView with
      | false => rfl
      | true => simpa using inView rfl

/-- The header of the names, and that of the identifiers if they are shown. -/
def leadingHeader (withId : Bool) : List HeaderCell :=
  ⟨"Name", some .name⟩ :: if withId then [⟨"ID", some .id⟩] else []

/-- The cell of a name, and that of the identifier if it is shown. -/
def leadingCells (withId : Bool) (owner : Owner) : List Cell :=
  .plain owner.name :: if withId then [.plain owner.idLabel] else []

theorem take_row (context : MatrixContext) (visible : List Assignment) (withId : Bool)
    (mode : MatrixMode) (owner : Owner) :
    (row context visible withId mode owner).take (leadingColumns withId) =
      leadingCells withId owner := by
  cases withId <;> simp [row, leadingColumns, leadingCells]

/-- Header, rows and cells of a matrix fit, and are those of the course. -/
structure Aligned (course : Gradebook) (mode : MatrixMode) (filter : Int64) (groupView : Bool)
    (query : String) (sort : MatrixSort) (withId : Bool) (matrix : Matrix) : Prop where
  owners : matrix.owners = sortedOwners course groupView query sort
  /-- Each member of the course that the search finds has a row, and nobody else. -/
  hasRow : ∀ owner, owner ∈ matrix.owners ↔
    HasRow course groupView owner ∧ Text.found query owner.name = true
  visible : matrix.visible = visibleAssignments course.assignments filter groupView
  /-- Each assignment of the course that the filter leaves has a column, and no other. -/
  hasColumn : ∀ assignment, assignment ∈ matrix.visible ↔
    assignment ∈ course.assignments ∧ HasColumn filter groupView assignment
  /-- The header has the names of the assignments behind the leading columns. -/
  header : matrix.header =
    leadingHeader withId ++ matrix.visible.map fun assignment => ⟨assignment.name, none⟩
  rowLength : ∀ row ∈ matrix.rows, row.length = matrix.header.length
  rowOfOwner : matrix.rows.length = matrix.owners.length
  /-- In the row of an owner, the cell in an assignment's column is about the two. -/
  cellOfAssignment : ∀ (place : Nat) (owner : Owner), matrix.owners[place]? = some owner →
    ∃ row : List Cell, matrix.rows[place]? = some row ∧
      row.take (leadingColumns withId) = leadingCells withId owner ∧
      ∀ (column : Nat) (assignment : Assignment), matrix.visible[column]? = some assignment →
        matrix.header[leadingColumns withId + column]? = some ⟨assignment.name, none⟩ ∧
        ∃ cell, row[leadingColumns withId + column]? = some cell ∧
          ShowsDelivery course mode owner assignment cell

/-- Every matrix is aligned, with the column of identifiers and without. -/
theorem matrix_aligned (context : MatrixContext) (mode : MatrixMode) (filter : Int64)
    (groupView : Bool) (query : String) (sort : MatrixSort) (withId : Bool) :
    Aligned context.course mode filter groupView query sort withId
      (matrix context mode filter groupView query sort (some withId)) where
  owners := rfl
  hasRow _ := mem_sortedOwners_iff
  visible := rfl
  hasColumn _ := mem_visibleAssignments_iff
  header := by cases withId <;> rfl
  rowLength := by
    intro cells member
    obtain ⟨owner, _, rfl⟩ := List.mem_map.mp member
    exact (length_row ..).trans (length_header ..).symm
  rowOfOwner := List.length_map _
  cellOfAssignment := by
    intro place owner here
    have rowHere : (matrix context mode filter groupView query sort (some withId)).rows[place]? =
        some (row context (visibleAssignments context.course.assignments filter groupView) withId
          mode owner) :=
      List.getElem?_map.trans (congrArg (Option.map _) here)
    refine ⟨_, rowHere, take_row .., ?_⟩
    intro column assignment visible
    refine ⟨?_, cell context mode owner assignment, ?_, showsDelivery_cell ..⟩
    · exact (getElem?_header ..).trans (congrArg (Option.map _) visible)
    · exact (getElem?_row ..).trans (congrArg (Option.map _) visible)

/-- A student of a group. -/
def groupMember : Enrollment := ⟨1, 1, 200, none, .student, 7, 0, "", 0⟩

/-- What the student delivered alone, and then the group of the student. -/
def ownAndGroupDelivery : List Submission :=
  [{ Submission.blank with id := 50, assignmentId := 10, userId := 200 },
    { Submission.blank with id := 51, assignmentId := 10, groupId := 7 }]

/-- A course with a group lab that is graded by a reviewer. -/
def groupLabContext : MatrixContext where
  course :=
    { Gradebook.empty with
      assignments := [⟨10, 1, "Lab", "", 80, 1, true, false, 1⟩]
      enrollments := [groupMember]
      submissions := ownAndGroupDelivery }
  review := .initial
  selectedSubmissionId := none
  selfId := 100

/-- On the review screen the student's cell is that of the group's delivery, behind name and
identifier. -/
theorem matrix_aligned_of_groupLab :
    ∃ cells cell, (matrix groupLabContext .review 0 false "" .initial (some true)).rows[0]? =
        some cells ∧
      cells[2]? = some cell ∧
      cell.click = some ⟨{ Submission.blank with id := 51, assignmentId := 10, groupId := 7 },
        some groupMember⟩ := by
  have aligned := matrix_aligned groupLabContext .review 0 false "" .initial true
  have owners : (matrix groupLabContext .review 0 false "" .initial (some true)).owners =
      [.enrollment groupMember] := by
    rw [aligned.owners]
    have found : (groupLabContext.course.owners false).filter
        (fun owner => Text.found "" owner.name) = [.enrollment groupMember] := by decide
    unfold sortedOwners
    rw [found]
    exact List.mergeSort_singleton _
  obtain ⟨cells, rowHere, _, ofColumns⟩ :=
    aligned.cellOfAssignment 0 (.enrollment groupMember) (by rw [owners]; rfl)
  obtain ⟨_, cell, cellHere, shows⟩ := ofColumns 0 _ rfl
  have filled : cell ≠ .plain "N/A" := by
    intro blank
    rcases shows.blank.mp blank with undelivered | ⟨_, unreviewed⟩
    · exact undelivered { Submission.blank with id := 51, assignmentId := 10, groupId := 7 }
        (.tail _ (.head _)) ⟨rfl, .withGroup rfl (by decide) rfl⟩
    · exact absurd unreviewed (by decide)
  obtain ⟨⟨selected, _⟩, isClick, _, delivers, before, after, split, _⟩ := shows.first filled
  obtain rfl := shows.member groupMember rfl _ isClick
  have listed : selected ∈ ownAndGroupDelivery := by
    change selected ∈ groupLabContext.course.submissions
    rw [split]
    simp
  simp only [ownAndGroupDelivery, List.mem_cons, List.not_mem_nil, or_false] at listed
  rcases listed with rfl | rfl
  · -- What the student delivered alone is not the group's.
    cases delivers with
    | withGroup _ _ own => exact absurd own (by decide)
    | alone single _ _ => exact absurd ⟨rfl, by decide⟩ single
  · exact ⟨cells, cell, rowHere, cellHere, isClick⟩

end Grading

end Coursework
