import Coursework.Grading.Progress
import Coursework.Grading.Result
import Coursework.Proofs.MatrixCells
import Coursework.Screen.Labs

/-!
# The status of one member of a group

A submission has a status, and may have another one for single members of the group that
delivered it. The screens of a student show the status for the student. The matrix shows that of
the submission, in the row of a single member too, and rows are sorted by it.

`matrix_shows_own_status_iff` says when a member has one status on all screens: when the grade of
the member, if there is one, is the status of the submission.
-/

namespace Coursework

namespace Submission

variable {submission : Submission} {userId : Id}

/-- The submission with one status for everybody. -/
def withStatus (submission : Submission) (status : SubmissionStatus) : Submission :=
  { submission with status, grades := [] }

@[simp] theorem statusFor_withStatus (submission : Submission) (status : SubmissionStatus)
    (userId : Id) : (submission.withStatus status).statusFor userId = status := rfl

/-- The grade of a user, which is the first one if there are several. -/
def gradeOf? (submission : Submission) (userId : Id) : Option Grade :=
  submission.grades.find? (·.userId == userId)

/-- A user has the status of the submission unless a grade says otherwise. -/
theorem statusFor_eq_status_iff :
    submission.statusFor userId = submission.status ↔
      ∀ grade, submission.gradeOf? userId = some grade → grade.status = submission.status := by
  unfold statusFor gradeOf?
  cases submission.grades.find? (·.userId == userId) with
  | none => simp
  | some grade => simp

end Submission

namespace Gradebook

/-- A lab of the course adds one to the count of an owner's approved labs if the delivery for it
is approved, and else nothing. -/
theorem approvedCount_of_delivery {book : Gradebook} {owner : Owner} {assignment : Assignment}
    {submission : Submission} (found : book.submissionFor? owner assignment = some submission)
    {before after : List Assignment} (split : book.assignments = before ++ assignment :: after) :
    book.approvedCount owner =
      { book with assignments := before ++ after }.approvedCount owner +
        if submission.status = .approved then 1 else 0 := by
  have sameSearch : { book with assignments := before ++ after }.submissionFor? owner =
      book.submissionFor? owner := rfl
  unfold approvedCount
  rw [sameSearch, split]
  simp only [List.filterMap_append, List.filterMap_cons, found, List.countP_append,
    List.countP_cons, decide_eq_true_eq]
  omega

end Gradebook

namespace Grading

variable {status other : SubmissionStatus}

theorem cellClass_inj : cellClass status = cellClass other ↔ status = other := by
  cases status <;> cases other <;> decide

theorem barClass_inj : barClass status = barClass other ↔ status = other := by
  cases status <;> cases other <;> decide

theorem cellClass_ne_selected : cellClass status ≠ "selected" := by
  cases status <;> decide

/-- Of all statuses, a cell of the results screen has the class of its submission's. -/
theorem cellClass_mem_scoreCell {context : MatrixContext} {submission : Submission}
    {owner : Owner} :
    cellClass status ∈ (scoreCell context submission owner).classes ↔
      status = submission.status := by
  have notSelected : cellClass status ∉ selectedClass context submission := by
    unfold selectedClass
    split
    · simpa using cellClass_ne_selected
    · exact List.not_mem_nil
  simp only [scoreCell, List.mem_cons, notSelected, or_false, cellClass_inj]

/-- The results screen shows an enrollment with that status for a lab. -/
structure ShownInMatrix (context : MatrixContext) (enrollment : Enrollment)
    (assignment : Assignment) (status : SubmissionStatus) : Prop where
  /-- Wherever the lab has a column, the cell below it in the enrollment's row has the class of
  that status and of no other. -/
  cell : ∀ (visible : List Assignment) (withId : Bool) (column : Nat),
    visible[column]? = some assignment →
    ∃ cell, (row context visible withId .normal
        (.enrollment enrollment))[leadingColumns withId + column]? = some cell ∧
      ∀ other, cellClass other ∈ cell.classes ↔ other = status
  /-- The lab counts among the approved ones if that status is approved. -/
  counted : ∀ before after, context.course.assignments = before ++ assignment :: after →
    context.course.approvedCount (.enrollment enrollment) =
      { context.course with assignments := before ++ after }.approvedCount
        (.enrollment enrollment) + if status = .approved then 1 else 0

/-- The screens of a user show a submission with that status: as one with that status for
everybody. -/
structure ShownToUser (userId : Id) (assignment : Assignment) (submission : Submission)
    (status : SubmissionStatus) : Prop where
  listed : Screen.labItem userId ⟨assignment, submission⟩ =
    Screen.labItem userId ⟨assignment, submission.withStatus status⟩
  bar : ∀ mode, progress (some submission) (some assignment) mode userId =
    progress (some (submission.withStatus status)) (some assignment) mode userId
  table : ∀ enrollment, resultTable submission assignment enrollment userId =
    resultTable (submission.withStatus status) assignment enrollment userId

/-- The matrix shows the status of the submission. -/
theorem shownInMatrix_iff {context : MatrixContext} {enrollment : Enrollment}
    {assignment : Assignment} {submission : Submission}
    (found : context.course.submissionFor? (.enrollment enrollment) assignment =
      some submission) :
    ShownInMatrix context enrollment assignment status ↔ status = submission.status := by
  have cellIs : cell context .normal (.enrollment enrollment) assignment =
      scoreCell context submission (.enrollment enrollment) := by
    unfold cell
    rw [found]
  constructor
  · intro shown
    obtain ⟨shownCell, here, classes⟩ := shown.cell [assignment] false 0 rfl
    rw [getElem?_row, List.getElem?_cons_zero, Option.map_some, cellIs] at here
    obtain rfl := Option.some.inj here
    exact cellClass_mem_scoreCell.mp ((classes status).mpr rfl)
  · rintro rfl
    refine ⟨?_, fun _ _ split => Gradebook.approvedCount_of_delivery found split⟩
    intro visible withId column here
    refine ⟨scoreCell context submission (.enrollment enrollment), ?_, fun _ =>
      cellClass_mem_scoreCell⟩
    rw [getElem?_row, here, Option.map_some, cellIs]

/-- The screens of a user show the status for the user. -/
theorem shownToUser_iff {userId : Id} {assignment : Assignment} {submission : Submission} :
    ShownToUser userId assignment submission status ↔
      status = submission.statusFor userId := by
  constructor
  · intro shown
    have bars := shown.bar .lab
    simp only [progress, Option.map_some, Option.getD_some, Submission.statusFor_withStatus,
      reduceCtorEq, if_false, Progress.bar.injEq, Segment.mk.injEq, barClass_inj] at bars
    exact bars.1.2.1.symm
  · rintro rfl
    exact ⟨rfl, fun _ => rfl, fun _ => rfl⟩

/-- A member's status is that of the grade on the member's own screens, and that of the submission
in the matrix. It is the same on all of them exactly if a grade of the member, where there is one,
is the status of the submission. -/
theorem matrix_shows_own_status_iff (context : MatrixContext) {enrollment : Enrollment}
    {assignment : Assignment} {submission : Submission}
    (found : context.course.submissionFor? (.enrollment enrollment) assignment =
      some submission) :
    (∀ status, ShownToUser enrollment.userId assignment submission status ↔
      status = submission.statusFor enrollment.userId) ∧
    (∀ status, ShownInMatrix context enrollment assignment status ↔
      status = submission.status) ∧
    (ShownInMatrix context enrollment assignment (submission.statusFor enrollment.userId) ↔
      ∀ grade, submission.gradeOf? enrollment.userId = some grade →
        grade.status = submission.status) := by
  refine ⟨fun _ => shownToUser_iff, fun _ => shownInMatrix_iff found, ?_⟩
  rw [shownInMatrix_iff found]
  exact Submission.statusFor_eq_status_iff

/-- A lab for groups. -/
def pairLab : Assignment := ⟨20, 1, "Pair", "", 80, 1, true, false, 0⟩

/-- A pair's work. The first of the two has it approved, and the second has the status of the
submission. -/
def pairWork : Submission :=
  { Submission.blank with
    id := 51, assignmentId := 20, groupId := 7, score := 90
    grades := [⟨200, .approved⟩, ⟨300, .none⟩] }

/-- A member of the pair. -/
def pairMember (id userId : Id) : Enrollment :=
  ⟨id, 1, userId, none, .student, 7, 0, "", 0⟩

/-- The results screen of the course of the pair. -/
def pairContext : MatrixContext where
  course :=
    { Gradebook.empty with
      assignments := [pairLab], enrollments := [pairMember 1 200, pairMember 2 300]
      submissions := [pairWork] }
  review := .initial
  selectedSubmissionId := none
  selfId := 100

theorem matrix_shows_own_status_iff_of_second :
    pairContext.course.submissionFor? (.enrollment (pairMember 2 300)) pairLab = some pairWork ∧
      ShownInMatrix pairContext (pairMember 2 300) pairLab (pairWork.statusFor 300) ∧
      ShownToUser 300 pairLab pairWork (pairWork.statusFor 300) := by
  have found : pairContext.course.submissionFor? (.enrollment (pairMember 2 300)) pairLab =
      some pairWork := by decide
  obtain ⟨toUser, _, own⟩ := matrix_shows_own_status_iff pairContext found
  exact ⟨found, own.mpr (by decide), (toUser _).mpr rfl⟩

/-- The first of the pair has the work approved, but the matrix does not show it so, and does not
count it. -/
theorem not_shownInMatrix_of_first :
    pairContext.course.submissionFor? (.enrollment (pairMember 1 200)) pairLab = some pairWork ∧
      pairWork.statusFor 200 = .approved ∧
      (cell pairContext .normal (.enrollment (pairMember 1 200)) pairLab).classes =
        [cellClass .none] ∧
      pairContext.course.approvedCount (.enrollment (pairMember 1 200)) = 0 ∧
      ¬ ShownInMatrix pairContext (pairMember 1 200) pairLab (pairWork.statusFor 200) := by
  have found : pairContext.course.submissionFor? (.enrollment (pairMember 1 200)) pairLab =
      some pairWork := by decide
  refine ⟨found, by decide, by decide, by decide, ?_⟩
  rw [shownInMatrix_iff found]
  decide

end Grading

end Coursework
