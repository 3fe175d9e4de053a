import Coursework.Proofs.MatrixCells

/-!
# Group view and member view

The matrix shows a group lab once for the group and once for each of its members, in two views
with columns of their own. `group_and_member_cells_agree` says that the cells of a group and of its
members are alike: they are about one submission, and only a click tells the two rows apart.

A cell depends on its owner in two ways: by the submission that is found for the owner, and by
whom a click brings into focus. `cell_inRowOf` separates them, for any two owners.
-/

namespace Coursework

section

variable {group : Group} {enrollment : Enrollment} {assignment : Assignment}
  (groupLab : assignment.isGroupLab = true) (stored : 0 < group.id)
  (grouped : enrollment.groupId = group.id)

include groupLab stored grouped

/-- Of a group lab the group and its members have the same deliveries. -/
theorem delivers_member_iff {submission : Submission} :
    Delivers (.enrollment enrollment) assignment submission ↔
      Delivers (.group group) assignment submission := by
  have positive : 0 < enrollment.groupId := by
    rw [grouped]
    exact stored
  constructor
  · intro delivers
    cases delivers with
    | withGroup _ _ own => exact .asGroup (own.trans grouped)
    | alone single _ _ => exact absurd ⟨groupLab, positive⟩ single
  · intro delivers
    cases delivers with
    | asGroup own => exact .withGroup groupLab positive (own.trans grouped.symm)

theorem Gradebook.submissionFor?_member (book : Gradebook) :
    book.submissionFor? (.enrollment enrollment) assignment =
      book.submissionFor? (.group group) assignment := by
  have owns : (Owner.enrollment enrollment).owns assignment =
      (Owner.group group).owns assignment := by
    funext submission
    rw [Bool.eq_iff_iff, Owner.owns_iff, Owner.owns_iff]
    exact delivers_member_iff groupLab stored grouped
  unfold submissionFor?
  rw [owns]

end

namespace Grading

/-- The cell as it stands in the row of another owner: a click brings that one into focus. -/
def Cell.inRowOf (owner : Owner) (cell : Cell) : Cell :=
  { cell with
    click := cell.click.map fun click => { click with enrollment := owner.enrollment? } }

section

variable (context : MatrixContext) (owner other : Owner)

theorem scoreCell_inRowOf (submission : Submission) :
    (scoreCell context submission owner).inRowOf other = scoreCell context submission other :=
  rfl

theorem reviewCell_inRowOf (submission : Submission) (assignment : Assignment) :
    (reviewCell context submission assignment owner).inRowOf other =
      reviewCell context submission assignment other := by
  unfold reviewCell
  split <;> rfl

/-- Where the same submission is found for two owners, their cells differ by the click only. -/
theorem cell_inRowOf {owner other : Owner} {assignment : Assignment} (mode : MatrixMode)
    (same : context.course.submissionFor? other assignment =
      context.course.submissionFor? owner assignment) :
    (cell context mode owner assignment).inRowOf other = cell context mode other assignment := by
  unfold cell
  rw [same]
  cases context.course.submissionFor? owner assignment with
  | none => rfl
  | some submission =>
    cases mode with
    | normal => exact scoreCell_inRowOf context owner other submission
    | review => exact reviewCell_inRowOf context owner other submission assignment

end

/-- A cell of a group and one of a member show the same, and a click on either selects the same
submission; only the member's brings the member into focus. -/
structure CellsAgree (enrollment : Enrollment) (groupCell memberCell : Cell) : Prop where
  value : memberCell.value = groupCell.value
  classes : memberCell.classes = groupCell.classes
  click : groupCell.click = none ∧ memberCell.click = none ∨
    ∃ submission, groupCell.click = some ⟨submission, none⟩ ∧
      memberCell.click = some ⟨submission, some enrollment⟩

theorem cellsAgree_inRowOf (enrollment : Enrollment) {cell : Cell}
    (ofGroup : ∀ click, cell.click = some click → click.enrollment = none) :
    CellsAgree enrollment cell (cell.inRowOf (.enrollment enrollment)) where
  value := rfl
  classes := rfl
  click := by
    cases clicks : cell.click with
    | none => exact .inl ⟨rfl, congrArg (Option.map _) clicks⟩
    | some click =>
      obtain ⟨submission, focus⟩ := click
      obtain rfl : focus = none := ofGroup _ clicks
      exact .inr ⟨submission, rfl, congrArg (Option.map _) clicks⟩

/-- For a group and one of its members the same submission of a group lab is found. Wherever the
lab stands in the columns of the two views, its cells in the two rows agree. -/
theorem group_and_member_cells_agree (context : MatrixContext) (mode : MatrixMode) {group : Group}
    {enrollment : Enrollment} {assignment : Assignment} (stored : 0 < group.id)
    (grouped : enrollment.groupId = group.id) (groupLab : assignment.isGroupLab = true) :
    context.course.submissionFor? (.group group) assignment =
      context.course.submissionFor? (.enrollment enrollment) assignment ∧
    ∀ (groupVisible memberVisible : List Assignment) (groupWithId memberWithId : Bool)
      (groupColumn memberColumn : Nat),
      groupVisible[groupColumn]? = some assignment →
      memberVisible[memberColumn]? = some assignment →
      ∃ groupCell memberCell,
        (row context groupVisible groupWithId mode
          (.group group))[leadingColumns groupWithId + groupColumn]? = some groupCell ∧
        (row context memberVisible memberWithId mode
          (.enrollment enrollment))[leadingColumns memberWithId + memberColumn]? =
            some memberCell ∧
        CellsAgree enrollment groupCell memberCell := by
  have same := context.course.submissionFor?_member groupLab stored grouped
  refine ⟨same.symm, ?_⟩
  intro groupVisible memberVisible groupWithId memberWithId groupColumn memberColumn groupShows
    memberShows
  have ofGroup := (showsDelivery_cell context mode (.group group) assignment).group group rfl
  have agree := cellsAgree_inRowOf enrollment ofGroup
  rw [cell_inRowOf context mode same] at agree
  refine ⟨_, _, ?_, ?_, agree⟩
  · rw [getElem?_row, groupShows, Option.map_some]
  · rw [getElem?_row, memberShows, Option.map_some]

/-- A group, one of its members, and a lab for groups that is graded by two reviewers. -/
def essayGroup : Group := ⟨7, 1, "Pair", .approved, [{ User.blank with id := 200 }]⟩
def essayWriter : Enrollment := ⟨1, 1, 200, none, .student, 7, 0, "", 0⟩
def essayLab : Assignment := ⟨20, 1, "Essay", "2024-05-01", 80, 2, true, false, 2⟩

/-- The group has delivered, its member had delivered alone before, and one review is unfinished. -/
def essayContext : MatrixContext where
  course :=
    { Gradebook.empty with
      submissions :=
        [{ Submission.blank with id := 50, assignmentId := 20, userId := 200 },
          { Submission.blank with id := 51, assignmentId := 20, groupId := 7 }] }
  review := ReviewBook.initial.load [⟨1, 51, 100, 40, false, "", "", []⟩]
  selectedSubmissionId := some 51
  selfId := 100

/-- In the two views the essay has columns of its own, here the second and the fourth. -/
theorem group_and_member_cells_agree_of_essay :
    0 < essayGroup.id ∧ essayWriter.groupId = essayGroup.id ∧ essayLab.isGroupLab = true ∧
      essayContext.course.submissionFor? (.group essayGroup) essayLab =
        essayContext.course.submissionFor? (.enrollment essayWriter) essayLab ∧
      (essayContext.course.submissionFor? (.group essayGroup) essayLab).map (·.id) = some 51 ∧
      ∃ groupCell memberCell,
        (row essayContext [essayLab] false .review (.group essayGroup))[1]? = some groupCell ∧
        (row essayContext [{ essayLab with id := 10, isGroupLab := false }, essayLab] true .review
          (.enrollment essayWriter))[3]? = some memberCell ∧
        CellsAgree essayWriter groupCell memberCell := by
  have stored : 0 < essayGroup.id := by decide
  have grouped : essayWriter.groupId = essayGroup.id := rfl
  have groupLab : essayLab.isGroupLab = true := rfl
  obtain ⟨same, cells⟩ :=
    group_and_member_cells_agree essayContext .review stored grouped groupLab
  exact ⟨stored, grouped, groupLab, same, by decide, cells _ _ false true 0 1 rfl rfl⟩

end Grading

end Coursework
