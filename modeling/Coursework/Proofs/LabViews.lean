import Coursework.Grading.Progress
import Coursework.Grading.Result
import Coursework.Proofs.OwnStatus

/-!
# The views of one submission

The line below a lab link, the two bars and the result table are made from the same submission by
rules of their own: some of them cap the score at a hundred and some do not, and the status is
looked up in one place and turned into words in another. `lab_views_agree` says that a viewer is
told the same by all of them, as long as the limit is a percentage.
-/

namespace Coursework

namespace Submission

theorem toNat_displayScore (submission : Submission) :
    submission.displayScore.toNat = min submission.score.toNat 100 := by
  rw [displayScore, UInt32.toNat_min]
  rfl

theorem toNat_displayScore_le (submission : Submission) : submission.displayScore.toNat ≤ 100 := by
  rw [toNat_displayScore]
  exact Nat.min_le_right _ _

theorem displayScore_le (submission : Submission) : submission.displayScore ≤ 100 :=
  UInt32.le_iff_toNat_le.mpr submission.toNat_displayScore_le

/-- Capping the score does not take it below a limit that is a percentage. -/
theorem le_displayScore_iff (submission : Submission) {limit : UInt32} (percentage : limit ≤ 100) :
    limit ≤ submission.displayScore ↔ limit ≤ submission.score := by
  have bound : limit.toNat ≤ 100 := UInt32.le_iff_toNat_le.mp percentage
  rw [UInt32.le_iff_toNat_le, UInt32.le_iff_toNat_le, toNat_displayScore]
  omega

end Submission

namespace Grading

/-- What is missing is a difference of numbers, and nothing wraps around. -/
theorem toNat_missingPercent (limit score : UInt32) :
    (missingPercent limit score).toNat = limit.toNat - score.toNat := by
  unfold missingPercent
  split
  · rename_i short
    exact UInt32.toNat_sub_of_le _ _ (UInt32.le_of_lt short)
  · rename_i reached
    have enough : limit.toNat ≤ score.toNat :=
      UInt32.le_iff_toNat_le.mp (UInt32.not_lt.mp reached)
    exact (Nat.sub_eq_zero_of_le enough).symm

/-- Nothing is missing once the limit is reached. -/
theorem not_missing_iff {limit score : UInt32} :
    ¬ 0 < missingPercent limit score ↔ limit ≤ score := by
  rw [UInt32.lt_iff_toNat_lt, UInt32.le_iff_toNat_le, toNat_missingPercent, UInt32.toNat_zero]
  omega

variable {assignment : Assignment} {submission : Submission} {status : SubmissionStatus}

/-- The status line of a submission that is short of the limit. -/
def needText (assignment : Assignment) : String :=
  "Need " ++ toString assignment.scoreLimit ++ "% score for approval"

theorem ne_needText {text : String} (start : ¬ "Need ".toList <+: text.toList) :
    text ≠ needText assignment := by
  rintro rfl
  apply start
  rw [needText, String.append_assoc, String.toList_append]
  exact List.prefix_append _ _

/-- The status line of an ungraded submission asks for more if the score is below the limit. -/
theorem statusText_none_iff :
    statusText assignment submission .none = needText assignment ↔
      submission.score < assignment.scoreLimit := by
  unfold statusText
  by_cases short : submission.score < assignment.scoreLimit
  · have notReached : ¬ assignment.scoreLimit ≤ submission.score := UInt32.not_le.mpr short
    simp [short, notReached, needText]
  · refine iff_of_false ?_ short
    split
    · exact ne_needText (by decide)
    · simp only [short, and_false, if_false]
      exact ne_needText (by decide)

/-- The status line reads "Approved" for approved submissions only. -/
theorem statusText_eq_approved_iff :
    statusText assignment submission status = "Approved" ↔ status = .approved := by
  unfold statusText
  split
  · rename_i awaiting
    rw [awaiting.1]
    decide
  · split
    · rename_i short
      have needed : "Need " ++ toString assignment.scoreLimit ++ "% score for approval" ≠
          "Approved" := (ne_needText (by decide)).symm
      rw [short.1]
      exact iff_of_false needed (by decide)
    · cases status <;> decide

section

variable {enrollment : Option Enrollment} {viewerId : Id}

theorem resultTable_passed_iff :
    (resultTable submission assignment enrollment viewerId).statusClass = "passed" ↔
      submission.statusFor viewerId = .approved := by
  simp [resultTable]

theorem resultTable_status :
    (resultTable submission assignment enrollment viewerId).row? "Status" =
      some ⟨"Status", statusText assignment submission (submission.statusFor viewerId)⟩ := rfl

end

/-- The width of a part of a bar, zero if there is no such part. -/
def shownWidth (part : Option Segment) : UInt32 :=
  (part.map (·.widthPercent)).getD 0

/-- A bar shows the score and the status for the viewer, and what is missing of the limit. -/
structure IsBar (submission : Submission) (assignment : Assignment) (viewerId : Id)
    (primary : Segment) (secondary : Option Segment) : Prop where
  score : primary.widthPercent = submission.displayScore
  status : primary.cssClass = barClass (submission.statusFor viewerId)
  full : secondary = none ↔ assignment.scoreLimit ≤ submission.displayScore
  missing : shownWidth secondary =
    missingPercent assignment.scoreLimit submission.displayScore

/-- Elsewhere than in the navigation, progress is a bar. -/
theorem progress_bar (submission : Submission) (assignment : Assignment) (viewerId : Id)
    {mode : ProgressMode} (notNav : mode ≠ .nav) :
    ∃ primary secondary,
      progress (some submission) (some assignment) mode viewerId = .bar primary secondary ∧
      IsBar submission assignment viewerId primary secondary := by
  refine ⟨_, _, if_neg notNav, rfl, rfl, ?_, ?_⟩
  · simp only [Option.map_some, Option.getD_some, ite_eq_right_iff, reduceCtorEq, imp_false]
    exact not_missing_iff
  · simp only [Option.map_some, Option.getD_some]
    split
    · rfl
    · rename_i reached
      exact (UInt32.le_zero_iff.mp (UInt32.not_lt.mp reached)).symm

/-- What the line, a bar and the table show of a submission fits. -/
structure ViewsAgree (submission : Submission) (assignment : Assignment) (color : String)
    (rightPercent : UInt32) (primary : Segment) (secondary : Option Segment) (table : ResultTable) :
    Prop where
  /-- The line is green if the bar is not continued up to the limit. -/
  green : color = "green" ↔ secondary = none
  /-- That is when the status line of an ungraded submission does not ask for more. -/
  enough : secondary = none ↔ statusText assignment submission .none ≠ needText assignment
  /-- The line ends where the score's part of the bar does. -/
  right : rightPercent = 100 - primary.widthPercent
  /-- The difference does not wrap around. -/
  noUnderflow : primary.widthPercent.toNat + rightPercent.toNat = 100
  primaryInRange : primary.widthPercent ≤ 100
  rightInRange : rightPercent ≤ 100
  /-- The bar goes up to the score or the limit, whichever is greater. -/
  width : primary.widthPercent.toNat + (shownWidth secondary).toNat =
    max submission.displayScore.toNat assignment.scoreLimit.toNat
  inRange : primary.widthPercent.toNat + (shownWidth secondary).toNat ≤ 100
  total : table.totalScore = toString primary.widthPercent ++ "%"
  passed : table.statusClass = "passed" ↔ primary.cssClass = "bg-success"
  approved : primary.cssClass = "bg-success" ↔ table.row? "Status" = some ⟨"Status", "Approved"⟩

/-- The views of a submission agree for each viewer, whatever the score is. -/
theorem lab_views_agree (submission : Submission) {assignment : Assignment}
    (limit : assignment.scoreLimit ≤ 100) (enrollment : Option Enrollment) (viewerId : Id) :
    ∃ color rightPercent,
      progress (some submission) (some assignment) .nav viewerId = .line color rightPercent ∧
      ∀ mode, mode ≠ .nav → ∃ primary secondary,
        progress (some submission) (some assignment) mode viewerId = .bar primary secondary ∧
        ViewsAgree submission assignment color rightPercent primary secondary
          (resultTable submission assignment enrollment viewerId) := by
  have capped := submission.toNat_displayScore_le
  have left := UInt32.toNat_sub_of_le 100 _ submission.displayScore_le
  have bound : assignment.scoreLimit.toNat ≤ 100 := UInt32.le_iff_toNat_le.mp limit
  refine ⟨_, _, rfl, ?_⟩
  intro mode notNav
  obtain ⟨primary, secondary, shown, bar⟩ :=
    progress_bar submission assignment viewerId notNav
  have success : primary.cssClass = "bg-success" ↔ submission.statusFor viewerId = .approved := by
    have ofApproved : "bg-success" = barClass .approved := rfl
    rw [bar.status, ofApproved, barClass_inj]
  refine ⟨primary, secondary, shown, ?_⟩
  constructor
  case green =>
    rw [bar.full]
    simp
  case enough =>
    rw [bar.full, submission.le_displayScore_iff limit, ne_eq, statusText_none_iff,
      UInt32.not_lt]
  case right => rw [bar.score]; rfl
  case noUnderflow =>
    rw [bar.score]
    change _ + (100 - submission.displayScore).toNat = 100
    rw [left]
    exact Nat.add_sub_cancel' capped
  case primaryInRange =>
    rw [bar.score]
    exact submission.displayScore_le
  case rightInRange =>
    change 100 - submission.displayScore ≤ 100
    rw [UInt32.le_iff_toNat_le, left]
    exact Nat.sub_le _ _
  case width =>
    rw [bar.score, bar.missing, toNat_missingPercent]
    omega
  case inRange =>
    rw [bar.score, bar.missing, toNat_missingPercent]
    omega
  case total => rw [bar.score]; rfl
  case passed => rw [success, resultTable_passed_iff]
  case approved =>
    rw [success, resultTable_status, Option.some_inj, InfoRow.mk.injEq, statusText_eq_approved_iff]
    simp

/-- Work with more points than there are, approved for the first of a pair only. -/
def overfullWork : Submission := { pairWork with score := 130 }

/-- Each of the pair sees the same on all screens, and the two do not see the same. -/
theorem lab_views_agree_of_overfull :
    pairLab.scoreLimit ≤ 100 ∧ overfullWork.statusFor 200 ≠ overfullWork.statusFor 300 ∧
      ∀ viewerId ∈ [200, 300], ∃ color rightPercent,
        progress (some overfullWork) (some pairLab) .nav viewerId = .line color rightPercent ∧
        ∀ mode, mode ≠ .nav → ∃ primary secondary,
          progress (some overfullWork) (some pairLab) mode viewerId = .bar primary secondary ∧
          ViewsAgree overfullWork pairLab color rightPercent primary secondary
            (resultTable overfullWork pairLab none viewerId) := by
  have limit : pairLab.scoreLimit ≤ 100 := by decide
  refine ⟨limit, by decide, ?_⟩
  intro viewerId _
  exact lab_views_agree overfullWork limit none viewerId

end Grading

end Coursework
