import Mathlib.Algebra.Order.BigOperators.Group.List
import Mathlib.Data.List.Induction
import Coursework.Proofs.ApprovedCells
import Coursework.Proofs.NearestFractions

/-!
# Marks for release

The review screen marks the submissions whose mean score reaches the threshold, and the mean is
made in floating point. `release_mark_compares_exactly` says that a submission is marked exactly if
its scores add up to the threshold for each of its reviews, in whole numbers. So a mark stays where
scores are raised or the threshold is lowered.

The sum of the scores is exact because it has at most 53 bits. The mean is not, but for so few
reviews it is rounded to the side of the threshold on which it is.
-/

namespace Coursework

open Numeral

/-- What the scores of reviews add up to. -/
def scoreSum (reviews : List Review) : Nat := (reviews.map (·.score.toNat)).sum

theorem scoreSum_concat (reviews : List Review) (review : Review) :
    scoreSum (reviews ++ [review]) = scoreSum reviews + review.score.toNat := by
  simp [scoreSum]

/-- A score has 32 bits. -/
theorem scoreSum_le (reviews : List Review) : scoreSum reviews ≤ reviews.length * 2 ^ 32 := by
  have bounded : ∀ score ∈ reviews.map (·.score.toNat), score ≤ 2 ^ 32 := by
    refine List.forall_mem_map.mpr fun review _ => ?_
    exact review.score.toNat_lt.le
  simpa [scoreSum] using List.sum_le_card_nsmul _ _ bounded

theorem scoreSum_mono {reviews others : List Review}
    (raised : List.Forall₂ (fun before after => before.score ≤ after.score) reviews others) :
    scoreSum reviews ≤ scoreSum others := by
  induction raised with
  | nil => exact le_rfl
  | @cons before after rest later less _ ih =>
    have lessHere : before.score.toNat ≤ after.score.toNat := UInt32.le_iff_toNat_le.mp less
    simp only [scoreSum, List.map_cons, List.sum_cons] at ih ⊢
    omega

namespace ReviewBook

/-- Adding up scores one by one does not round. -/
theorem value_total {reviews : List Review} (small : scoreSum reviews < 2 ^ 53) :
    (reviews.foldl (fun sum r => sum + .ofNat r.score.toNat) Binary64.zero).value =
      scoreSum reviews := by
  induction reviews using List.reverseRecOn with
  | nil => exact Binary64.value_zero
  | append_singleton earlier review ih =>
    rw [scoreSum_concat] at small ⊢
    rw [List.foldl_append, List.foldl_cons, List.foldl_nil]
    refine Binary64.value_add small ?_
    rw [ih (by omega), Binary64.value_ofNat (by omega)]
    push_cast
    rfl

/-- There is a threshold and there are reviews, and their scores add up to the threshold for each
of them. -/
structure MeetsThreshold (review : ReviewBook) (submissionId : Id) : Prop where
  set : 0 < review.minimumScore
  reviewed : review.reviewsFor submissionId ≠ []
  reached : review.minimumScore.toNat * (review.reviewsFor submissionId).length ≤
    scoreSum (review.reviewsFor submissionId)

/-- The threshold is still met after scores have been raised and the threshold lowered. -/
theorem MeetsThreshold.mono {review later : ReviewBook} {submissionId : Id}
    (meets : review.MeetsThreshold submissionId)
    (raised : List.Forall₂ (fun before after => before.score ≤ after.score)
      (review.reviewsFor submissionId) (later.reviewsFor submissionId))
    (set : 0 < later.minimumScore) (lowered : later.minimumScore ≤ review.minimumScore) :
    later.MeetsThreshold submissionId where
  set := set
  reviewed := by
    intro none
    rw [none] at raised
    exact meets.reviewed (List.forall₂_nil_right_iff.mp raised)
  reached :=
    calc later.minimumScore.toNat * (later.reviewsFor submissionId).length
        ≤ review.minimumScore.toNat * (review.reviewsFor submissionId).length := by
          rw [raised.length_eq]
          exact Nat.mul_le_mul_right _ (UInt32.le_iff_toNat_le.mp lowered)
      _ ≤ scoreSum (review.reviewsFor submissionId) := meets.reached
      _ ≤ scoreSum (later.reviewsFor submissionId) := scoreSum_mono raised

/-- For fewer than 2 ^ 20 reviews a threshold is compared with the rounded mean as with the exact
one. -/
theorem averageScore?_any_iff {review : ReviewBook} {submissionId : Id}
    (few : (review.reviewsFor submissionId).length < 2 ^ 20) (threshold : UInt32) :
    ((review.averageScore? submissionId).any fun mean =>
        Binary64.ble (.ofNat threshold.toNat) mean) = true ↔
      review.reviewsFor submissionId ≠ [] ∧
        threshold.toNat * (review.reviewsFor submissionId).length ≤
          scoreSum (review.reviewsFor submissionId) := by
  unfold averageScore?
  generalize review.reviewsFor submissionId = reviews at few ⊢
  cases reviews with
  | nil => simp
  | cons first rest =>
    have bits : threshold.toNat < 2 ^ 32 := threshold.toNat_lt
    have sumBound := scoreSum_le (first :: rest)
    have sum := value_total (show scoreSum (first :: rest) < 2 ^ 53 by omega)
    have count : (Binary64.ofNat (first :: rest).length).value = (first :: rest).length :=
      Binary64.value_ofNat (by omega)
    have product : threshold.toNat * (first :: rest).length < 2 ^ 53 :=
      calc threshold.toNat * (first :: rest).length
          ≤ 2 ^ 32 * 2 ^ 20 := Nat.mul_le_mul bits.le few.le
        _ < 2 ^ 53 := by decide
    have compared := Binary64.natCast_le_value_div_iff sum count (Nat.succ_pos _) product
    simpa [Binary64.ble_iff, Binary64.value_ofNat (show threshold.toNat < 2 ^ 53 by omega)]
      using compared

end ReviewBook

namespace Grading

theorem willBeReleased_iff {review : ReviewBook} {submissionId : Id}
    (few : (review.reviewsFor submissionId).length < 2 ^ 20) :
    willBeReleased review submissionId = true ↔ review.MeetsThreshold submissionId := by
  unfold willBeReleased
  rw [Bool.and_eq_true, decide_eq_true_iff, ReviewBook.averageScore?_any_iff few]
  constructor
  · rintro ⟨set, reviewed, reached⟩
    exact ⟨set, reviewed, reached⟩
  · rintro ⟨set, reviewed, reached⟩
    exact ⟨set, reviewed, reached⟩

variable {context : MatrixContext} {submission : Submission} {assignment : Assignment}
  {owner : Owner}

theorem mem_classes_reviewCell_iff (manual : assignment.isManuallyGraded = true) {name : String} :
    name ∈ (reviewCell context submission assignment owner).classes ↔
      name ∈ cellClass submission.status :: selectedClass context submission ∨
      willBeReleased context.review submission.id = true ∧ name = "release" ∨
      isPendingFor context.review submission.id context.selfId = true ∧
        name = "pending-review" := by
  rw [reviewCell, if_pos manual, List.mem_append, List.mem_append, List.mem_ite_nil_right,
    List.mem_ite_nil_right, List.mem_singleton, List.mem_singleton, or_assoc]

theorem classList_reviewCell (manual : assignment.isManuallyGraded = true) :
    (reviewCell context submission assignment owner).classList =
      (reviewCell context submission assignment owner).classes := by
  refine Cell.classList_eq ?_
  intro name member
  rcases (mem_classes_reviewCell_iff manual).mp member with status | ⟨_, rfl⟩ | ⟨_, rfl⟩
  · exact isWord_of_mem_statusClasses status
  · decide
  · decide

theorem release_not_mem_statusClasses :
    "release" ∉ cellClass submission.status :: selectedClass context submission := by
  rw [List.mem_cons, not_or, selectedClass, List.mem_ite_nil_right]
  constructor
  · cases submission.status <;> decide
  · rintro ⟨_, member⟩
    exact absurd (List.mem_singleton.mp member) (by decide)

/-- The cell is marked for release. -/
def Cell.isMarkedForRelease (cell : Cell) : Bool :=
  decide ("release" ∈ cell.classList)

theorem isMarkedForRelease_reviewCell_iff (manual : assignment.isManuallyGraded = true)
    (few : (context.review.reviewsFor submission.id).length < 2 ^ 20) :
    (reviewCell context submission assignment owner).isMarkedForRelease = true ↔
      context.review.MeetsThreshold submission.id := by
  rw [Cell.isMarkedForRelease, decide_eq_true_iff, classList_reviewCell manual,
    mem_classes_reviewCell_iff manual, ← willBeReleased_iff few]
  constructor
  · rintro (status | ⟨released, _⟩ | ⟨_, other⟩)
    · exact absurd status release_not_mem_statusClasses
    · exact released
    · exact absurd other (by decide)
  · intro released
    exact .inr (.inl ⟨released, rfl⟩)

/-- A submission is marked for release exactly if there is a threshold and there are reviews, and
their scores add up to the threshold for each of them. The mark is still there after scores have
been raised, and under a lower threshold. -/
theorem release_mark_compares_exactly (context : MatrixContext) (submission : Submission)
    (owner : Owner) (manual : assignment.isManuallyGraded = true)
    (few : (context.review.reviewsFor submission.id).length < 2 ^ 20) :
    ((reviewCell context submission assignment owner).isMarkedForRelease = true ↔
      context.review.MeetsThreshold submission.id) ∧
    ∀ later : MatrixContext,
      List.Forall₂ (fun before after => before.score ≤ after.score)
        (context.review.reviewsFor submission.id) (later.review.reviewsFor submission.id) →
      0 < later.review.minimumScore →
      later.review.minimumScore ≤ context.review.minimumScore →
      (reviewCell context submission assignment owner).isMarkedForRelease = true →
      (reviewCell later submission assignment owner).isMarkedForRelease = true := by
  refine ⟨isMarkedForRelease_reviewCell_iff manual few, ?_⟩
  intro later raised set lowered marked
  have fewLater : (later.review.reviewsFor submission.id).length < 2 ^ 20 :=
    raised.length_eq ▸ few
  rw [isMarkedForRelease_reviewCell_iff manual few] at marked
  rw [isMarkedForRelease_reviewCell_iff manual fewLater]
  exact marked.mono raised set lowered

/-- A review screen with a threshold, on which a submission has reviews of those scores. -/
def thresholdContext (threshold : UInt32) (scores : List UInt32) : MatrixContext where
  course := .empty
  review :=
    { ReviewBook.initial.load (scores.map fun score => ⟨1, 51, 100, score, true, "", "", []⟩) with
      minimumScore := threshold }
  selectedSubmissionId := some 51
  selfId := 100

/-- The pair lab with three reviewers. -/
def reviewedLab : Assignment := { pairLab with reviewers := 3 }

/-- A mean of exactly 70 meets the threshold of 70 and not that of 71. -/
theorem release_mark_compares_exactly_of_three :
    reviewedLab.isManuallyGraded = true ∧
      ((thresholdContext 70 [50, 70, 90]).review.reviewsFor pairWork.id).length = 3 ∧
      (reviewCell (thresholdContext 70 [50, 70, 90]) pairWork reviewedLab
        (.enrollment (pairMember 1 200))).isMarkedForRelease = true ∧
      (reviewCell (thresholdContext 71 [50, 70, 90]) pairWork reviewedLab
        (.enrollment (pairMember 1 200))).isMarkedForRelease = false ∧
      (reviewCell (thresholdContext 69 [50, 71, 90]) pairWork reviewedLab
        (.enrollment (pairMember 1 200))).isMarkedForRelease = true := by
  have manual : reviewedLab.isManuallyGraded = true := by decide
  have few (threshold : UInt32) :
      ((thresholdContext threshold [50, 70, 90]).review.reviewsFor pairWork.id).length = 3 := rfl
  obtain ⟨marked_iff, stays⟩ := release_mark_compares_exactly (thresholdContext 70 [50, 70, 90])
    pairWork (.enrollment (pairMember 1 200)) manual (by rw [few]; decide)
  have marked := marked_iff.mpr ⟨by decide, by decide, by decide⟩
  refine ⟨manual, few 70, marked, ?_, ?_⟩
  · have unmarked := release_mark_compares_exactly (thresholdContext 71 [50, 70, 90])
      pairWork (.enrollment (pairMember 1 200)) manual (by rw [few]; decide)
    rw [Bool.eq_false_iff]
    intro due
    exact absurd (unmarked.1.mp due).reached (by decide)
  · exact stays (thresholdContext 69 [50, 71, 90]) (by decide) (by decide) (by decide) marked

end Grading

end Coursework
