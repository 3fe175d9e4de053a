import Mathlib.Data.List.Nodup
import Coursework.Action.Dispatch
import Coursework.Grading.ReviewPanel

/-!
# The review panel and its calls

The panel finds the review that it shows, and the plan of a call finds the review that it
changes. `panel_agrees_with_plan` says that these are one review, whichever way it was chosen,
and that the answer of the call brings the panel to the changed review.

A button that is disabled asks for nothing, so every statement starts from the intent of a click.
-/

namespace Coursework

/-- Each review lies under its own submission, and under one submission no identifier is used
twice. -/
structure ReviewBook.Filed (book : ReviewBook) : Prop where
  own : ∀ entry ∈ book.reviews.entries, ∀ review ∈ entry.2, review.submissionId = entry.1
  distinct : ∀ entry ∈ book.reviews.entries, (entry.2.map (·.id)).Nodup

namespace ReviewBook

instance (book : ReviewBook) : Decidable book.Filed :=
  decidable_of_iff
    ((∀ entry ∈ book.reviews.entries, ∀ review ∈ entry.2, review.submissionId = entry.1) ∧
      ∀ entry ∈ book.reviews.entries, (entry.2.map (·.id)).Nodup)
    ⟨fun both => ⟨both.1, both.2⟩, fun filed => ⟨filed.own, filed.distinct⟩⟩

/-- The reviews of a submission are none, or all that lie under it. -/
theorem reviewsFor_eq_nil_or_mem (book : ReviewBook) (submissionId : Id) :
    book.reviewsFor submissionId = [] ∨
      (submissionId, book.reviewsFor submissionId) ∈ book.reviews.entries := by
  unfold reviewsFor Shelf.get
  cases found : book.reviews.entries.lookup submissionId with
  | none => exact .inl rfl
  | some reviews =>
    obtain ⟨before, after, split, _⟩ := List.lookup_eq_some_iff.mp found
    refine .inr ?_
    rw [split]
    simp

theorem Filed.submissionId_eq {book : ReviewBook} (filed : book.Filed) {submissionId : Id}
    {review : Review} (member : review ∈ book.reviewsFor submissionId) :
    review.submissionId = submissionId := by
  rcases book.reviewsFor_eq_nil_or_mem submissionId with none | lies
  · rw [none] at member
    exact absurd member List.not_mem_nil
  · exact filed.own _ lies review member

theorem Filed.nodup_reviewsFor {book : ReviewBook} (filed : book.Filed) (submissionId : Id) :
    ((book.reviewsFor submissionId).map (·.id)).Nodup := by
  rcases book.reviewsFor_eq_nil_or_mem submissionId with none | lies
  · rw [none]
    exact List.nodup_nil
  · exact filed.distinct _ lies

/-- The current review stands at one place of its submission's reviews, and another review of the
same reviewer in that place is the current one. -/
theorem currentReview?_place {book : ReviewBook} {submissionId selfId : Id} {review : Review}
    (current : book.currentReview? submissionId selfId = some review) :
    ∃ before after, book.reviewsFor submissionId = before ++ review :: after ∧
      ∀ (other : ReviewBook) (changed : Review),
        other.selectedReview = book.selectedReview →
        other.reviewsFor submissionId = before ++ changed :: after →
        changed.reviewerId = review.reviewerId →
        other.currentReview? submissionId selfId = some changed := by
  unfold currentReview? at current
  cases picked : book.selectedReview with
  | some position =>
    -- A picked place does not depend on who reviewed.
    rw [picked] at current
    obtain ⟨within, here⟩ := List.getElem?_eq_some_iff.mp current
    refine ⟨(book.reviewsFor submissionId).take position,
      (book.reviewsFor submissionId).drop (position + 1), ?_, ?_⟩
    · rw [← here, ← List.drop_eq_getElem_cons within, List.take_append_drop]
    · intro other changed samePick reviews _
      have before : ((book.reviewsFor submissionId).take position).length = position :=
        List.length_take_of_le (Nat.le_of_lt within)
      unfold currentReview?
      rw [samePick]
      simp only [reviews]
      rw [List.getElem?_append_right (Nat.le_of_eq before), before]
      simp
  | none =>
    -- The first review of the reader stays the first, since those before it are kept.
    rw [picked] at current
    obtain ⟨mine, before, after, split, others⟩ := List.find?_eq_some_iff_append.mp current
    refine ⟨before, after, split, ?_⟩
    intro other changed samePick reviews sameReviewer
    unfold currentReview?
    rw [samePick]
    refine List.find?_eq_some_iff_append.mpr ⟨?_, before, after, reviews, others⟩
    simpa [sameReviewer] using mine

/-- Taking in a changed copy of the current review makes it the current one. -/
theorem currentReview?_upsert {book : ReviewBook} (filed : book.Filed)
    {submissionId selfId : Id} {review : Review} (changed : Review)
    (current : book.currentReview? submissionId selfId = some review)
    (sameId : changed.id = review.id) (sameSubmission : changed.submissionId = review.submissionId)
    (sameReviewer : changed.reviewerId = review.reviewerId) :
    (book.upsert changed).currentReview? submissionId selfId = some changed := by
  obtain ⟨before, after, split, replaced⟩ := currentReview?_place current
  have member : review ∈ book.reviewsFor submissionId := by
    rw [split]
    simp
  have own : changed.submissionId = submissionId :=
    sameSubmission.trans (filed.submissionId_eq member)
  have absent : changed.id ∉ before.map (·.id) := by
    have distinct := filed.nodup_reviewsFor submissionId
    rw [split, List.map_append, List.map_cons] at distinct
    rw [sameId]
    intro earlier
    exact (List.disjoint_of_nodup_append distinct) earlier List.mem_cons_self
  refine replaced (book.upsert changed) changed rfl ?_ sameReviewer
  rw [reviewsFor_upsert, if_pos own.symm, own, split]
  exact Store.upsert_middle sameId.symm absent

end ReviewBook

/-- The review with the opposite mark. -/
def Review.turned (review : Review) : Review := { review with ready := !review.ready }

/-- The store once a review that the backend sends is taken in. -/
def Store.takingIn (store : Store) (review : Review) : Store :=
  { store with review := store.review.upsert review }

/-- When as many criteria are graded as there are, each of them is. -/
theorem Review.graded_of_gradedCount_eq {review : Review}
    (complete : review.gradedCount = review.criteriaTotal) :
    ∀ benchmark ∈ review.benchmarks, ∀ criterion ∈ benchmark.criteria, criterion.grade ≠ .none := by
  intro benchmark ofReview criterion ofBenchmark
  have listed : criterion ∈ review.criteria :=
    List.mem_flatMap.mpr ⟨benchmark, ofReview, ofBenchmark⟩
  exact of_decide_eq_true (List.countP_eq_length.mp complete criterion listed)

namespace Grading

/-- A panel is shown for the current review of the selected submission only. -/
theorem current_of_storePanel? {store : Store} {panel : ReviewPanel}
    (shown : storePanel? store = some panel) :
    ∃ submission review, store.selection.selectedSubmission = some submission ∧
      store.review.currentReview? submission.id store.auth.selfId = some review := by
  unfold storePanel? reviewPanel? at shown
  obtain ⟨review, found, _⟩ := Option.map_eq_some_iff.mp shown
  obtain ⟨submission, selected, current⟩ := Option.bind_eq_some_iff.mp found
  exact ⟨submission, review, selected, current⟩

/-- The panel in terms of the submission and the review that it is about. -/
theorem storePanel?_of_current (store : Store) {submission : Submission} {review : Review}
    (selected : store.selection.selectedSubmission = some submission)
    (current : store.review.currentReview? submission.id store.auth.selfId = some review) :
    storePanel? store =
      reviewPanel? (some review) (some submission)
        (((store.course.assignment? submission.assignmentId).map (·.name)).getD "")
        (((store.course.user? review.reviewerId).map (·.name)).getD "")
        (store.course.isCreator store.auth.selfId) := by
  simp [storePanel?, selected, current]

section Shown

variable {store : Store} {submission : Submission} {review : Review} {panel : ReviewPanel}
  {action : Action}
  (selected : store.selection.selectedSubmission = some submission)
  (current : store.review.currentReview? submission.id store.auth.selfId = some review)
  (shown : storePanel? store = some panel)
include selected current shown

theorem reviewPanel?_of_shown :
    reviewPanel? (some review) (some submission)
      (((store.course.assignment? submission.assignmentId).map (·.name)).getD "")
      (((store.course.user? review.reviewerId).map (·.name)).getD "")
      (store.course.isCreator store.auth.selfId) = some panel :=
  (storePanel?_of_current store selected current).symm.trans shown

/-- A shown panel holds the names that it was built with. -/
theorem reviewPanel?_of_own_names :
    reviewPanel? (some review) (some submission) panel.assignmentName panel.reviewer
      (store.course.isCreator store.auth.selfId) = some panel := by
  have panelEq := Option.some.inj (reviewPanel?_of_shown selected current shown)
  rw [← panelEq]
  rfl

/-- A click on the ready button plans the review with the opposite mark, and asks for readiness
only when all criteria are graded. -/
theorem plan?_of_ready (click : panel.ready.intent? .updateReady = some action) :
    store.plan? action = some (.updateReview store.course.courseId review.turned) ∧
      (review.turned.ready = true → review.gradedCount = review.criteriaTotal) := by
  have panelEq := Option.some.inj (reviewPanel?_of_shown selected current shown)
  obtain ⟨enabled, rfl⟩ := Toggle.intent?_eq_some_iff.mp click
  have next : panel.ready.next = !review.ready := by rw [← panelEq]
  rw [← panelEq] at enabled
  constructor
  · simp [Store.plan?, selected, current, next, Review.turned]
  · intro ready
    rcases canMarkReady_iff.mp enabled with complete | already
    · exact complete
    · simp [Review.turned, already] at ready

/-- A click on the release button is the course creator's, and plans the opposite for the
selected submission. -/
theorem plan?_of_release (click : panel.release.intent? .release = some action) :
    store.course.isCreator store.auth.selfId = true ∧
      store.plan? action =
        some (.release store.course.courseId submission.id !submission.released) := by
  have panelEq := Option.some.inj (reviewPanel?_of_shown selected current shown)
  obtain ⟨enabled, rfl⟩ := Toggle.intent?_eq_some_iff.mp click
  have next : panel.release.next = !submission.released := by
    rw [← panelEq]
    simp
  rw [← panelEq] at enabled
  refine ⟨enabled, ?_⟩
  simp [Store.plan?, selected, next]

/-- Once the turned review is taken in, the panel differs by what the mark decides. -/
theorem storePanel?_takingIn_turned
    (turned : (store.takingIn review.turned).review.currentReview? submission.id
      store.auth.selfId = some review.turned) :
    storePanel? (store.takingIn review.turned) = some
      { panel with
        reviewStatus := if review.turned.ready then "Ready" else "In progress"
        ready :=
          { label := if review.turned.ready then "Mark In progress" else "Mark Ready"
            enabled := canMarkReady panel.graded panel.total review.turned.ready
            next := !review.turned.ready } } := by
  have panelEq := Option.some.inj (reviewPanel?_of_shown selected current shown)
  rw [storePanel?_of_current (store.takingIn review.turned) selected turned, ← panelEq]
  rfl

end Shown

/-- What the panel of a store and the plan of its calls agree on, for a submission and a review. -/
structure PanelAgreement (store : Store) (panel : ReviewPanel) (submission : Submission)
    (review : Review) : Prop where
  selected : store.selection.selectedSubmission = some submission
  current : store.review.currentReview? submission.id store.auth.selfId = some review
  /-- The panel is built from this review. -/
  shows : reviewPanel? (some review) (some submission) panel.assignmentName panel.reviewer
    (store.course.isCreator store.auth.selfId) = some panel
  /-- The ready button asks to turn this review and nothing else of it. -/
  readyPlan : ∀ action, panel.ready.intent? .updateReady = some action →
    store.plan? action = some (.updateReview store.course.courseId review.turned)
  /-- A review that is asked to be ready is graded throughout. -/
  readyGraded : ∀ action, panel.ready.intent? .updateReady = some action →
    review.turned.ready = true →
    ∀ benchmark ∈ review.turned.benchmarks, ∀ criterion ∈ benchmark.criteria,
      criterion.grade ≠ .none
  /-- The turned review is the current one after it has been taken in. -/
  turnedCurrent : (store.takingIn review.turned).review.currentReview? submission.id
    store.auth.selfId = some review.turned
  /-- The panel then shows the turned review, and is otherwise the same. -/
  turnedPanel : storePanel? (store.takingIn review.turned) = some
    { panel with
      reviewStatus := if review.turned.ready then "Ready" else "In progress"
      ready :=
        { label := if review.turned.ready then "Mark In progress" else "Mark Ready"
          enabled := canMarkReady panel.graded panel.total review.turned.ready
          next := !review.turned.ready } }
  /-- Only the creator of the course is offered the release. -/
  releaseCreator : ∀ action, panel.release.intent? .release = some action →
    ∃ course, store.course.course = some course ∧ course.creatorId = store.auth.selfId
  /-- The release button asks for the opposite for the selected submission. -/
  releasePlan : ∀ action, panel.release.intent? .release = some action →
    store.plan? action =
      some (.release store.course.courseId submission.id !submission.released)

/-- Wherever a panel is shown, it and the plan of its calls are about one review, which the panel
still shows when the answer to the ready button has been taken in. -/
theorem panel_agrees_with_plan (store : Store) (filed : store.review.Filed) {panel : ReviewPanel}
    (shown : storePanel? store = some panel) :
    ∃ submission review, PanelAgreement store panel submission review := by
  obtain ⟨submission, review, selected, current⟩ := current_of_storePanel? shown
  have turned := ReviewBook.currentReview?_upsert filed review.turned current rfl rfl rfl
  refine ⟨submission, review, {
    selected := selected
    current := current
    shows := reviewPanel?_of_own_names selected current shown
    readyPlan := fun action click => (plan?_of_ready selected current shown click).1
    readyGraded := ?_
    turnedCurrent := turned
    turnedPanel := storePanel?_takingIn_turned selected current shown turned
    releaseCreator := ?_
    releasePlan := fun action click => (plan?_of_release selected current shown click).2 }⟩
  · intro action click ready
    exact Review.graded_of_gradedCount_eq ((plan?_of_ready selected current shown click).2 ready)
  · intro action click
    exact Gradebook.isCreator_iff.mp (plan?_of_release selected current shown click).1

/-- A review that is graded throughout but not ready yet. -/
def gradedReview : Review :=
  ⟨3, 50, 8, 90, false, "", "", [⟨1, "Style", [⟨1, "Names", .failed⟩]⟩]⟩

/-- The creator of a course has picked the second review of the selected submission, which is
another reviewer's. -/
def pickedStore : Store :=
  { Store.initial with
    auth := ⟨some { User.blank with id := 7 }, false⟩
    course :=
      { Gradebook.empty with courseId := 1, course := some ⟨1, "DAT320", "", 2024, 7, 0⟩ }
    selection :=
      { Selection.initial with selectedSubmission := some { Submission.blank with id := 50 } }
    review :=
      { ReviewBook.initial.load
          [⟨1, 50, 7, 40, false, "", "", []⟩, ⟨2, 51, 8, 70, true, "", "", []⟩, gradedReview] with
        selectedReview := some 1 } }

/-- Both buttons ask for something, and the plans are about the picked review and its
submission. -/
theorem panel_agrees_with_plan_when_picked :
    pickedStore.review.Filed ∧ ∃ panel, storePanel? pickedStore = some panel ∧
      panel.ready.intent? .updateReady = some (.review (.updateReady true)) ∧
      pickedStore.plan? (.review (.updateReady true)) =
        some (.updateReview 1 { gradedReview with ready := true }) ∧
      panel.release.intent? .release = some (.review (.release true)) ∧
      pickedStore.plan? (.review (.release true)) = some (.release 1 50 true) ∧
      ∃ submission review, PanelAgreement pickedStore panel submission review := by
  have filed : pickedStore.review.Filed := by decide
  have agreement := panel_agrees_with_plan pickedStore filed rfl
  exact ⟨filed, _, rfl, rfl, rfl, rfl, rfl, agreement⟩

end Grading

end Coursework
