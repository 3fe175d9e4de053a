import Mathlib.Data.List.Forall2
import Coursework.Proofs.OwnWork

/-!
# Reviews before their release

A submission carries the reviews that it got, and the report of a lab may print the first of them.
`labReport_hides_reviews` says that a report tells nothing of any other review, and nothing of the
first one until the submission is released, to whomever it is shown. The review book is not read
at all.

Both copies of a submission count: students are shown the one in the gradebook, and teachers the
one that they have selected.
-/

namespace Coursework

/-- Entry by entry related lists have related search results, if the search looks at nothing in
which related entries differ. -/
theorem find?_rel {α : Type} {related : α → α → Prop} {test : α → Bool}
    (agree : ∀ entry other, related entry other → test other = test entry)
    {entries others : List α} (lists : List.Forall₂ related entries others) :
    Option.Rel related (entries.find? test) (others.find? test) := by
  induction lists with
  | nil => exact .none
  | @cons entry other _ _ same _ ih =>
    rw [List.find?_cons, List.find?_cons, agree entry other same]
    cases test entry with
    | true => exact .some same
    | false => exact ih

/-- Related options stay related when what follows is related for related contents. -/
theorem rel_bind {α β : Type} {related : α → α → Prop} {relatedAfter : β → β → Prop}
    {option other : Option α} {next nextOther : α → Option β}
    (same : Option.Rel related option other)
    (after : ∀ content otherContent, option = some content → related content otherContent →
      Option.Rel relatedAfter (next content) (nextOther otherContent)) :
    Option.Rel relatedAfter (option.bind next) (other.bind nextOther) := by
  cases same with
  | none => exact .none
  | some contents => exact after _ _ rfl contents

/-- A submission has got other reviews. If it is released and reviewers grade its lab, the first
one is as before. -/
inductive Gradebook.UnseenChange (book : Gradebook) (submission : Submission) :
    Submission → Prop where
  | rereviewed (reviews : List Review)
      (first : submission.released = true →
        ∀ assignment, book.assignment? submission.assignmentId = some assignment →
          0 < assignment.reviewers → reviews.head? = submission.reviews.head?) :
      UnseenChange book submission { submission with reviews }

/-- What is found for a user changes in unseen ways with the list. -/
theorem Gradebook.submissionOf?_rel {book : Gradebook} {submissions : List Submission}
    (listed : List.Forall₂ book.UnseenChange book.submissions submissions) (userId : Id)
    (assignment : Assignment) :
    Option.Rel book.UnseenChange (book.submissionOf? userId assignment)
      ({ book with submissions }.submissionOf? userId assignment) := by
  have sameEnrollment :
      { book with submissions }.enrollmentOf? userId = book.enrollmentOf? userId := rfl
  unfold submissionOf?
  rw [sameEnrollment]
  cases book.enrollmentOf? userId with
  | none => exact .none
  | some enrollment =>
    refine find?_rel ?_ listed
    rintro submission _ ⟨reviews, _⟩
    rfl

namespace Screen

/-- Two submissions are shown for the same lab and the same owner, and differ in unseen ways. -/
inductive ShownAlike (book : Gradebook) : ShownSubmission → ShownSubmission → Prop where
  | alike {submission other assignment enrollment}
      (change : book.UnseenChange submission other)
      (assigned : book.assignment? submission.assignmentId = some assignment) :
      ShownAlike book ⟨submission, assignment, enrollment⟩ ⟨other, assignment, enrollment⟩

/-- A review is shown when its lab has reviewers and the submission is released. -/
theorem releasedReview?_eq_some_iff {submission : Submission} {assignment : Assignment}
    {review : Review} :
    releasedReview? submission assignment = some review ↔
      0 < assignment.reviewers ∧ submission.released = true ∧
        submission.reviews.head? = some review := by
  unfold releasedReview?
  split <;> simp_all [Assignment.isManuallyGraded]

/-- An unseen change of a submission does not change the review that is shown. -/
theorem releasedReview?_of_unseenChange {book : Gradebook} {submission other : Submission}
    {assignment : Assignment} (change : book.UnseenChange submission other)
    (assigned : book.assignment? submission.assignmentId = some assignment) :
    releasedReview? other assignment = releasedReview? submission assignment := by
  obtain ⟨reviews, first⟩ := change
  ext review
  rw [releasedReview?_eq_some_iff, releasedReview?_eq_some_iff]
  constructor
  · rintro ⟨graded, released, shown⟩
    exact ⟨graded, released, first released assignment assigned graded ▸ shown⟩
  · rintro ⟨graded, released, shown⟩
    exact ⟨graded, released, first released assignment assigned graded ▸ shown⟩

/-- Unseen changes do not change what is printed: of reviews, the report reads the released one
only. -/
theorem submissionReport_of_alike {book : Gradebook} {shown other : ShownSubmission}
    (alike : ShownAlike book shown other) (viewerId : Id) :
    submissionReport viewerId other = submissionReport viewerId shown := by
  obtain ⟨change, assigned⟩ := alike
  have sameReview := releasedReview?_of_unseenChange change assigned
  unfold submissionReport
  dsimp only
  rw [sameReview]
  cases change
  rfl

/-- A student is shown alike submissions when the listed ones differ in unseen ways. -/
theorem ownSubmission?_alike {book : Gradebook} {submissions : List Submission}
    (listed : List.Forall₂ book.UnseenChange book.submissions submissions) (userId : Id)
    (lab : Option Id) :
    Option.Rel (ShownAlike book) (ownSubmission? book userId lab)
      (ownSubmission? { book with submissions } userId lab) := by
  cases lab with
  | none => exact .none
  | some labId =>
    have sameAssignment :
        { book with submissions }.assignment? labId = book.assignment? labId := rfl
    simp only [ownSubmission?, Option.bind_eq_bind, Option.bind_some, sameAssignment]
    cases assigned : book.assignment? labId with
    | none => exact .none
    | some assignment =>
      rw [Option.bind_some, Option.bind_some]
      refine rel_bind (Gradebook.submissionOf?_rel listed userId assignment) ?_
      intro submission other delivered change
      refine .some (.alike change ?_)
      obtain ⟨enrollment, _, found⟩ := Option.bind_eq_some_iff.mp delivered
      have ofLab := (Gradebook.submissionFor?_eq_some_iff.mp found).1.1
      rw [ofLab, Store.key_of_find? assigned, assigned]

/-- A teacher is shown alike submissions when the selected one differs in unseen ways. -/
theorem selectedSubmission?_alike {book : Gradebook} (submissions : List Submission)
    {selection : Selection} {selected : Option Submission}
    (picked : Option.Rel book.UnseenChange selection.selectedSubmission selected) :
    Option.Rel (ShownAlike book) (selectedSubmission? book selection)
      (selectedSubmission? { book with submissions }
        { selection with selectedSubmission := selected }) := by
  refine rel_bind picked ?_
  rintro submission _ _ ⟨reviews, first⟩
  have sameAssignment : { book with submissions }.assignment? submission.assignmentId =
      book.assignment? submission.assignmentId := rfl
  simp only [Option.bind_eq_bind, sameAssignment]
  cases assigned : book.assignment? submission.assignmentId with
  | none => exact .none
  | some assignment => exact .some (.alike (.rereviewed reviews first) assigned)

/-- Whoever looks is shown alike submissions. -/
theorem shownSubmission?_alike {store : Store} {submissions : List Submission}
    {selected : Option Submission} (review : ReviewBook)
    (listed : List.Forall₂ store.course.UnseenChange store.course.submissions submissions)
    (picked : Option.Rel store.course.UnseenChange store.selection.selectedSubmission selected)
    (lab : Option Id) :
    Option.Rel (ShownAlike store.course) (shownSubmission? store lab)
      (shownSubmission? (store.replacing submissions
        { store.selection with selectedSubmission := selected } review) lab) := by
  have sameRole : (store.replacing submissions { store.selection with
      selectedSubmission := selected } review).course.isTeacher store.auth.selfId =
        store.course.isTeacher store.auth.selfId := rfl
  unfold shownSubmission?
  rw [Store.replacing_auth, sameRole]
  split
  · exact selectedSubmission?_alike submissions picked
  · exact ownSubmission?_alike listed store.auth.selfId lab

/-- A report tells nothing of reviews but the first one of a released submission, in a lab that
reviewers grade. -/
theorem labReport_hides_reviews (store : Store) {submissions : List Submission}
    {selected : Option Submission} (review : ReviewBook)
    (listed : List.Forall₂ store.course.UnseenChange store.course.submissions submissions)
    (picked : Option.Rel store.course.UnseenChange store.selection.selectedSubmission selected)
    (lab : Option Id) :
    (labReport lab).html (store.replacing submissions
        { store.selection with selectedSubmission := selected } review) =
      (labReport lab).html store := by
  have alike := shownSubmission?_alike review listed picked lab
  unfold labReport still
  dsimp only
  generalize shownSubmission? store lab = shown at alike ⊢
  generalize shownSubmission? (store.replacing submissions _ review) lab = other at alike ⊢
  cases alike with
  | none => rfl
  | some same => exact congrArg (fun report => [report]) (submissionReport_of_alike same _)

/-- A review with a score. -/
def scoredReview (score : UInt32) : Review := ⟨1, 50, 100, score, true, "", "", []⟩

/-- An essay, released or not, with reviews of those scores. -/
def essay (userId : Id) (released : Bool) (scores : List UInt32) : Submission :=
  { Submission.blank with assignmentId := 10, userId, released, reviews := scores.map scoredReview }

/-- A lab that reviewers grade, with a released submission and one that is not released, which a
teacher would have selected. -/
def essayStore : Store :=
  { Store.initial with
    auth := ⟨some { User.blank with id := 200 }, false⟩
    course :=
      { Gradebook.empty with
        assignments := [⟨10, 1, "Essay", "", 80, 1, false, false, 2⟩]
        enrollments := [⟨1, 1, 200, none, .student, 0, 0, "", 0⟩]
        submissions := [essay 200 true [70, 80], essay 300 false [20]] }
    selection := { Selection.initial with selectedSubmission := some (essay 300 false [20]) } }

theorem labReport_hides_reviews_of_essays :
    List.Forall₂ essayStore.course.UnseenChange essayStore.course.submissions
        [essay 200 true [70, 10, 5], essay 300 false [90, 95]] ∧
      Option.Rel essayStore.course.UnseenChange essayStore.selection.selectedSubmission
        (some (essay 300 false [])) ∧
      (labReport (some 10)).html (essayStore.replacing
          [essay 200 true [70, 10, 5], essay 300 false [90, 95]]
          { essayStore.selection with selectedSubmission := some (essay 300 false []) }
          (ReviewBook.initial.load [scoredReview 60])) =
        (labReport (some 10)).html essayStore := by
  have released (scores : List UInt32) :
      essayStore.course.UnseenChange (essay 200 true [70, 80]) (essay 200 true (70 :: scores)) :=
    .rereviewed _ fun _ _ _ _ => rfl
  have unreleased (scores : List UInt32) :
      essayStore.course.UnseenChange (essay 300 false [20]) (essay 300 false scores) :=
    .rereviewed _ fun released => absurd released Bool.false_ne_true
  have listed := List.Forall₂.cons (released [10, 5]) (.cons (unreleased [90, 95]) .nil)
  have picked := Option.Rel.some (unreleased [])
  exact ⟨listed, picked, labReport_hides_reviews essayStore _ listed picked (some 10)⟩

end Screen

end Coursework
