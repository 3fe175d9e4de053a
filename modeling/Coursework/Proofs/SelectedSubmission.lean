import Coursework.Action.Dispatch
import Coursework.Proofs.KeyedLists
import Coursework.Proofs.MatrixCells

/-!
# The selected submission

The selection holds a copy of a submission of the gradebook. A click in the matrix puts it there,
and a submission that the backend sends, at any time and about any lab, goes both to the copy and
to the gradebook. `run_followsClicks` says what any run of the two leaves: the copy is the
submission that was clicked last, as the gradebook has it now.

Histories grow at their end, as in the runs of updates, since it is the last click that counts.
-/

namespace Coursework

/-- The store once a submission that the backend sends is taken in. -/
def Store.receiving (store : Store) (submission : Submission) : Store :=
  { store with
    selection := store.selection.refreshSubmission submission
    course := store.course.replaceSubmission submission }

/-- A refresh touches the selected submission only, and only if it is the one that was sent. -/
theorem Selection.refreshSubmission_eq (selection : Selection) (submission : Submission) :
    selection.refreshSubmission submission =
      { selection with
        selectedSubmission := selection.selectedSubmission.map fun selected =>
          if selected.id = submission.id then submission else selected } := by
  obtain ⟨_, _, selected, _, _, _⟩ := selection
  cases selected with
  | none => rfl
  | some selected =>
    unfold refreshSubmission
    dsimp only
    split
    · rename_i same
      simp [same]
    · rename_i differs
      simp [differs]

namespace Grading

/-- The click of a cell, with the owner in whose row the cell is. -/
def Matrix.clickAt? (matrix : Matrix) (place column : Nat) : Option (Owner × CellClick) := do
  let owner ← matrix.owners[place]?
  let row ← matrix.rows[place]?
  let cell ← row[column]?
  let click ← cell.click
  return (owner, click)

/-- Something that happens while a grading screen is open. -/
inductive GridEvent where
  /-- A cell in the row of an owner is clicked. -/
  | clicked (owner : Owner) (click : CellClick)
  /-- The backend sends a submission. -/
  | arrived (submission : Submission)

namespace GridEvent

def click? : GridEvent → Option CellClick
  | clicked _ click => some click
  | arrived _ => none

/-- The member in whose row a click was. -/
def member? : GridEvent → Option Enrollment
  | clicked owner _ => owner.enrollment?
  | arrived _ => none

def arrival? : GridEvent → Option Submission
  | clicked _ _ => none
  | arrived submission => some submission

end GridEvent

/-- What the last event tells that tells anything of the kind. -/
def latest? {α : Type} (told? : GridEvent → Option α) (events : List GridEvent) : Option α :=
  (events.filterMap told?).getLast?

theorem latest?_concat {α : Type} (told? : GridEvent → Option α) (events : List GridEvent)
    (event : GridEvent) :
    latest? told? (events ++ [event]) = (told? event).or (latest? told? events) := by
  unfold latest?
  rw [List.filterMap_append, List.getLast?_append]
  cases told : told? event <;> simp [told]

/-- Runs of a grading screen. Clicks are in a matrix of the store as it is at that moment, with
any filter, view, query and sort. -/
inductive GridRun (start : Store) : List GridEvent → Store → Prop where
  | opened : GridRun start [] start
  | clicked {events store} (prior : GridRun start events store) (mode : MatrixMode)
      (filter : Int64) (groupView : Bool) (query : String) (sort : MatrixSort)
      (withId : Option Bool) {place column : Nat} {owner : Owner} {click : CellClick}
      (offered : (matrix (storeContext store) mode filter groupView query sort withId).clickAt?
        place column = some (owner, click)) :
      GridRun start (events ++ [.clicked owner click])
        (store.dispatchAll (clickActions click mode store.course.courseId))
  | arrived {events store} (prior : GridRun start events store) (submission : Submission) :
      GridRun start (events ++ [.arrived submission]) (store.receiving submission)

/-- What can be clicked in a row is a submission of the gradebook, with the member of the row. -/
theorem click_of_mem_row {context : MatrixContext} {visible : List Assignment} {withId : Bool}
    {mode : MatrixMode} {owner : Owner} {cell : Cell} {click : CellClick}
    (member : cell ∈ row context visible withId mode owner) (clicks : cell.click = some click) :
    click.submission ∈ context.course.submissions ∧ click.enrollment = owner.enrollment? := by
  have plain (text : String) : (Cell.plain text).click ≠ some click := nofun
  unfold row at member
  rcases List.mem_append.mp member with leading | ofLab
  · have text : cell = .plain owner.name ∨ cell = .plain owner.idLabel := by
      cases withId
      · exact .inl (by simpa using leading)
      · simpa using leading
    rcases text with rfl | rfl
    · exact absurd clicks (plain owner.name)
    · exact absurd clicks (plain owner.idLabel)
  · obtain ⟨assignment, _, rfl⟩ := List.mem_map.mp ofLab
    cases found : context.course.submissionFor? owner assignment with
    | none =>
      rw [Grading.cell, found] at clicks
      exact absurd clicks (plain "N/A")
    | some submission =>
      rcases cell_of_delivery mode found with ⟨_, _, blank⟩ | ⟨_, filled⟩
      · rw [blank] at clicks
        exact absurd clicks (plain "N/A")
      · rw [← Option.some.inj (filled.symm.trans clicks)]
        exact ⟨List.mem_of_find?_eq_some found, rfl⟩

/-- The same for a click that a matrix offers. -/
theorem click_of_clickAt? {context : MatrixContext} {mode : MatrixMode} {filter : Int64}
    {groupView : Bool} {query : String} {sort : MatrixSort} {withId : Option Bool}
    {place column : Nat} {owner : Owner} {click : CellClick}
    (offered : (matrix context mode filter groupView query sort withId).clickAt? place column =
      some (owner, click)) :
    click.submission ∈ context.course.submissions ∧ click.enrollment = owner.enrollment? := by
  obtain ⟨inRow, ownerHere, offered⟩ := Option.bind_eq_some_iff.mp offered
  obtain ⟨cells, rowHere, offered⟩ := Option.bind_eq_some_iff.mp offered
  obtain ⟨cell, cellHere, offered⟩ := Option.bind_eq_some_iff.mp offered
  obtain ⟨ofCell, clicks, same⟩ := Option.bind_eq_some_iff.mp offered
  obtain ⟨rfl, rfl⟩ := Prod.mk.inj (Option.some.inj same)
  have ofOwner : (matrix context mode filter groupView query sort withId).rows[place]? =
      some (row context _ _ mode inRow) :=
    List.getElem?_map.trans (congrArg (Option.map _) ownerHere)
  rw [← Option.some.inj (ofOwner.symm.trans rowHere)] at cellHere
  exact click_of_mem_row (List.mem_of_getElem? cellHere) clicks

/-- What a click does: its submission is selected, a member comes into focus, and no review is
picked. -/
theorem dispatchAll_clickActions (store : Store) (click : CellClick) (mode : MatrixMode)
    (courseId : Id) :
    store.dispatchAll (clickActions click mode courseId) =
      { store with
        selection :=
          { store.selection with
            selectedSubmission := some click.submission
            activeEnrollment := click.enrollment.or store.selection.activeEnrollment }
        review := { store.review with selectedReview := none } } := by
  obtain ⟨submission, enrollment⟩ := click
  cases enrollment <;> cases mode <;> rfl

/-- What a run of a grading screen leaves. -/
structure FollowsClicks (start : Store) (events : List GridEvent) (store : Store) : Prop where
  /-- The selected submission is the one that was clicked last, as the gradebook has it now. -/
  selected : ∀ click, latest? GridEvent.click? events = some click →
    ∃ submission, store.selection.selectedSubmission = some submission ∧
      submission.id = click.submission.id ∧
      Store.find? (·.id) click.submission.id store.course.submissions = some submission
  /-- After a click no review is picked. -/
  unpicked : ∀ click, latest? GridEvent.click? events = some click →
    store.review.selectedReview = none
  /-- The member in focus is the one in whose row the last click in a member's row was. -/
  focus : store.selection.activeEnrollment =
    (latest? GridEvent.member? events).or start.selection.activeEnrollment
  /-- No other field of the selection has changed. -/
  selectionRest : store.selection =
    { start.selection with
      selectedSubmission := store.selection.selectedSubmission
      activeEnrollment := store.selection.activeEnrollment }
  /-- No other field of the review book has changed. -/
  reviewRest : store.review = { start.review with selectedReview := store.review.selectedReview }
  /-- The gradebook has taken in what was sent, and nothing else. -/
  course : store.course =
    { start.course with
      submissions := Store.upsertAll (·.id) start.course.submissions
        (events.filterMap GridEvent.arrival?) }

namespace FollowsClicks

variable {start store : Store} {events : List GridEvent}

theorem opened (start : Store) : FollowsClicks start [] start where
  selected click none := by cases none
  unpicked click none := by cases none
  focus := rfl
  selectionRest := rfl
  reviewRest := rfl
  course := rfl

theorem nodup_submissions (follows : FollowsClicks start events store)
    (distinct : (start.course.submissions.map (·.id)).Nodup) :
    (store.course.submissions.map (·.id)).Nodup := by
  rw [follows.course]
  exact Store.nodup_upsertAll _ distinct

/-- A click on a submission of the gradebook is followed. -/
theorem clicked (follows : FollowsClicks start events store)
    (distinct : (start.course.submissions.map (·.id)).Nodup) {owner : Owner} {click : CellClick}
    (listed : click.submission ∈ store.course.submissions)
    (member : click.enrollment = owner.enrollment?) (mode : MatrixMode) :
    FollowsClicks start (events ++ [.clicked owner click])
      (store.dispatchAll (clickActions click mode store.course.courseId)) := by
  have current := Store.find?_of_mem (follows.nodup_submissions distinct) listed
  have nothingSent : (events ++ [GridEvent.clicked owner click]).filterMap GridEvent.arrival? =
      events.filterMap GridEvent.arrival? := by
    simp [GridEvent.arrival?]
  rw [dispatchAll_clickActions]
  refine ⟨?_, fun _ _ => rfl, ?_, ?_, ?_, ?_⟩
  · intro last isLast
    rw [latest?_concat] at isLast
    obtain rfl : click = last := Option.some.inj isLast
    exact ⟨click.submission, rfl, rfl, current⟩
  · dsimp only
    rw [latest?_concat, member, follows.focus]
    exact Option.or_assoc.symm
  · rw [follows.selectionRest]
  · rw [follows.reviewRest]
  · rw [nothingSent]
    exact follows.course

/-- A submission that is sent keeps the selected copy and the gradebook in step. -/
theorem arrived (follows : FollowsClicks start events store) (submission : Submission) :
    FollowsClicks start (events ++ [.arrived submission]) (store.receiving submission) := by
  have sent : (events ++ [GridEvent.arrived submission]).filterMap GridEvent.arrival? =
      events.filterMap GridEvent.arrival? ++ [submission] := by
    simp [GridEvent.arrival?]
  have after : (store.receiving submission).selection =
      { store.selection with
        selectedSubmission := store.selection.selectedSubmission.map fun selected =>
          if selected.id = submission.id then submission else selected } :=
    Selection.refreshSubmission_eq store.selection submission
  refine ⟨?_, ?_, ?_, ?_, follows.reviewRest, ?_⟩
  · intro click isLast
    rw [latest?_concat] at isLast
    obtain ⟨copy, selected, sameId, current⟩ := follows.selected click isLast
    have found := Store.find?_upsert (·.id) submission click.submission.id store.course.submissions
    -- The copy changes exactly when the entry under its identifier does.
    by_cases same : copy.id = submission.id
    · refine ⟨submission, by simp [after, selected, same], same.symm.trans sameId, ?_⟩
      exact found.trans (if_pos (same.symm.trans sameId))
    · refine ⟨copy, by simp [after, selected, same], sameId, ?_⟩
      have other : submission.id ≠ click.submission.id := fun equal =>
        same (sameId.trans equal.symm)
      exact (found.trans (if_neg other)).trans current
  · intro click isLast
    rw [latest?_concat] at isLast
    exact follows.unpicked click isLast
  · rw [latest?_concat, after]
    exact follows.focus
  · rw [after, follows.selectionRest]
  · have taken : (store.receiving submission).course =
        store.course.replaceSubmission submission := rfl
    rw [sent, Store.upsertAll_concat, taken, follows.course]
    rfl

end FollowsClicks

/-- Whatever is clicked and whatever the backend sends in between, the selected submission is the
one that was clicked last, as the gradebook has it now, with no review picked for it. -/
theorem run_followsClicks {start store : Store} {events : List GridEvent}
    (distinct : (start.course.submissions.map (·.id)).Nodup)
    (run : GridRun start events store) : FollowsClicks start events store := by
  induction run with
  | opened => exact .opened start
  | clicked _ mode _ _ _ _ _ offered ih =>
    obtain ⟨listed, member⟩ := click_of_clickAt? offered
    exact ih.clicked distinct listed member mode
  | arrived _ submission ih => exact ih.arrived submission

/-- The only member of a course, and what they delivered. -/
def soleMember : Enrollment := ⟨1, 1, 200, none, .student, 0, 0, "", 0⟩

def soleSubmission : Submission :=
  { Submission.blank with id := 50, assignmentId := 10, userId := 200, score := 70 }

/-- A course with one cell to click, while a review of another submission is picked. -/
def soleStore : Store :=
  { Store.initial with
    course :=
      { Gradebook.empty with
        assignments := [⟨10, 1, "Lab", "", 80, 1, false, false, 0⟩]
        enrollments := [soleMember]
        submissions := [soleSubmission] }
    selection := { Selection.initial with selectedSubmission := some Submission.blank }
    review := { ReviewBook.initial with selectedReview := some 3 } }

/-- The cell is clicked, and then the backend sends a submission that is not known yet and a new
score for the known one. -/
def soleEvents : List GridEvent :=
  [.clicked (.enrollment soleMember) ⟨soleSubmission, some soleMember⟩,
    .arrived { Submission.blank with id := 51 }, .arrived { soleSubmission with score := 95 }]

theorem run_followsClicks_sole :
    (soleStore.course.submissions.map (·.id)).Nodup ∧
      ∃ store, GridRun soleStore soleEvents store ∧ FollowsClicks soleStore soleEvents store ∧
        store.selection.selectedSubmission = some { soleSubmission with score := 95 } := by
  have distinct : (soleStore.course.submissions.map (·.id)).Nodup := by decide
  have owners :
      sortedOwners soleStore.course false "" .initial = [.enrollment soleMember] := by
    have found : (soleStore.course.owners false).filter (fun owner => Text.found "" owner.name) =
        [.enrollment soleMember] := by decide
    unfold sortedOwners
    rw [found]
    exact List.mergeSort_singleton _
  have offered :
      (matrix (storeContext soleStore) .normal (-1) false "" .initial none).clickAt? 0 1 =
        some (.enrollment soleMember, ⟨soleSubmission, some soleMember⟩) := by
    unfold matrix storeContext
    dsimp only
    rw [owners]
    decide
  have run : GridRun soleStore soleEvents _ :=
    ((GridRun.opened.clicked .normal (-1) false "" .initial none offered).arrived
      { Submission.blank with id := 51 }).arrived { soleSubmission with score := 95 }
  exact ⟨distinct, _, run, run_followsClicks distinct run, rfl⟩

end Grading

end Coursework
