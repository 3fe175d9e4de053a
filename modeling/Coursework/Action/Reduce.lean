import Coursework.Action

/-!
# Local actions

How an action changes the selection and the review book. Remote actions change nothing here.
-/

namespace Coursework

namespace Group

/-- The group under another name. An approved group keeps its name. -/
def renamed (group : Group) (name : String) : Group :=
  if group.isApproved then group else { group with name }

/-- The group without its first member of that identifier, or with the user as its last member
if there is none. -/
def toggled (group : Group) (user : User) : Group :=
  { group with
    users :=
      if group.users.any (·.id == user.id) then group.users.eraseP (·.id == user.id)
      else group.users ++ [user] }

end Group

/-- The selection after an action. -/
def Selection.reduce (selection : Selection) : Action → Selection
  | .setActiveGroup group => { selection with activeGroup := group }
  | .updateGroupName name =>
    { selection with activeGroup := selection.activeGroup.map (·.renamed name) }
  | .toggleGroupUser user =>
    { selection with activeGroup := selection.activeGroup.map (·.toggled user) }
  | .setActiveEnrollment enrollment => { selection with activeEnrollment := enrollment }
  | .setSelectedSubmission submission => { selection with selectedSubmission := submission }
  | .setSelectedAssignmentId id => { selection with selectedAssignmentId := id }
  | .setGroupView on => { selection with groupView := on }
  | .setSubmissionSort key =>
    { selection with submissionSort := selection.submissionSort.toggled key }
  | _ => selection

/-- The review book after a review action. -/
def ReviewBook.reduce (book : ReviewBook) : ReviewAction → ReviewBook
  | .setAssignmentId id => { book with assignmentId := id }
  | .setSelectedReview position => { book with selectedReview := position }
  | .setMinimumScore score => { book with minimumScore := score }
  | .updateReady _ | .release _ => book

/-- The store after an action, so far as that is decided without the backend. -/
def Store.reduce (store : Store) (action : Action) : Store :=
  match action with
  | .review action => { store with review := store.review.reduce action }
  | other => { store with selection := store.selection.reduce other }

end Coursework
