import Coursework.Action.Dispatch
import Coursework.Members.GroupDraft
import Coursework.Screen.Basic
import Coursework.Screen.SearchBox

/-!
# The group editor

Those who may join the group in focus, beside those who are in it. A student who opens the
editor begins a new group, and the group is dropped when the editor closes.
-/

namespace Coursework.Screen

open Html Members

/-- The line of a user who may join. -/
def candidateLine (user : User) : Node :=
  .classed .li "list-group-item"
    [.value user.name,
      .classed .i "badge-pill badge-success ml-2 clickable float-right" [.text "+"]]

/-- The line of a user who is in the group. -/
def memberLine (user : User) : Node :=
  .classed .li "list-group-item"
    [.void .img [⟨.src, user.avatarUrl⟩, ⟨.alt, ""⟩, .classes ["group-image"]],
      .value user.name,
      .classed .i "badge-pill badge-danger rounded-circle clickable float-right" [.text "-"]]

/-- The buttons by which the draft is sent. -/
def draftButtons (draft : Group) : Node :=
  if draft.id = 0 then .classed .button "btn btn-primary" [.text "Create Group"]
  else
    .classed .div "row justify-content-md-center"
      [.classed .button "btn btn-primary ml-2" [.text "Update"],
        .classed .button "btn btn-danger ml-2" [.text "Cancel"]]

/-- The editor of a draft. -/
def draftEditor (enrollments : List Enrollment) (draft : Group) (selfId : Id) : Node :=
  let joining := (candidates enrollments draft selfId "").filterMap (·.user)
  let nameInput :=
    if draft.nameEditable then
      [.void .input [⟨.placeholder, "Group Name:"⟩, .classes ["form-control"]]]
    else []
  .classed .div "container group-editor"
    [.classed .div "row"
      [.classed .div "card well col-md-offset-2"
          [.classed .div "card-header" [.text "Students"], searchBox "Search",
            .classed .ul "list-group list-group-flush" (joining.map candidateLine)],
        .classed .div "col"
          [.classed .div "card well col-md-offset-2"
            ([.classed .div "card-header" [.value draft.name]] ++ nameInput ++
              [.classed .ul "list-group list-group-flush" (draft.users.map memberLine),
                draftButtons draft])]]]

/-- The draft with which the signed-in user begins, once user and course are known. -/
def openingDraft? (store : Store) : Option Group := do
  let user ← store.auth.user
  if store.course.loaded then
    initialDraft? (store.course.enrollmentOf? user.id) user store.course.courseId
  else none

/-- The editor of the group in focus. -/
def groupEditor : Screen where
  html store :=
    (store.selection.activeGroup.map fun draft =>
      draftEditor store.course.enrollments draft store.auth.selfId).toList
  opened store :=
    match openingDraft? store with
    | some draft => store.dispatch (.setActiveGroup (some draft))
    | none => store
  closed store := store.dispatch cancelIntent

end Coursework.Screen
