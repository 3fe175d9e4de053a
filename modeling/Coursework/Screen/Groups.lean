import Coursework.Screen.GroupEditor

/-!
# The group screen

Teachers see all groups and an editor. A student who is in a group sees the group; one who is in
none sees the editor.
-/

namespace Coursework.Screen

open Html

/-- The row of a group. -/
def groupRow (group : Group) : Node :=
  .bare .tr
    [.bare .td [.value group.name],
      .bare .td [.value (", ".intercalate (group.users.map (·.name)))],
      .bare .td [.value group.status.label],
      .bare .td [.classed .button "btn btn-xs btn-primary" [.text "Edit"]]]

/-- All groups. -/
def groupTable (groups : List Group) : Node :=
  .classed .table "table table-striped"
    [.bare .thead
        [.bare .tr
          [.bare .th [.text "Group"], .bare .th [.text "Members"], .bare .th [.text "Status"],
            .bare .th []]],
      .bare .tbody (groups.map groupRow)]

/-- A group that cannot be edited. -/
def groupCard (group : Group) : Node :=
  .classed .div "card well"
    [.classed .div "card-header"
        [.value group.name, .text " ", .bare .small [.value group.status.label]],
      .classed .ul "list-group list-group-flush"
        (group.users.map fun user => .classed .li "list-group-item" [.value user.name])]

/-- The group of a user. -/
def ownGroup? (course : Gradebook) (userId : Id) : Option Group :=
  match course.enrollmentOf? userId with
  | some e => course.groups.find? fun g => g.id == e.groupId && 0 < e.groupId
  | none => none

/-- The group that the signed-in user sees and cannot edit. -/
def fixedGroup? (store : Store) : Option Group :=
  if store.course.isTeacher store.auth.selfId then none
  else ownGroup? store.course store.auth.selfId

/-- The group screen. -/
def groups : Screen where
  html store :=
    if store.course.isTeacher store.auth.selfId then
      [.classed .div "group-page" (groupTable store.course.groups :: groupEditor.html store)]
    else
      match ownGroup? store.course store.auth.selfId with
      | some group => [groupCard group]
      | none => groupEditor.html store
  opened store := if (fixedGroup? store).isSome then store else groupEditor.opened store
  closed store := if (fixedGroup? store).isSome then store else groupEditor.closed store

end Coursework.Screen
