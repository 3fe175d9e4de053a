import Coursework.Calendar.Display
import Coursework.Members.Table
import Coursework.Screen.Basic
import Coursework.Screen.SearchBox

/-!
# The printed member table

The members of the course as teachers first see them: sorted by role, none left out, and not in
edit mode. The button that approves all who wait is there only if somebody waits.
-/

namespace Coursework.Screen

open Html Members

/-- The classes of a button of a row. -/
def buttonClass : MemberAction → String
  | .accept => "btn btn-xs btn-primary"
  | .reject => "btn btn-xs btn-danger"
  | .promote | .demote => "btn btn-xs btn-info"

/-- The row of a member. -/
def memberRow (editMode : Bool) (enrollment : Enrollment) : Node :=
  let ofUser (field : User → String) := ((enrollment.user.map field).getD "")
  .bare .tr
    [.bare .td [.value (ofUser (·.name))],
      .bare .td [.value (ofUser (·.email))],
      .bare .td [.value (ofUser (·.studentId))],
      .bare .td [.value (Calendar.display enrollment.lastActivityDate)],
      .bare .td [.value (toString enrollment.totalApproved)],
      .bare .td
        [.element .span [.classes ["badge", enrollment.status.badgeClass]]
          [.value enrollment.status.label]],
      .bare .td
        ((rowActions enrollment editMode).map fun action =>
          .classed .button (buttonClass action) [.value action.label])]

/-- The buttons above the table. -/
def memberToolbar (course : Gradebook) : Node :=
  .classed .div "member-list__toolbar"
    ([searchBox "Search"] ++
      (if course.pending.isEmpty then []
        else [.classed .button "btn btn-success" [.text "Approve All"]]) ++
      [.classed .button "btn btn-default" [.value "Edit"]])

/-- The head of the table. -/
def memberHead : Node :=
  .bare .thead
    [.bare .tr
      [.bare .th [.text "Name"], .bare .th [.text "Email"],
        .classed .th "clickable" [.text "Student ID"], .bare .th [.text "Activity"],
        .bare .th [.text "Approved"], .classed .th "clickable" [.text "Role"], .bare .th []]]

/-- The members of the store's course. -/
def memberTable : Screen := .still fun store =>
  [.classed .div "member-list"
    [memberToolbar store.course,
      .classed .table "table table-striped"
        [memberHead,
          .bare .tbody
            ((visible store.course.enrollments .initial "").map (memberRow false))]]]

/-- The screen of the members. -/
def members : Screen := .still fun store =>
  [.classed .div "members-page" (.bare .h3 [.text "Members"] :: memberTable.html store)]

end Coursework.Screen
