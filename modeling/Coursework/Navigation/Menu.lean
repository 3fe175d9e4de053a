import Coursework.Course

/-!
# The course menu

The links of a course. Everybody has the labs and the group page; teachers have the grading and
member screens as well. A list starts open if it has the current page.
-/

namespace Coursework.Navigation

/-- A link. -/
structure Link where
  name : String
  uri : String
  /-- The link leads to the current page. -/
  active : Bool
  /-- The assignment of a lab link, whose progress is shown under it. -/
  assignmentId : Option Id
  deriving DecidableEq

/-- An entry of the menu with the links under it. -/
structure Entry where
  item : Link
  children : List Link
  deriving DecidableEq

namespace Entry

/-- The current page is this entry's or under it. -/
def startsOpen (entry : Entry) : Bool :=
  entry.item.active || entry.children.any (·.active)

/-- The class of the list under the entry, which marks an open one. -/
def subListClass (entry : Entry) : String :=
  if entry.startsOpen then "nav nav-sub collapse in" else "nav nav-sub collapse"

end Entry

/-- The path without one slash at its end. -/
def dropSlash (path : String) : String :=
  match path.toList.reverse with
  | '/' :: rest => String.ofList rest.reverse
  | _ => path

/-- The page at the path is that of the link. One slash at the end does not count. -/
def isActive (path uri : String) : Bool :=
  dropSlash path == uri

/-- A link as seen from the page at the path. -/
def link (name uri path : String) (assignmentId : Option Id) : Link :=
  ⟨name, uri, isActive path uri, assignmentId⟩

/-- The path of a course. -/
def courseUri (courseId : Id) : String := "/course/" ++ toString courseId

/-- The path of a page of a course. -/
def pageUri (courseId : Id) (page : String) : String := courseUri courseId ++ "/" ++ page

/-- The path of a lab of a course. -/
def labUri (courseId assignmentId : Id) : String := pageUri courseId (toString assignmentId)

/-- The menu of a course as seen from the page at the path. -/
def courseMenu (courseId : Id) (assignments : List Assignment) (isTeacher : Bool) (path : String) :
    List Entry :=
  let page (name segment : String) := link name (pageUri courseId segment) path none
  let labs := assignments.map fun a => link a.name (labUri courseId a.id) path (some a.id)
  [⟨link "Labs" (courseUri courseId) path none, labs⟩, ⟨page "Group" "group", []⟩] ++
    if isTeacher then
      [⟨page "Teacher" "results",
        [page "Results" "results", page "Review" "review", page "Members" "members"]⟩]
    else []

end Coursework.Navigation
