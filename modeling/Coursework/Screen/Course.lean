import Coursework.Screen.Menu

/-!
# The frame of a course

The title of the course, its menu, the last notice, and one of its screens, which waits for the
course to be loaded. Selection and review book belong to the course and are emptied when it is
left. A framed screen is printed before any of it is opened, so opening it changes nothing.
-/

namespace Coursework.Screen

open Html Navigation

/-- The title of a course. -/
def courseTitle (course : Course) : String := course.name ++ " (" ++ course.code ++ ")"

/-- The menu of the store's course. -/
def storeMenu (store : Store) (location : String) : List Entry :=
  courseMenu store.course.courseId store.course.assignments
    (store.course.isTeacher store.auth.selfId) location

/-- The last notice. -/
def noticeBox (notice : String) : Node :=
  .classed .div "alert alert-warning clickable" [.value notice]

/-- A screen of a course in its frame. -/
def framed (location : String) (screen : Screen) : Screen where
  html store :=
    [.classed .div "course-page row"
      [.classed .div "col-md-2 course-page__nav"
          (.bare .h4 (store.course.course.map fun c => .value (courseTitle c)).toList ::
            (menu (storeMenu store location) location).html store),
        .classed .div "col-md-10 course-page__content"
          ((store.course.notice.map noticeBox).toList ++
            if store.course.loaded then screen.html store
            else [.bare .p [.text "Loading course..."]])]]
  opened store := store
  closed store := { store with selection := .initial, review := .initial }

end Coursework.Screen
