import Coursework.Route.Basic
import Coursework.Screen.Course
import Coursework.Screen.Grading
import Coursework.Screen.Groups
import Coursework.Screen.Home
import Coursework.Screen.Labs
import Coursework.Screen.MemberTable

/-!
# The site

Which screen a path shows.
-/

namespace Coursework

/-- The screen of a page. -/
def CoursePage.screen : CoursePage → Screen
  | labs => Screen.labs
  | members => Screen.members
  | results => Screen.grading .normal
  | review => Screen.grading .review
  | group => Screen.groups
  | lab segment => Screen.lab (Route.segmentId? segment)

namespace Route

/-- The screen of a path below the courses. -/
def courseScreen (path : String) : Screen :=
  match CourseRoute.ofPath? path with
  | some route => Screen.framed path route.page.screen
  | none => Screen.notFound

/-- The screen of a path. -/
def screen (path : String) : Screen :=
  match SitePage.ofPath? path with
  | some .home => Screen.home
  | some (.course route) => Screen.framed path route.page.screen
  | none => Screen.notFound

end Route

end Coursework
