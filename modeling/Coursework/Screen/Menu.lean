import Coursework.Grading.Progress
import Coursework.Navigation.Accordion
import Coursework.Navigation.Menu
import Coursework.Screen.Basic
import Coursework.Screen.ProgressBar

/-!
# The printed course menu

The lists of the menu start open as its entries say; which links are marked as those of the
current page follows the location. The links under the entries are also marked for assistive
technology, on their own page and on all pages below it.
-/

namespace Coursework.Screen

open Html Grading Navigation

/-- The location is the address, or lies below it. -/
def liesAt (location uri : String) : Bool :=
  (uri.splitOn "/").isPrefixOf (location.splitOn "/")

/-- The class of the links to the current page. -/
def activeClass (location uri : String) : String := if isActive location uri then "active" else ""

/-- The progress of a user that stands under the link of a lab. -/
def labLine (course : Gradebook) (viewerId assignmentId : Id) : Progress :=
  let assignment := course.assignment? assignmentId
  progress (assignment.bind (course.submissionOf? viewerId)) assignment .nav viewerId

/-- A link under an entry. -/
def menuLink (store : Store) (location : String) (link : Link) : Node :=
  let mark := if liesAt location link.uri then [⟨.ariaCurrent, "page"⟩] else []
  .element .li [.classes ["nav-item", activeClass location link.uri]]
    (.element .a (.href link.uri :: mark) [.value link.name] ::
      (link.assignmentId.map fun id =>
        progressBar (labLine store.course store.auth.selfId id)).toList)

/-- An entry with the links under it. -/
def menuEntry (store : Store) (location : String) (entry : Entry) : Node :=
  .element .li [.classes [activeClass location entry.item.uri]]
    [.element .a [.href entry.item.uri]
        [.classed .span (iconClass entry.startsOpen) [], .value entry.item.name],
      .classed .ul entry.subListClass (entry.children.map (menuLink store location))]

/-- A menu, seen from a location. -/
def menu (entries : List Entry) (location : String) : Screen := .still fun store =>
  [.classed .ul "nav nav-list" (entries.map (menuEntry store location))]

end Coursework.Screen
