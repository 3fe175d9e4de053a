import Coursework.Numeral.Natural
import Coursework.Url.Percent

/-!
# Routes

The pages of the site by their paths. Routes are declared in an order, and a path has the first
one that its segments match. Under a course there is at most one more segment, which names a page
or else is the identifier of a lab. Names are compared as they stand in the path; identifiers are
percent-decoded twice, as segments and as parameters. One slash at the end does not count, and no
segment is empty.
-/

namespace Coursework

namespace Route

/-- A segment of a declared route. -/
inductive Pattern where
  /-- The segment is this text. -/
  | static (text : String)
  /-- The segment can be any text, and the page has it under a name. -/
  | parameter (name : String)
  deriving DecidableEq

/-- The segments that parameters stand for, by name. -/
abbrev Parameters := List (String × String)

/-- The segment that a parameter stands for. -/
def Parameters.segment (parameters : Parameters) (name : String) : String :=
  (parameters.lookup name).getD ""

/-- A declared route: the segments of its paths, and its page. -/
structure Declared (α : Type) where
  patterns : List Pattern
  page : Parameters → α

/-- The parameters in segments that match the declared ones. -/
def parameters? : List Pattern → List String → Option Parameters
  | [], [] => some []
  | .static text :: patterns, segment :: rest =>
    if segment = text then parameters? patterns rest else none
  | .parameter name :: patterns, segment :: rest =>
    (parameters? patterns rest).map ((name, segment) :: ·)
  | _, _ => none

/-- The page of a declared route, for segments that match it. -/
def Declared.page? {α : Type} (route : Declared α) (segments : List String) : Option α :=
  (parameters? route.patterns segments).map route.page

/-- The page of the first of the declared routes that segments match. -/
def firstPage? {α : Type} (routes : List (Declared α)) (segments : List String) : Option α :=
  routes.findSome? (·.page? segments)

/-- The identifier that a parameter of a route stands for. -/
def parameterId? (parameter : String) : Option UInt64 :=
  (Url.percentDecode? parameter).bind Numeral.readUInt64?

/-- The identifier that a segment stands for. The parameter is the decoded segment. -/
def segmentId? (segment : String) : Option UInt64 :=
  (Url.percentDecode? segment).bind parameterId?

/-- The text without one slash at the end. -/
def dropLastSlash (cs : List Char) : List Char :=
  if cs.getLast? = some '/' then cs.dropLast else cs

/-- The segments of a path; none if it does not begin with a slash or a segment is empty. -/
def segments? (path : String) : Option (List String) :=
  match path.toList with
  | '/' :: rest =>
    let cs := dropLastSlash rest
    if cs.isEmpty then some []
    else
      let segments := (cs.splitOn '/').map String.ofList
      if segments.contains "" then none else some segments
  | _ => none

end Route

/-- A page of a course. -/
inductive CoursePage where
  | labs
  | members
  | results
  | review
  | group
  /-- The lab that a segment of the path stands for. -/
  | lab (segment : String)
  deriving DecidableEq

/-- The pages of a course, by what follows the course in a path. The last of them takes every
segment that is not the name of another page. -/
def CoursePage.declared : List (Route.Declared CoursePage) := [
  ⟨[], fun _ => .labs⟩,
  ⟨[.static "members"], fun _ => .members⟩,
  ⟨[.static "results"], fun _ => .results⟩,
  ⟨[.static "review"], fun _ => .review⟩,
  ⟨[.static "group"], fun _ => .group⟩,
  ⟨[.parameter "lab"], fun parameters => .lab (parameters.segment "lab")⟩]

/-- A page of a course, with the segment that stands for the course. -/
structure CourseRoute where
  course : String
  page : CoursePage
  deriving DecidableEq

namespace CourseRoute

/-- The pages of all courses. -/
def declared : List (Route.Declared CourseRoute) :=
  CoursePage.declared.map fun child =>
    ⟨[.static "course", .parameter "id"] ++ child.patterns,
      fun parameters => ⟨parameters.segment "id", child.page parameters⟩⟩

/-- The route of a path. -/
def ofPath? (path : String) : Option CourseRoute :=
  (Route.segments? path).bind (Route.firstPage? declared)

/-- The course of a route. -/
def courseId? (route : CourseRoute) : Option UInt64 := Route.segmentId? route.course

end CourseRoute

/-- A page of the site. -/
inductive SitePage where
  | home
  | course (route : CourseRoute)
  deriving DecidableEq

namespace SitePage

/-- The pages of the site. -/
def declared : List (Route.Declared SitePage) :=
  ⟨[], fun _ => home⟩ ::
    CourseRoute.declared.map fun route => ⟨route.patterns, course ∘ route.page⟩

/-- The page of a path. -/
def ofPath? (path : String) : Option SitePage :=
  (Route.segments? path).bind (Route.firstPage? declared)

end SitePage

end Coursework
