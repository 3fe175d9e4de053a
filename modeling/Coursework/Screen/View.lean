import Coursework.Html.Template
import Coursework.Route.Site

/-!
# Views

A view is a component or a page, with what it is given beside the store. The tags that a view
writes are listed here, each with the names of its attributes as they are printed; a view that
shows another one writes its tags as well.
-/

namespace Coursework

open Html Grading Navigation

/-- A component or a page. Components that are shown within others are views as well. -/
inductive View where
  | search (hint : String)
  | segment (part : Segment)
  | progress (submission : Option Submission) (assignment : Option Assignment)
    (mode : ProgressMode)
  | result (submission : Submission) (assignment : Assignment) (enrollment : Option Enrollment)
  | review (given : Review)
  | labReport (lab : Option Id)
  | labItem (viewerId : Id) (entry : Screen.LabEntry)
  | matrix (mode : MatrixMode) (query : String)
  | reviewPanel
  | groupTable
  | groupCard (group : Group)
  | groupEditor
  | memberRow (editMode : Bool) (enrollment : Enrollment)
  | memberTable
  | labLine (assignmentId : Id)
  | menuLink (location : String) (link : Link)
  | menu (entries : List Entry) (location : String)
  | home
  | notFound
  | coursePage (page : CoursePage)
  | framed (location : String) (content : View)
  | whole (content : View)

namespace View

/-- The screen of a view. -/
def screen : View → Screen
  | search hint => .still fun _ => [Screen.searchBox hint]
  | segment part => .still fun _ => [Screen.segment part]
  | progress submission assignment mode => .still fun store =>
    [Screen.progressBar (Grading.progress submission assignment mode store.auth.selfId)]
  | result submission assignment enrollment => .still fun store =>
    [Screen.resultTable submission assignment enrollment store.auth.selfId]
  | review given => .still fun _ => [Screen.reviewTable given]
  | labReport lab => Screen.labReport lab
  | labItem viewerId entry => .still fun _ => [Screen.labItem viewerId entry]
  | matrix mode query => Screen.matrixGrid mode query
  | reviewPanel => Screen.reviewPanel
  | groupTable => .still fun store => [Screen.groupTable store.course.groups]
  | groupCard group => .still fun _ => [Screen.groupCard group]
  | groupEditor => Screen.groupEditor
  | memberRow editMode enrollment => .still fun _ => [Screen.memberRow editMode enrollment]
  | memberTable => Screen.memberTable
  | labLine assignmentId => .still fun store =>
    [Screen.progressBar (Screen.labLine store.course store.auth.selfId assignmentId)]
  | menuLink location link => .still fun store => [Screen.menuLink store location link]
  | menu entries location => Screen.menu entries location
  | home => Screen.home
  | notFound => Screen.notFound
  | coursePage page => page.screen
  | framed location content => Screen.framed location content.screen
  | whole content => .still (Screen.page content.screen)

/-- The view that a path shows. -/
def ofPath (path : String) : View :=
  match SitePage.ofPath? path with
  | some .home => home
  | some (.course route) => framed path (coursePage route.page)
  | none => notFound

/-- A path shows the screen of its view. -/
theorem screen_ofPath (path : String) : (ofPath path).screen = Route.screen path := by
  unfold ofPath Route.screen
  rcases SitePage.ofPath? path with _ | _ | route <;> rfl

/-! ## What views write -/

/-- What a search box writes. -/
def searchTags : List Template :=
  [⟨"div", ["class"]⟩, ⟨"input", ["type", "placeholder", "class"]⟩]

/-- What a progress bar writes. -/
def progressTags : List Template :=
  [⟨"div", ["class"]⟩, ⟨"div", ["style"]⟩, ⟨"div", ["role", "class", "style"]⟩]

/-- What a result table writes. -/
def resultTags : List Template :=
  progressTags ++
    [⟨"div", ["class"]⟩, ⟨"h2", []⟩, ⟨"table", ["class"]⟩, ⟨"thead", ["class"]⟩, ⟨"tbody", []⟩,
      ⟨"tfoot", []⟩, ⟨"tr", []⟩, ⟨"th", []⟩, ⟨"th", ["class"]⟩, ⟨"th", ["colspan"]⟩, ⟨"td", []⟩]

/-- What the report of a lab writes. -/
def labReportTags : List Template :=
  resultTags ++
    [⟨"div", []⟩, ⟨"div", ["class"]⟩, ⟨"table", ["class"]⟩, ⟨"thead", ["class"]⟩, ⟨"tbody", []⟩,
      ⟨"tfoot", []⟩, ⟨"tr", []⟩, ⟨"tr", ["class"]⟩, ⟨"th", []⟩, ⟨"th", ["colspan"]⟩, ⟨"td", []⟩,
      ⟨"td", ["class"]⟩, ⟨"td", ["colspan"]⟩, ⟨"code", ["class"]⟩, ⟨"span", []⟩, ⟨"br", []⟩]

/-- What a matrix writes. -/
def matrixTags : List Template :=
  [⟨"div", ["class"]⟩, ⟨"table", ["class"]⟩, ⟨"thead", ["class"]⟩, ⟨"tbody", []⟩, ⟨"tr", []⟩,
    ⟨"th", []⟩, ⟨"th", ["class"]⟩, ⟨"td", ["class"]⟩]

/-- What a review panel writes. -/
def reviewPanelTags : List Template :=
  [⟨"ul", ["class"]⟩, ⟨"li", ["class"]⟩, ⟨"span", ["class"]⟩, ⟨"button", ["class"]⟩]

/-- What all groups and one group write. -/
def groupTags : List Template :=
  [⟨"div", ["class"]⟩, ⟨"table", ["class"]⟩, ⟨"thead", []⟩, ⟨"tbody", []⟩, ⟨"tr", []⟩, ⟨"th", []⟩,
    ⟨"td", []⟩, ⟨"button", ["class"]⟩, ⟨"small", []⟩, ⟨"ul", ["class"]⟩, ⟨"li", ["class"]⟩]

/-- What a group editor writes. -/
def groupEditorTags : List Template :=
  searchTags ++
    [⟨"div", ["class"]⟩, ⟨"ul", ["class"]⟩, ⟨"li", ["class"]⟩, ⟨"i", ["class"]⟩,
      ⟨"img", ["src", "alt", "class"]⟩, ⟨"input", ["placeholder", "class"]⟩,
      ⟨"button", ["class"]⟩]

/-- What a member table writes. -/
def memberTableTags : List Template :=
  searchTags ++
    [⟨"div", ["class"]⟩, ⟨"button", ["class"]⟩, ⟨"table", ["class"]⟩, ⟨"thead", []⟩, ⟨"tbody", []⟩,
      ⟨"tr", []⟩, ⟨"th", []⟩, ⟨"th", ["class"]⟩, ⟨"td", []⟩, ⟨"span", ["class"]⟩]

/-- What a menu writes. The mark of the current page is not on every link. -/
def menuTags : List Template :=
  progressTags ++
    [⟨"ul", ["class"]⟩, ⟨"li", ["class"]⟩, ⟨"a", ["href"]⟩, ⟨"a", ["href", "aria-current"]⟩,
      ⟨"span", ["class"]⟩]

/-- What a toolbar and a side panel of a grading screen write. -/
def gradingTags (mode : MatrixMode) : List Template :=
  searchTags ++
    [⟨"div", ["class"]⟩, ⟨"select", ["class"]⟩, ⟨"option", ["value"]⟩, ⟨"label", ["class"]⟩,
      ⟨"input", ["type"]⟩, ⟨"span", ["class"]⟩, ⟨"button", ["class"]⟩] ++
    match mode with
    | .normal => labReportTags
    | .review => ⟨"input", ["type", "min", "max", "class"]⟩ :: reviewPanelTags

/-- What the list of labs writes. -/
def labsTags : List Template :=
  progressTags ++ [⟨"ul", ["class"]⟩, ⟨"li", ["class"]⟩, ⟨"div", ["class"]⟩, ⟨"strong", []⟩]

/-- What a page of a course writes. -/
def coursePageTags : CoursePage → List Template
  | .labs => labsTags
  | .members => memberTableTags ++ [⟨"div", ["class"]⟩, ⟨"h3", []⟩]
  | .results => gradingTags .normal ++ matrixTags
  | .review => gradingTags .review ++ matrixTags
  | .group => groupEditorTags ++ groupTags
  | .lab _ => labReportTags

/-- What the frame of a course writes around a screen. -/
def frameTags : List Template :=
  menuTags ++ [⟨"div", ["class"]⟩, ⟨"h4", []⟩, ⟨"p", []⟩]

/-- What a whole page writes around a screen. -/
def wholeTags : List Template :=
  [⟨"nav", ["class"]⟩, ⟨"a", ["class", "href"]⟩, ⟨"span", ["class"]⟩, ⟨"main", ["class"]⟩]

/-- What a view writes. -/
def templates : View → List Template
  | search _ => searchTags
  | segment _ => progressTags
  | progress .. => progressTags
  | result .. => resultTags
  | review _ => labReportTags
  | labReport _ => labReportTags
  | labItem .. => labsTags
  | matrix .. => matrixTags
  | reviewPanel => reviewPanelTags
  | groupTable => groupTags
  | groupCard _ => groupTags
  | groupEditor => groupEditorTags
  | memberRow .. => memberTableTags
  | memberTable => memberTableTags
  | labLine _ => progressTags
  | menuLink .. => menuTags
  | menu .. => menuTags
  | home => [⟨"div", ["class"]⟩]
  | notFound => []
  | coursePage page => coursePageTags page
  | framed _ content => frameTags ++ content.templates
  | whole content => wholeTags ++ content.templates

end View

end Coursework
