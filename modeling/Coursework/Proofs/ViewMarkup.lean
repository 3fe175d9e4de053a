import Coursework.Proofs.PrintedMarkup
import Coursework.Screen.View

/-!
# The markup of views

The main theorem is `views_printFaithfully`, about every view and every store. `PrintedMarkup` has
what holds of any piece of a page; here it is shown of each component, and by induction of each
view, that it writes no other tags than those of its templates. The lemmas on components follow
their definitions: one for each, from those of the components in it.
-/

namespace Coursework.Html

/-! ## Templates in use -/

/-- The tags of a node are among the templates. -/
def Node.UsesOnly (templates : List Template) (node : Node) : Prop :=
  ∀ part ∈ node.tokens, part.mark.WrittenIn templates

/-- The tags of a piece of a page are among the templates. -/
def NodesUseOnly (templates : List Template) (html : List Node) : Prop :=
  ∀ part ∈ tokens html, part.mark.WrittenIn templates

variable {templates more : List Template} {α : Type}

theorem Mark.WrittenIn.mono {mark : Mark} (known : templates ⊆ more)
    (written : mark.WrittenIn templates) : mark.WrittenIn more := by
  cases mark with
  | opening name attributes => exact known written
  | closing name =>
    obtain ⟨template, member, named⟩ := written
    exact ⟨template, known member, named⟩
  | text content => trivial

theorem Node.UsesOnly.mono {node : Node} (known : templates ⊆ more)
    (uses : node.UsesOnly templates) : node.UsesOnly more :=
  fun part member => (uses part member).mono known

theorem NodesUseOnly.mono {html : List Node} (known : templates ⊆ more)
    (uses : NodesUseOnly templates html) : NodesUseOnly more html :=
  fun part member => (uses part member).mono known

@[simp] theorem nodesUseOnly_nil : NodesUseOnly templates [] := by
  simp [NodesUseOnly]

@[simp] theorem nodesUseOnly_cons (node : Node) (rest : List Node) :
    NodesUseOnly templates (node :: rest) ↔
      node.UsesOnly templates ∧ NodesUseOnly templates rest := by
  simp [NodesUseOnly, Node.UsesOnly, or_imp, forall_and]

theorem Node.UsesOnly.alone {node : Node} (uses : node.UsesOnly templates) :
    NodesUseOnly templates [node] := by
  simpa using uses

@[simp] theorem nodesUseOnly_append (first second : List Node) :
    NodesUseOnly templates (first ++ second) ↔
      NodesUseOnly templates first ∧ NodesUseOnly templates second := by
  simp [NodesUseOnly, or_imp, forall_and]

@[simp] theorem nodesUseOnly_map (nodeOf : α → Node) (xs : List α) :
    NodesUseOnly templates (xs.map nodeOf) ↔ ∀ x ∈ xs, (nodeOf x).UsesOnly templates := by
  induction xs with
  | nil => simp
  | cons x xs ih => simp [ih]

@[simp] theorem nodesUseOnly_flatMap (nodesOf : α → List Node) (xs : List α) :
    NodesUseOnly templates (xs.flatMap nodesOf) ↔ ∀ x ∈ xs, NodesUseOnly templates (nodesOf x) := by
  induction xs with
  | nil => simp
  | cons x xs ih => simp [ih]

@[simp] theorem nodesUseOnly_toList_map (nodeOf : α → Node) (x? : Option α) :
    NodesUseOnly templates (x?.map nodeOf).toList ↔ ∀ x ∈ x?, (nodeOf x).UsesOnly templates := by
  cases x? <;> simp

@[simp] theorem nodesUseOnly_ite (condition : Prop) [Decidable condition] (yes no : List Node) :
    NodesUseOnly templates (if condition then yes else no) ↔
      (condition → NodesUseOnly templates yes) ∧ (¬ condition → NodesUseOnly templates no) := by
  split <;> simp [*]

@[simp] theorem Node.usesOnly_text (wording : String) :
    (Node.text wording).UsesOnly templates := by
  simp [Node.UsesOnly, Node.tokens, Token.mark, Mark.WrittenIn]

@[simp] theorem Node.usesOnly_value (data : String) : (Node.value data).UsesOnly templates := by
  simp [Node.UsesOnly, Node.tokens, Token.mark, Mark.WrittenIn]

theorem fst_comp_pair : Prod.fst ∘ Attribute.pair = fun given => given.name.text := rfl

@[simp] theorem Node.usesOnly_void (tag : VoidTag) (attributes : List Attribute) :
    (Node.void tag attributes).UsesOnly templates ↔
      ⟨tag.name, attributes.map (·.name.text)⟩ ∈ templates := by
  simp [Node.UsesOnly, Node.tokens, Token.mark, Mark.WrittenIn, fst_comp_pair]

/-- With its opening tag an element has its closing one. -/
@[simp] theorem Node.usesOnly_element (tag : Tag) (attributes : List Attribute)
    (children : List Node) :
    (Node.element tag attributes children).UsesOnly templates ↔
      ⟨tag.name, attributes.map (·.name.text)⟩ ∈ templates ∧ NodesUseOnly templates children := by
  simp only [Node.UsesOnly, NodesUseOnly, Node.tokens, List.cons_append, List.forall_mem_cons,
    List.forall_mem_append, Token.mark, Mark.WrittenIn, List.map_map, fst_comp_pair]
  constructor
  · rintro ⟨opened, inside, _⟩
    exact ⟨opened, inside⟩
  · rintro ⟨opened, inside⟩
    exact ⟨opened, inside, ⟨_, opened, rfl⟩, by simp⟩

@[simp] theorem Node.usesOnly_bare (tag : Tag) (children : List Node) :
    (Node.bare tag children).UsesOnly templates ↔
      ⟨tag.name, []⟩ ∈ templates ∧ NodesUseOnly templates children :=
  Node.usesOnly_element tag [] children

@[simp] theorem Node.usesOnly_classed (tag : Tag) (names : String) (children : List Node) :
    (Node.classed tag names children).UsesOnly templates ↔
      ⟨tag.name, ["class"]⟩ ∈ templates ∧ NodesUseOnly templates children :=
  Node.usesOnly_element tag [.classes [names]] children

end Coursework.Html

/-! ## Components and pages -/

namespace Coursework.Screen

open Html Grading Navigation

variable {templates : List Template}

theorem usesOnly_searchBox (known : View.searchTags ⊆ templates) (hint : String) :
    (searchBox hint).UsesOnly templates := by
  refine Node.UsesOnly.mono known ?_
  simp +decide [searchBox]

theorem usesOnly_segment (part : Segment) : (segment part).UsesOnly View.progressTags := by
  simp +decide [segment]

theorem usesOnly_progressBar (known : View.progressTags ⊆ templates) (progress : Progress) :
    (progressBar progress).UsesOnly templates := by
  refine Node.UsesOnly.mono known ?_
  cases progress with
  | line color rightPercent => simp +decide [progressBar]
  | bar primary secondary => simp +decide [progressBar, usesOnly_segment]

theorem usesOnly_infoRow (row : InfoRow) : (infoRow row).UsesOnly View.resultTags := by
  simp +decide [infoRow]

theorem usesOnly_testRow (row : TestRow) : (testRow row).UsesOnly View.resultTags := by
  simp +decide [testRow]

theorem usesOnly_resultTable (submission : Submission) (assignment : Assignment)
    (enrollment : Option Enrollment) (viewerId : Id) :
    (resultTable submission assignment enrollment viewerId).UsesOnly View.resultTags := by
  simp +decide [resultTable, usesOnly_progressBar, tableHead, usesOnly_infoRow, usesOnly_testRow]

theorem usesOnly_gradeCell (grade : CriterionGrade) :
    (gradeCell grade).UsesOnly View.labReportTags := by
  cases grade <;> simp +decide [gradeCell]

theorem usesOnly_reviewTable (review : Review) :
    (reviewTable review).UsesOnly View.labReportTags := by
  simp +decide [reviewTable, tableHead, benchmarkRows, usesOnly_gradeCell]

theorem usesOnly_submissionReport (viewerId : Id) (shown : ShownSubmission) :
    (submissionReport viewerId shown).UsesOnly View.labReportTags := by
  have results := (usesOnly_resultTable shown.submission shown.assignment shown.enrollment
    viewerId).mono (show View.resultTags ⊆ View.labReportTags by decide)
  simp +decide [submissionReport, results, usesOnly_reviewTable, logLine]

/-- The report of a lab, with or without a submission. -/
theorem usesOnly_labReport (lab : Option Id) (store : Store) :
    NodesUseOnly View.labReportTags ((labReport lab).html store) := by
  unfold labReport Screen.still
  dsimp only
  split
  · simp [usesOnly_submissionReport]
  · simp +decide

theorem usesOnly_labItem (viewerId : Id) (entry : LabEntry) :
    (labItem viewerId entry).UsesOnly View.labsTags := by
  simp +decide [labItem, usesOnly_progressBar]

theorem usesOnly_headerCell (cell : HeaderCell) : (headerCell cell).UsesOnly View.matrixTags := by
  unfold headerCell
  split <;> simp +decide

theorem usesOnly_grid (matrix : Matrix) : (grid matrix).UsesOnly View.matrixTags := by
  simp +decide [grid, tableHead, usesOnly_headerCell, gridCell]

theorem usesOnly_panelList (panel : Grading.ReviewPanel) :
    (panelList panel).UsesOnly View.reviewPanelTags := by
  simp +decide [panelList, panelLine, labelledLine, toggleButton]

theorem usesOnly_reviewPanel (store : Store) :
    NodesUseOnly View.reviewPanelTags (reviewPanel.html store) := by
  simp [reviewPanel, Screen.still, usesOnly_panelList]

theorem usesOnly_draftButtons (draft : Group) :
    (draftButtons draft).UsesOnly View.groupEditorTags := by
  unfold draftButtons
  split <;> simp +decide

theorem usesOnly_draftEditor (enrollments : List Enrollment) (draft : Group) (selfId : Id) :
    (draftEditor enrollments draft selfId).UsesOnly View.groupEditorTags := by
  simp +decide [draftEditor, usesOnly_searchBox, candidateLine, memberLine,
    usesOnly_draftButtons]

theorem usesOnly_groupEditor (store : Store) :
    NodesUseOnly View.groupEditorTags (groupEditor.html store) := by
  simp [groupEditor, usesOnly_draftEditor]

theorem usesOnly_groupTable (groups : List Group) :
    (groupTable groups).UsesOnly View.groupTags := by
  simp +decide [groupTable, groupRow]

theorem usesOnly_groupCard (group : Group) : (groupCard group).UsesOnly View.groupTags := by
  simp +decide [groupCard]

theorem usesOnly_groups (store : Store) :
    NodesUseOnly (View.coursePageTags .group) (groups.html store) := by
  have editor := (usesOnly_groupEditor store).mono
    (show View.groupEditorTags ⊆ View.coursePageTags .group by decide)
  have table := fun groups => (usesOnly_groupTable groups).mono
    (show View.groupTags ⊆ View.coursePageTags .group by decide)
  have card := fun group => (usesOnly_groupCard group).mono
    (show View.groupTags ⊆ View.coursePageTags .group by decide)
  unfold groups
  dsimp only
  split
  · simp +decide [table, editor]
  · split
    · exact (card _).alone
    · exact editor

theorem usesOnly_memberRow (editMode : Bool) (enrollment : Enrollment) :
    (memberRow editMode enrollment).UsesOnly View.memberTableTags := by
  simp +decide [memberRow]

theorem usesOnly_memberTable (store : Store) :
    NodesUseOnly View.memberTableTags (memberTable.html store) := by
  simp +decide [memberTable, Screen.still, memberToolbar, memberHead, usesOnly_memberRow,
    usesOnly_searchBox]

theorem usesOnly_members (store : Store) :
    NodesUseOnly (View.coursePageTags .members) (members.html store) := by
  have table := (usesOnly_memberTable store).mono
    (show View.memberTableTags ⊆ View.coursePageTags .members by decide)
  simp +decide [members, Screen.still, table]

theorem usesOnly_gradingToolbar (mode : MatrixMode) (store : Store) :
    (gradingToolbar mode store).UsesOnly (View.gradingTags mode) := by
  cases mode <;>
    simp +decide [gradingToolbar, assignmentFilter, sortButton, thresholdInput,
      usesOnly_searchBox]

theorem usesOnly_sidePanel (mode : MatrixMode) (store : Store) :
    NodesUseOnly (View.gradingTags mode) ((sidePanel mode).html store) := by
  cases mode with
  | normal =>
    exact (usesOnly_labReport none store).mono
      (show View.labReportTags ⊆ View.gradingTags .normal by decide)
  | review =>
    exact (usesOnly_reviewPanel store).mono
      (show View.reviewPanelTags ⊆ View.gradingTags .review by decide)

theorem usesOnly_menuLink (store : Store) (location : String) (link : Link) :
    (menuLink store location link).UsesOnly View.menuTags := by
  unfold menuLink
  dsimp only
  split <;> simp +decide [usesOnly_progressBar]

theorem usesOnly_menu (entries : List Entry) (location : String) (store : Store) :
    NodesUseOnly View.menuTags ((menu entries location).html store) := by
  simp +decide [menu, Screen.still, menuEntry, usesOnly_menuLink]

/-- A screen in the frame of a course. -/
theorem usesOnly_framed {screen : Screen} {store : Store}
    (known : View.frameTags ⊆ templates) (inside : NodesUseOnly templates (screen.html store))
    (location : String) : NodesUseOnly templates ((framed location screen).html store) := by
  have links := ((usesOnly_menu (storeMenu store location) location store).mono
    (show View.menuTags ⊆ View.frameTags by decide)).mono known
  have box : ⟨"div", ["class"]⟩ ∈ templates := known (by decide)
  have title : ⟨"h4", []⟩ ∈ templates := known (by decide)
  have paragraph : ⟨"p", []⟩ ∈ templates := known (by decide)
  simp [framed, noticeBox, Tag.name, links, box, title, paragraph, inside]

/-- A screen on a whole page. -/
theorem usesOnly_page {screen : Screen} {store : Store}
    (known : View.wholeTags ⊆ templates) (inside : NodesUseOnly templates (screen.html store)) :
    NodesUseOnly templates (page screen store) := by
  have bar : ⟨"nav", ["class"]⟩ ∈ templates := known (by decide)
  have link : ⟨"a", ["class", "href"]⟩ ∈ templates := known (by decide)
  have user : ⟨"span", ["class"]⟩ ∈ templates := known (by decide)
  have content : ⟨"main", ["class"]⟩ ∈ templates := known (by decide)
  simp [page, Tag.name, AttributeName.text, bar, link, user, content, inside]

theorem usesOnly_coursePage (page : CoursePage) (store : Store) :
    NodesUseOnly (View.coursePageTags page) (page.screen.html store) := by
  have grading : ∀ mode, NodesUseOnly (View.gradingTags mode ++ View.matrixTags)
      ((Screen.grading mode).html store) := by
    intro mode
    have toolbar := (usesOnly_gradingToolbar mode store).mono
      (List.subset_append_left _ View.matrixTags)
    have side := (usesOnly_sidePanel mode store).mono
      (List.subset_append_left _ View.matrixTags)
    have table := fun matrix => (usesOnly_grid matrix).mono
      (List.subset_append_right (View.gradingTags mode) _)
    simp +decide [Screen.grading, matrixGrid, Screen.still, toolbar, side, table]
  cases page with
  | labs =>
    simp +decide [CoursePage.screen, View.coursePageTags, labs, Screen.still, usesOnly_labItem]
  | members => exact usesOnly_members store
  | results => exact grading .normal
  | review => exact grading .review
  | group => exact usesOnly_groups store
  | lab segment =>
    have report := usesOnly_labReport (Route.segmentId? segment) store
    simp +decide [CoursePage.screen, View.coursePageTags, lab, report]

end Coursework.Screen

/-! ## Views -/

namespace Coursework

open Html

/-- A view writes its templates only. The induction is on the views in which it is shown. -/
theorem View.usesOnly_html (view : View) (store : Store) :
    NodesUseOnly view.templates (view.screen.html store) := by
  induction view with
  | search hint => exact (Screen.usesOnly_searchBox (List.Subset.refl _) hint).alone
  | segment part => exact (Screen.usesOnly_segment part).alone
  | progress submission assignment mode =>
    exact (Screen.usesOnly_progressBar (List.Subset.refl _) _).alone
  | result submission assignment enrollment =>
    exact (Screen.usesOnly_resultTable submission assignment enrollment _).alone
  | review given => exact (Screen.usesOnly_reviewTable given).alone
  | labReport lab => exact Screen.usesOnly_labReport lab store
  | labItem viewerId entry => exact (Screen.usesOnly_labItem viewerId entry).alone
  | matrix mode query => exact (Screen.usesOnly_grid _).alone
  | reviewPanel => exact Screen.usesOnly_reviewPanel store
  | groupTable => exact (Screen.usesOnly_groupTable _).alone
  | groupCard group => exact (Screen.usesOnly_groupCard group).alone
  | groupEditor => exact Screen.usesOnly_groupEditor store
  | memberRow editMode enrollment => exact (Screen.usesOnly_memberRow editMode enrollment).alone
  | memberTable => exact Screen.usesOnly_memberTable store
  | labLine assignmentId => exact (Screen.usesOnly_progressBar (List.Subset.refl _) _).alone
  | menuLink location link => exact (Screen.usesOnly_menuLink store location link).alone
  | menu entries location => exact Screen.usesOnly_menu entries location store
  | home => simp +decide [View.screen, Screen.home, Screen.still]
  | notFound => simp [View.screen, Screen.notFound, Screen.still]
  | coursePage page => exact Screen.usesOnly_coursePage page store
  | framed location content ih =>
    exact Screen.usesOnly_framed (List.subset_append_left _ _)
      (ih.mono (List.subset_append_right _ _)) location
  | whole content ih =>
    exact Screen.usesOnly_page (List.subset_append_left _ _)
      (ih.mono (List.subset_append_right _ _))

/-- A piece of a page is printed in such a way that it is read as what it shows. -/
structure PrintsFaithfully (templates : List Template) (html : Html) : Prop where
  shows : Shows html (placed html)
  reads : read? (print html) = some (joined "" (placed html))
  balanced : Balanced (joined "" (placed html))
  written : ∀ mark ∈ joined "" (placed html), mark.WrittenIn templates
  unescapes : ∀ part ∈ tokens html, part.Unescapes

theorem printsFaithfully_of_usesOnly {templates : List Template} {html : Html}
    (uses : NodesUseOnly templates html) : PrintsFaithfully templates html where
  shows := shows_placed html
  reads := read?_print html
  balanced := balanced_joined html
  written := by
    refine forall_joined (fun _ => trivial) ?_ ""
    intro mark member
    obtain ⟨part, here, rfl⟩ := List.mem_map.mp member
    exact uses part here
  unescapes := fun part _ => part.unescapes

/-- Whatever is stored, every view, and the page at every path, is printed so that it is read as
what it shows: balanced tags that the view writes, and between and in them the texts of the data. -/
theorem views_printFaithfully (store : Store) :
    (∀ view : View, PrintsFaithfully view.templates (view.screen.html store)) ∧
      ∀ path, PrintsFaithfully (View.whole (.ofPath path)).templates
        (Screen.page (Route.screen path) store) := by
  have ofView (view : View) : PrintsFaithfully view.templates (view.screen.html store) :=
    printsFaithfully_of_usesOnly (view.usesOnly_html store)
  refine ⟨ofView, fun path => ?_⟩
  rw [← View.screen_ofPath]
  exact ofView (.whole (.ofPath path))

end Coursework
