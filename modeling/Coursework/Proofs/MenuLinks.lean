import Coursework.Navigation.Menu
import Coursework.Proofs.CoursePaths

/-!
# Where the links of the menu lead

The menu of a course builds addresses, and the site takes paths apart. `links_lead_to_pages` says
that the two agree: each link leads to the page of its course that it is there for, and is active
on that address only.

The addresses of labs and those of the other pages have the same form. They cannot be confused,
since the name of a page has a letter in it and the number of a lab has digits only.
-/

namespace Coursework.Navigation

/-- The links of an entry: its own, and those under it. -/
def Entry.links (entry : Entry) : List Link := entry.item :: entry.children

/-- All links of a menu. -/
def linksOf (entries : List Entry) : List Link := entries.flatMap Entry.links

/-- The link as it is where it is not active. -/
def Link.unlit (link : Link) : Link := { link with active := false }

def Entry.unlit (entry : Entry) : Entry := ⟨entry.item.unlit, entry.children.map Link.unlit⟩

/-- The page that a link is there for: that of its lab, or else that of its name. -/
inductive Link.IsFor (link : Link) : CoursePage → Prop where
  | labs (noLab : link.assignmentId = none) (named : link.name = "Labs") : IsFor link .labs
  | group (noLab : link.assignmentId = none) (named : link.name = "Group") : IsFor link .group
  | results (noLab : link.assignmentId = none) (named : link.name ∈ ["Teacher", "Results"]) :
      IsFor link .results
  | review (noLab : link.assignmentId = none) (named : link.name = "Review") : IsFor link .review
  | members (noLab : link.assignmentId = none) (named : link.name = "Members") :
      IsFor link .members
  | lab {id segment} (ofLab : link.assignmentId = some id)
      (reads : Route.segmentId? segment = some id) : IsFor link (.lab segment)

/-- The screen that a link is there for: that of its lab, or else that of its name. -/
inductive Link.IsForScreen (link : Link) : Screen → Prop where
  | labs (noLab : link.assignmentId = none) (named : link.name = "Labs") :
      IsForScreen link Screen.labs
  | group (noLab : link.assignmentId = none) (named : link.name = "Group") :
      IsForScreen link Screen.groups
  | results (noLab : link.assignmentId = none) (named : link.name ∈ ["Teacher", "Results"]) :
      IsForScreen link (Screen.grading .normal)
  | review (noLab : link.assignmentId = none) (named : link.name = "Review") :
      IsForScreen link (Screen.grading .review)
  | members (noLab : link.assignmentId = none) (named : link.name = "Members") :
      IsForScreen link Screen.members
  | lab {id} (ofLab : link.assignmentId = some id) : IsForScreen link (Screen.lab (some id))

/-- The links under each entry of a course menu, the entries counted from zero. -/
inductive MenuLink (courseId : Id) (assignments : List Assignment) (path : String) :
    Nat → Link → Prop where
  | labs : MenuLink courseId assignments path 0 (link "Labs" (courseUri courseId) path none)
  | lab {assignment} (listed : assignment ∈ assignments) :
      MenuLink courseId assignments path 0
        (link assignment.name (labUri courseId assignment.id) path (some assignment.id))
  | group :
      MenuLink courseId assignments path 1 (link "Group" (pageUri courseId "group") path none)
  | results {name} (named : name ∈ ["Teacher", "Results"]) :
      MenuLink courseId assignments path 2 (link name (pageUri courseId "results") path none)
  | review :
      MenuLink courseId assignments path 2 (link "Review" (pageUri courseId "review") path none)
  | members :
      MenuLink courseId assignments path 2 (link "Members" (pageUri courseId "members") path none)

section Menu

variable {courseId : Id} {assignments : List Assignment} {isTeacher : Bool} {path : String}

/-- The page that a link is there for has the screen that the link is there for. -/
theorem Link.IsFor.screen {link : Link} {page : CoursePage} (isFor : link.IsFor page) :
    link.IsForScreen page.screen := by
  cases isFor with
  | labs noLab named => exact .labs noLab named
  | group noLab named => exact .group noLab named
  | results noLab named => exact .results noLab named
  | review noLab named => exact .review noLab named
  | members noLab named => exact .members noLab named
  | lab ofLab reads =>
    rw [CoursePage.screen, reads]
    exact .lab ofLab

theorem menuLink_of_mem {place : Nat} {entry : Entry} {target : Link}
    (listed : (courseMenu courseId assignments isTeacher path)[place]? = some entry)
    (member : target ∈ entry.links) : MenuLink courseId assignments path place target := by
  unfold courseMenu at listed
  match place with
  | 0 =>
    obtain rfl := Option.some.inj listed
    rcases List.mem_cons.mp member with rfl | ofLab
    · exact .labs
    · obtain ⟨assignment, there, rfl⟩ := List.mem_map.mp ofLab
      exact .lab there
  | 1 =>
    obtain rfl := Option.some.inj listed
    rcases List.mem_cons.mp member with rfl | none
    · exact .group
    · exact absurd none List.not_mem_nil
  | 2 =>
    cases isTeacher with
    | false => simp at listed
    | true =>
      obtain rfl := Option.some.inj listed
      simp only [Entry.links, List.mem_cons, List.not_mem_nil, or_false] at member
      rcases member with rfl | rfl | rfl | rfl
      · exact .results (by simp)
      · exact .results (by simp)
      · exact .review
      · exact .members
  | place + 3 =>
    cases isTeacher <;> simp at listed

theorem menuLink_of_mem_linksOf {target : Link}
    (member : target ∈ linksOf (courseMenu courseId assignments isTeacher path)) :
    ∃ place, MenuLink courseId assignments path place target := by
  obtain ⟨entry, listed, ofEntry⟩ := List.mem_flatMap.mp member
  obtain ⟨place, here⟩ := List.getElem?_of_mem listed
  exact ⟨place, menuLink_of_mem here ofEntry⟩

theorem courseUri_eq (courseId : Id) :
    courseUri courseId = Route.pathOf ["course", toString courseId] := by
  apply String.toList_injective
  simp [courseUri, Route.pathOf]

theorem pageUri_eq (courseId : Id) (page : String) :
    pageUri courseId page = Route.pathOf ["course", toString courseId, page] := by
  apply String.toList_injective
  simp [pageUri, courseUri, Route.pathOf]

/-- The entry of the menu, counted from zero, that has the links to a page. -/
def entryOf : CoursePage → Nat
  | .labs => 0
  | .lab _ => 0
  | .group => 1
  | .results => 2
  | .review => 2
  | .members => 2

/-- The address of a link is that of the page that the link is there for. -/
theorem MenuLink.ofPath?_uri {place : Nat} {target : Link}
    (inMenu : MenuLink courseId assignments path place target) :
    ∃ page, CourseRoute.ofPath? target.uri = some ⟨toString courseId, page⟩ ∧
      target.IsFor page ∧ entryOf page = place := by
  have toPage {segment : String} (plain : Route.IsSegment segment) :
      CourseRoute.ofPath? (pageUri courseId segment) =
        Route.firstPage? CourseRoute.declared ["course", toString courseId, segment] := by
    rw [pageUri_eq]
    exact CourseRoute.ofPath?_pathOf_page (Route.isSegment_toString courseId) plain
  cases inMenu with
  | labs =>
    refine ⟨.labs, ?_, .labs rfl rfl, rfl⟩
    rw [link, courseUri_eq]
    exact CourseRoute.ofPath?_pathOf_course (Route.isSegment_toString courseId)
  | @lab assignment =>
    refine ⟨.lab (toString assignment.id), ?_, .lab rfl (Route.segmentId?_toString _), rfl⟩
    rw [link, labUri, toPage (Route.isSegment_toString _), CourseRoute.firstPage?_lab]
  | group => exact ⟨.group, toPage ⟨by decide, by decide⟩, .group rfl rfl, rfl⟩
  | results named => exact ⟨.results, toPage ⟨by decide, by decide⟩, .results rfl named, rfl⟩
  | review => exact ⟨.review, toPage ⟨by decide, by decide⟩, .review rfl rfl, rfl⟩
  | members => exact ⟨.members, toPage ⟨by decide, by decide⟩, .members rfl rfl, rfl⟩

/-- No address in the menu ends in a slash. -/
theorem MenuLink.getLast?_uri {place : Nat} {target : Link}
    (inMenu : MenuLink courseId assignments path place target) :
    target.uri.toList.getLast? ≠ some '/' := by
  have ofPage {page : String} (plain : Route.IsSegment page) :
      (pageUri courseId page).toList.getLast? ≠ some '/' := by
    rw [pageUri_eq]
    refine Route.getLast?_pathOf (by simp) ?_
    simp [plain, Route.isSegment_course, Route.isSegment_toString]
  cases inMenu with
  | labs =>
    rw [link, courseUri_eq]
    refine Route.getLast?_pathOf (by simp) ?_
    simp [Route.isSegment_course, Route.isSegment_toString]
  | lab => exact ofPage (Route.isSegment_toString _)
  | group => exact ofPage ⟨by decide, by decide⟩
  | results => exact ofPage ⟨by decide, by decide⟩
  | review => exact ofPage ⟨by decide, by decide⟩
  | members => exact ofPage ⟨by decide, by decide⟩

/-- A link is active as the path says. -/
theorem MenuLink.active_eq {place : Nat} {target : Link}
    (inMenu : MenuLink courseId assignments path place target) :
    target.active = isActive path target.uri := by
  cases inMenu <;> rfl

end Menu

theorem dropSlash_append_slash (text : String) : dropSlash (text ++ "/") = text := by
  simp [dropSlash]

theorem dropSlash_of_getLast? {path : String} (ends : path.toList.getLast? ≠ some '/') :
    dropSlash path = path := by
  unfold dropSlash
  split
  · rename_i rest reversed
    rw [List.getLast?_eq_head?_reverse, reversed] at ends
    exact absurd rfl ends
  · rfl

/-- A link is active on its address, with or without a slash at the end, and nowhere else. -/
theorem isActive_iff {path uri : String} (ends : uri.toList.getLast? ≠ some '/') :
    isActive path uri = true ↔ path = uri ∨ path = uri ++ "/" := by
  unfold isActive
  rw [beq_iff_eq]
  constructor
  · rintro rfl
    by_cases slash : path.toList.getLast? = some '/'
    · obtain ⟨front, split⟩ := List.getLast?_eq_some_iff.mp slash
      obtain rfl : path = String.ofList front ++ "/" := by
        apply String.toList_injective
        rw [split, String.toList_append, String.toList_ofList]
        rfl
      rw [dropSlash_append_slash]
      exact .inr rfl
    · exact .inl (dropSlash_of_getLast? slash).symm
  · rintro (rfl | rfl)
    · exact dropSlash_of_getLast? ends
    · exact dropSlash_append_slash uri

/-- What the links of a course menu are good for, as it is seen from a path. -/
structure LeadsToPages (courseId : Id) (assignments : List Assignment) (isTeacher : Bool)
    (path : String) : Prop where
  /-- Everybody has a link for each lab, and teachers have links to the pages for grading. -/
  offers : (linksOf (courseMenu courseId assignments isTeacher path)).map
      (fun target => (target.name, target.assignmentId)) =
    ("Labs", none) :: assignments.map (fun a => (a.name, some a.id)) ++ ("Group", none) ::
      if isTeacher then ["Teacher", "Results", "Review", "Members"].map (·, none) else []
  /-- A link leads to the page that it is there for, of this course, and what is shown there in
  the frame of the course is the screen that the link is there for. -/
  leads : ∀ target ∈ linksOf (courseMenu courseId assignments isTeacher path),
    (∃ route, CourseRoute.ofPath? target.uri = some route ∧ route.courseId? = some courseId ∧
      target.IsFor route.page) ∧
    ∃ screen, target.IsForScreen screen ∧
      Route.screen target.uri = Screen.framed target.uri screen
  /-- On the address of a link exactly the links of that address are active. -/
  lights : ∀ target ∈ linksOf (courseMenu courseId assignments isTeacher path),
    ∀ here, here = target.uri ∨ here = target.uri ++ "/" →
      ∀ other ∈ linksOf (courseMenu courseId assignments isTeacher here),
        other.active = true ↔ other.uri = target.uri
  /-- Elsewhere a link is not active. -/
  onlyThere : ∀ target ∈ linksOf (courseMenu courseId assignments isTeacher path),
    target.active = true ↔ path = target.uri ∨ path = target.uri ++ "/"
  /-- From any other path the menu is the same, but for what is active. -/
  unmoved : ∀ other, (courseMenu courseId assignments isTeacher other).map Entry.unlit =
    (courseMenu courseId assignments isTeacher path).map Entry.unlit

/-- Every link of a course menu leads to its page, and is active there only. -/
theorem links_lead_to_pages (courseId : Id) (assignments : List Assignment) (isTeacher : Bool)
    (path : String) : LeadsToPages courseId assignments isTeacher path := by
  have onlyThere : ∀ here, ∀ target ∈ linksOf (courseMenu courseId assignments isTeacher here),
      target.active = true ↔ here = target.uri ∨ here = target.uri ++ "/" := by
    intro here target member
    obtain ⟨place, inMenu⟩ := menuLink_of_mem_linksOf member
    rw [inMenu.active_eq]
    exact isActive_iff inMenu.getLast?_uri
  refine ⟨?_, ?_, ?_, onlyThere path, ?_⟩
  · cases isTeacher <;> simp [linksOf, courseMenu, Entry.links, link, Function.comp_def]
  · intro target member
    obtain ⟨place, inMenu⟩ := menuLink_of_mem_linksOf member
    obtain ⟨page, routed, isFor, _⟩ := inMenu.ofPath?_uri
    exact ⟨⟨_, routed, Route.segmentId?_toString courseId, isFor⟩, _, isFor.screen,
      Route.screen_of_ofPath? routed⟩
  · intro target member here there other listed
    obtain ⟨place, inMenu⟩ := menuLink_of_mem_linksOf member
    obtain ⟨otherPlace, otherInMenu⟩ := menuLink_of_mem_linksOf listed
    have lit := (isActive_iff inMenu.getLast?_uri).mpr there
    rw [otherInMenu.active_eq]
    unfold isActive at lit ⊢
    rw [beq_iff_eq] at lit ⊢
    rw [lit, eq_comm]
  · intro other
    cases isTeacher <;> simp [courseMenu, Entry.unlit, Link.unlit, link, Function.comp_def]

/-- Labs with the least and the greatest number. -/
def outermostLabs : List Assignment :=
  [⟨0, 4, "First", "", 80, 1, false, false, 0⟩,
    ⟨18446744073709551615, 4, "Last", "", 80, 2, false, false, 0⟩]

/-- The last lab is found from its link, and with a slash behind its address only its link is
active. -/
theorem links_lead_to_pages_of_outermostLabs :
    ∃ target ∈ linksOf (courseMenu 4 outermostLabs true "/course/4/members"),
      target.assignmentId = some 18446744073709551615 ∧
      (∃ route, CourseRoute.ofPath? target.uri = some route ∧ route.courseId? = some 4 ∧
        target.IsFor route.page) ∧
      Route.screen target.uri =
        Screen.framed target.uri (Screen.lab (some 18446744073709551615)) ∧
      ∀ other ∈ linksOf (courseMenu 4 outermostLabs true "/course/4/18446744073709551615/"),
        other.active = true ↔ other.uri = target.uri := by
  have leads := links_lead_to_pages 4 outermostLabs true "/course/4/members"
  have member : link "Last" "/course/4/18446744073709551615" "/course/4/members"
      (some 18446744073709551615) ∈
        linksOf (courseMenu 4 outermostLabs true "/course/4/members") := by
    decide +kernel
  obtain ⟨routed, screen, isFor, shown⟩ := leads.leads _ member
  have ofLab : screen = Screen.lab (some 18446744073709551615) := by
    cases isFor with
    | lab isLab => cases isLab; rfl
    | _ noLab => cases noLab
  refine ⟨_, member, rfl, routed, ofLab ▸ shown, ?_⟩
  exact leads.lights _ member _ (.inr (by decide +kernel))

end Coursework.Navigation
