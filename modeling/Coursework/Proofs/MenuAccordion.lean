import Mathlib.Data.List.Induction
import Coursework.Navigation.Accordion
import Coursework.Proofs.MenuLinks

/-!
# The lists of the menu

Which lists of a course menu are open is kept on the page, and each click changes it by the steps
of the accordion. `clicks_keep_accordion` says that there is never more than one open list, from
whatever page the menu is entered and wherever is clicked.

One click leaves at most one list open, even if more had been open before it. What takes an
argument is how the menu starts: no page has links under two entries.
-/

namespace Coursework.Navigation

/-- No two lists are open. -/
def AtMostOneOpen (flags : List Bool) : Prop :=
  ∀ i j : Nat, flags[i]? = some true → flags[j]? = some true → i = j

/-- Which lists are open at first. -/
def startFlags (entries : List Entry) : List Bool := entries.map Entry.startsOpen

/-- Which lists are open after clicks, one after the other. -/
def flagsAfter (entries : List Entry) (clicks : List Nat) : List Bool :=
  clicks.foldl toggleAt (startFlags entries)

theorem flagsAfter_concat (entries : List Entry) (clicks : List Nat) (index : Nat) :
    flagsAfter entries (clicks ++ [index]) = toggleAt (flagsAfter entries clicks) index := by
  simp [flagsAfter]

/-- The list under the entry has the class of an open one. -/
def Entry.isMarked (entry : Entry) : Bool :=
  (entry.subListClass.toList.splitOn ' ').contains "in".toList

/-- The class of a list says whether it starts open. -/
theorem Entry.isMarked_eq (entry : Entry) : entry.isMarked = entry.startsOpen := by
  unfold isMarked subListClass
  cases entry.startsOpen with
  | false => decide
  | true => decide

theorem Entry.startsOpen_iff {entry : Entry} :
    entry.startsOpen = true ↔ ∃ target ∈ entry.links, target.active = true := by
  simp [startsOpen, links]

/-- After a click, a list is open if it was clicked and was not open before. -/
theorem getElem?_toggleAt (flags : List Bool) (index i : Nat) :
    (toggleAt flags index)[i]? = flags[i]?.map fun isOpen => i == index && !isOpen := by
  unfold toggleAt accordionPlan
  rw [List.getElem?_zipWith, List.getElem?_mapIdx]
  cases flags[i]? with
  | none => rfl
  | some isOpen => cases isOpen <;> cases i == index <;> rfl

theorem getElem?_toggleAt_eq_true_iff {flags : List Bool} {index i : Nat} :
    (toggleAt flags index)[i]? = some true ↔ i = index ∧ flags[index]? = some false := by
  rw [getElem?_toggleAt, Option.map_eq_some_iff]
  constructor
  · rintro ⟨isOpen, here, opened⟩
    obtain ⟨clicked, closed⟩ := (Bool.and_eq_true _ _).mp opened
    obtain rfl := beq_iff_eq.mp clicked
    exact ⟨rfl, by simpa [here] using closed⟩
  · rintro ⟨rfl, closed⟩
    exact ⟨false, closed, by simp⟩

/-- Whatever was open before a click, at most one list is open after it. -/
theorem atMostOneOpen_toggleAt (flags : List Bool) (index : Nat) :
    AtMostOneOpen (toggleAt flags index) := by
  intro i j first second
  rw [getElem?_toggleAt_eq_true_iff] at first second
  exact first.1.trans second.1.symm

@[simp] theorem length_toggleAt (flags : List Bool) (index : Nat) :
    (toggleAt flags index).length = flags.length := by
  simp [toggleAt, accordionPlan]

/-- The current page has links under one entry only. -/
theorem atMostOneOpen_startFlags (courseId : Id) (assignments : List Assignment)
    (isTeacher : Bool) (path : String) :
    AtMostOneOpen (startFlags (courseMenu courseId assignments isTeacher path)) := by
  -- An open list has a link to the current page, and the page tells the entry.
  have activeLink : ∀ place,
      (startFlags (courseMenu courseId assignments isTeacher path))[place]? = some true →
      ∃ page, CourseRoute.ofPath? (dropSlash path) = some ⟨toString courseId, page⟩ ∧
        entryOf page = place := by
    intro place isOpen
    unfold startFlags at isOpen
    rw [List.getElem?_map] at isOpen
    obtain ⟨entry, listed, startsOpen⟩ := Option.map_eq_some_iff.mp isOpen
    obtain ⟨target, member, active⟩ := Entry.startsOpen_iff.mp startsOpen
    have inMenu := menuLink_of_mem listed member
    rw [inMenu.active_eq, isActive, beq_iff_eq] at active
    obtain ⟨page, routed, _, ofEntry⟩ := inMenu.ofPath?_uri
    exact ⟨page, active ▸ routed, ofEntry⟩
  intro i j first second
  obtain ⟨page, routed, rfl⟩ := activeLink i first
  obtain ⟨other, otherRouted, rfl⟩ := activeLink j second
  rw [routed] at otherRouted
  cases otherRouted
  rfl

/-- Clicks keep all lists, and keep at most one of them open. -/
theorem flagsAfter_invariant {entries : List Entry} (start : AtMostOneOpen (startFlags entries))
    (clicks : List Nat) :
    (flagsAfter entries clicks).length = entries.length ∧
      AtMostOneOpen (flagsAfter entries clicks) := by
  induction clicks using List.reverseRecOn with
  | nil => exact ⟨List.length_map _, start⟩
  | append_singleton clicks index ih =>
    rw [flagsAfter_concat, length_toggleAt]
    exact ⟨ih.1, atMostOneOpen_toggleAt _ index⟩

/-- The menu is an accordion after clicks, and after one more. -/
structure IsAccordion (entries : List Entry) (clicks : List Nat) : Prop where
  atMostOne : AtMostOneOpen (flagsAfter entries clicks)
  flagged : (flagsAfter entries clicks).length = entries.length
  /-- A click on a closed list opens it and no other. -/
  opens : ∀ index, (flagsAfter entries clicks)[index]? = some false →
    ∀ i, (flagsAfter entries (clicks ++ [index]))[i]? = some true ↔ i = index
  /-- A click on the open list, or on none, leaves no list open. -/
  closes : ∀ index, (flagsAfter entries clicks)[index]? = some true ∨ entries.length ≤ index →
    true ∉ flagsAfter entries (clicks ++ [index])
  /-- What the page shows at first agrees with the flags. -/
  marked : startFlags entries = entries.map Entry.isMarked

/-- Of the lists of a course menu at most one is open, on whatever page one enters and wherever
one clicks. -/
theorem clicks_keep_accordion (courseId : Id) (assignments : List Assignment) (isTeacher : Bool)
    (path : String) (clicks : List Nat) :
    IsAccordion (courseMenu courseId assignments isTeacher path) clicks := by
  obtain ⟨flagged, atMostOne⟩ :=
    flagsAfter_invariant (atMostOneOpen_startFlags courseId assignments isTeacher path) clicks
  generalize courseMenu courseId assignments isTeacher path = entries at flagged atMostOne
  refine ⟨atMostOne, flagged, ?_, ?_, ?_⟩
  · intro index closed i
    rw [flagsAfter_concat, getElem?_toggleAt_eq_true_iff]
    exact and_iff_left closed
  · intro index openOrOutside isOpen
    obtain ⟨i, here⟩ := List.getElem?_of_mem isOpen
    rw [flagsAfter_concat, getElem?_toggleAt_eq_true_iff] at here
    rcases openOrOutside with wasOpen | outside
    · simp [wasOpen] at here
    · rw [List.getElem?_eq_none (flagged ▸ outside)] at here
      exact absurd here.2 nofun
  · exact List.map_congr_left fun entry _ => entry.isMarked_eq.symm

/-- A teacher enters on the page of the members, clicks beside the lists, and opens the labs. -/
theorem clicks_keep_accordion_from_members :
    startFlags (courseMenu 4 outermostLabs true "/course/4/members/") = [false, false, true] ∧
      flagsAfter (courseMenu 4 outermostLabs true "/course/4/members/") [7] =
        [false, false, false] ∧
      ∀ i : Nat, (flagsAfter (courseMenu 4 outermostLabs true "/course/4/members/") [7, 0])[i]? =
        some true ↔ i = 0 := by
  have beside : flagsAfter (courseMenu 4 outermostLabs true "/course/4/members/") [7] =
      [false, false, false] := by
    decide +kernel
  refine ⟨by decide +kernel, beside, ?_⟩
  exact (clicks_keep_accordion 4 outermostLabs true "/course/4/members/" [7]).opens 0
    (by rw [beside]; rfl)

end Coursework.Navigation
