import Coursework.Proofs.Decimals
import Coursework.Route.Site

/-!
# Paths of the pages of a course

A path is written from its segments and taken apart into them again, and an identifier that is a
segment is read as itself. So the address that is built for a page is routed to that page:
`ofPath?_pathOf_course` for the first page of a course and `ofPath?_pathOf_page` for the others.
-/

namespace Coursework

/-- A text without a percent sign stands for itself. -/
theorem Url.percentDecode?_of_not_mem {s : String} (plain : '%' ∉ s.toList) :
    percentDecode? s = some s := by
  have bytes : ∀ cs : List Char, '%' ∉ cs → percentBytes cs = cs.flatMap String.utf8EncodeChar := by
    intro cs
    fun_induction percentBytes cs with
    | case1 => simp
    | case2 => simp
    | case3 c rest _ ih =>
      intro plain
      rw [List.mem_cons, not_or] at plain
      rw [ih plain.2, List.flatMap_cons]
    | case4 => simp
  have encoded : (⟨(s.toList.flatMap String.utf8EncodeChar).toArray⟩ : ByteArray) =
      s.toByteArray := by
    calc (⟨(s.toList.flatMap String.utf8EncodeChar).toArray⟩ : ByteArray)
        = s.toList.utf8Encode := ByteArray.ext List.data_toByteArray.symm
      _ = (String.ofList s.toList).toByteArray := String.toByteArray_ofList.symm
      _ = s.toByteArray := by rw [String.ofList_toList]
  unfold percentDecode?
  rw [bytes _ plain, encoded, String.fromUTF8?, dif_pos s.isValidUTF8]
  rfl

namespace Route

/-- The identifier in a segment is the one that was written there. -/
theorem segmentId?_toString (id : Id) : segmentId? (toString id) = some id := by
  have plain := Url.percentDecode?_of_not_mem
    (Numeral.not_mem_toString_uint64 (c := '%') (by decide) id)
  unfold segmentId? parameterId?
  rw [plain, Option.bind_some, plain, Option.bind_some, Numeral.readUInt64?_toString]

/-- A text that can stand between the slashes of a path. -/
structure IsSegment (segment : String) : Prop where
  nonempty : segment ≠ ""
  noSlash : '/' ∉ segment.toList

theorem isSegment_toString (id : Id) : IsSegment (toString id) where
  nonempty := by
    intro empty
    have digits : Nat.toDigits 10 id.toNat = [] := by
      rw [← Numeral.toList_toString_uint64, empty]
      rfl
    exact Nat.toDigits_ne_nil digits
  noSlash := Numeral.not_mem_toString_uint64 (by decide) id

theorem isSegment_course : IsSegment "course" := ⟨by decide, by decide⟩

/-- The path of segments. -/
def pathOf (segments : List String) : String := "/" ++ "/".intercalate segments

/-- What follows the first slash of a path falls into its segments, so it ends with one of them. -/
theorem toList_pathOf {segments : List String} (nonempty : segments ≠ [])
    (plain : ∀ segment ∈ segments, IsSegment segment) :
    ∃ cs, (pathOf segments).toList = '/' :: cs ∧ cs ≠ [] ∧ cs.getLast? ≠ some '/' ∧
      (cs.splitOn '/').map String.ofList = segments := by
  have split : (['/'].intercalate (segments.map String.toList)).splitOn '/' =
      segments.map String.toList := by
    refine List.splitOn_intercalate '/' ?_ (by simpa using nonempty)
    intro segment member
    obtain ⟨text, listed, rfl⟩ := List.mem_map.mp member
    exact (plain text listed).noSlash
  have noEmpty : [] ∉ segments.map String.toList := by
    intro member
    obtain ⟨text, listed, empty⟩ := List.mem_map.mp member
    exact (plain text listed).nonempty (String.toList_eq_nil_iff.mp empty)
  refine ⟨['/'].intercalate (segments.map String.toList), ?_, ?_, ?_, ?_⟩
  · rw [pathOf, String.toList_append, String.toList_intercalate]
    rfl
  · intro none
    rw [none, List.splitOn_nil] at split
    exact noEmpty (by simp [← split])
  · intro last
    obtain ⟨front, ends⟩ := List.getLast?_eq_some_iff.mp last
    rw [ends, List.splitOn_append_cons_self, List.splitOn_nil] at split
    exact noEmpty (by simp [← split])
  · rw [split, List.map_map]
    simp [Function.comp_def]

/-- The segments of a path are read back. -/
theorem segments?_pathOf {segments : List String} (nonempty : segments ≠ [])
    (plain : ∀ segment ∈ segments, IsSegment segment) :
    segments? (pathOf segments) = some segments := by
  obtain ⟨cs, path, filled, ends, split⟩ := toList_pathOf nonempty plain
  have noBlank : segments.contains "" = false := by
    simpa using fun member => (plain "" member).nonempty rfl
  unfold segments? dropLastSlash
  rw [path]
  simp only [if_neg ends, List.isEmpty_eq_false_iff.mpr filled, split, noBlank, Bool.false_eq_true,
    if_false]

/-- No path of segments ends in a slash. -/
theorem getLast?_pathOf {segments : List String} (nonempty : segments ≠ [])
    (plain : ∀ segment ∈ segments, IsSegment segment) :
    (pathOf segments).toList.getLast? ≠ some '/' := by
  obtain ⟨cs, path, filled, ends, _⟩ := toList_pathOf nonempty plain
  rw [path, List.getLast?_cons_of_ne_nil filled]
  exact ends

end Route

/-- The pages of courses are found in the whole site, since the first page of the site has no
segments. -/
theorem SitePage.ofPath?_of_course {path : String} {route : CourseRoute}
    (routed : CourseRoute.ofPath? path = some route) : ofPath? path = some (.course route) := by
  obtain ⟨segments, split, found⟩ := Option.bind_eq_some_iff.mp routed
  have sameRoutes : (CourseRoute.declared.map fun route =>
        (⟨route.patterns, course ∘ route.page⟩ : Route.Declared SitePage)).findSome?
          (·.page? segments) = some (.course route) := by
    have sameRoute : ((·.page? segments) ∘ fun route : Route.Declared CourseRoute =>
        (⟨route.patterns, course ∘ route.page⟩ : Route.Declared SitePage)) =
          Option.map course ∘ (·.page? segments) := by
      funext route
      simp [Route.Declared.page?]
    rw [List.findSome?_map, sameRoute, ← List.map_findSome?]
    exact congrArg (Option.map course) found
  rw [ofPath?, split, Option.bind_some, Route.firstPage?, declared, List.findSome?_cons]
  cases segments with
  | nil => cases found
  | cons segment rest => exact sameRoutes

/-- A path that has a route shows the page of that route, in the frame of the course. -/
theorem Route.screen_of_ofPath? {path : String} {route : CourseRoute}
    (routed : CourseRoute.ofPath? path = some route) :
    screen path = Screen.framed path route.page.screen := by
  rw [screen, SitePage.ofPath?_of_course routed]

namespace CourseRoute

theorem ofPath?_pathOf_course {course : String} (plain : Route.IsSegment course) :
    ofPath? (Route.pathOf ["course", course]) = some ⟨course, .labs⟩ := by
  have segments : ∀ segment ∈ ["course", course], Route.IsSegment segment := by
    simp [plain, Route.isSegment_course]
  rw [ofPath?, Route.segments?_pathOf (by simp) segments]
  rfl

/-- The path of a page is routed to the first page that is declared for the segment. -/
theorem ofPath?_pathOf_page {course segment : String} (plain : Route.IsSegment course)
    (plainPage : Route.IsSegment segment) :
    ofPath? (Route.pathOf ["course", course, segment]) =
      Route.firstPage? declared ["course", course, segment] := by
  have segments : ∀ text ∈ ["course", course, segment], Route.IsSegment text := by
    simp [plain, plainPage, Route.isSegment_course]
  rw [ofPath?, Route.segments?_pathOf (by simp) segments, Option.bind_some]

/-- A word for no page is the identifier of a lab. -/
theorem firstPage?_lab (course : String) (id : Id) :
    Route.firstPage? declared ["course", course, toString id] =
      some ⟨course, .lab (toString id)⟩ := by
  have noWord (word : String) (c : Char) (member : c ∈ word.toList) (noDigit : c.isDigit = false) :
      toString id ≠ word := Numeral.toString_uint64_ne member noDigit id
  have members := noWord "members" 'm' (by decide) (by decide)
  have results := noWord "results" 'r' (by decide) (by decide)
  have review := noWord "review" 'r' (by decide) (by decide)
  have group := noWord "group" 'g' (by decide) (by decide)
  have ofCourse :
      Route.Parameters.segment [("id", course), ("lab", toString id)] "id" = course := rfl
  have ofLab : Route.Parameters.segment [("id", course), ("lab", toString id)] "lab" =
      toString id := rfl
  simp [Route.firstPage?, declared, CoursePage.declared, Route.Declared.page?, Route.parameters?,
    ofCourse, ofLab, members, results, review, group]

end CourseRoute

end Coursework
