import Coursework.Api.Sent
import Coursework.Proofs.DocumentRoundTrip
import Coursework.Proofs.EndpointPaths
import Coursework.Proofs.WrittenDocuments

/-!
# Bodies of calls say what they are about

`text_says_all` says what a backend reads in the text of a body: the stored group or review itself,
and for a new group an object with three fields, which hold the course, the members and the name.
No character of a name and no size of an identifier makes a difference. So a planned request is
known from what it sends (`Request.eq_of_sent_eq`): the path tells its kind and the resource, and
the text of the body all that is left.

A codec `ComesThrough` if its documents fit the reader and are decoded also with their fields in
the order in which the reader leaves them. As with the law of codecs, the combinators keep this,
and the types are built up from the inner ones; each list and each record takes one more level.
-/

namespace Coursework

namespace Json

/-- The values of a type come through the text of their documents, with `depth` levels of room. -/
structure Codec.ComesThrough {α : Type} (codec : Codec α) (depth : Nat) : Prop where
  fits : ∀ value, Fits depth (codec.encode value)
  decodes : ∀ value, codec.decode (codec.encode value).ordered = .ok value

namespace Codec

/-- What the text of a value's document is read as is decoded as that value. -/
theorem ComesThrough.read?_text {α : Type} {codec : Codec α}
    (comesThrough : codec.ComesThrough deepest) (value : α) :
    ∃ document, read? (codec.encode value).text = some document ∧
      codec.decode document = .ok value :=
  ⟨_, Json.read?_text (comesThrough.fits value), comesThrough.decodes value⟩

/-- A value is known from its document, whatever the order of the fields. -/
theorem ComesThrough.eq_of_ordered_eq {α : Type} {codec : Codec α} {depth : Nat}
    (comesThrough : codec.ComesThrough depth) {first second : α}
    (same : (codec.encode first).ordered = (codec.encode second).ordered) : first = second := by
  have decoded := comesThrough.decodes first
  rw [same, comesThrough.decodes second] at decoded
  exact (Except.ok.inj decoded).symm

section

variable {α : Type} (depth : Nat)

@[simp] theorem comesThrough_uint64 : uint64.ComesThrough depth where
  fits value := .natural (Nat.le_of_lt_succ value.toNat_lt)
  decodes := lawful_uint64

@[simp] theorem comesThrough_uint32 : uint32.ComesThrough depth where
  fits value := by
    have small : value.toNat ≤ Numeral.greatest32 := Nat.le_of_lt_succ value.toNat_lt
    exact .natural (Nat.le_trans small (by decide))
  decodes := lawful_uint32

@[simp] theorem comesThrough_bool : bool.ComesThrough depth where
  fits _ := .bool
  decodes := lawful_bool

@[simp] theorem comesThrough_string : string.ComesThrough depth where
  fits _ := .string
  decodes := lawful_string

theorem comesThrough_enumeration {name : α → String} {values : List α}
    (lawful : (enumeration name values).Lawful) :
    (enumeration name values).ComesThrough depth where
  fits _ := .string
  decodes := lawful

variable {depth}

theorem comesThrough_list {item : Codec α} (comesThrough : item.ComesThrough depth) :
    (list item).ComesThrough (depth + 1) where
  fits values := by
    refine .array ?_
    intro document member
    obtain ⟨value, _, rfl⟩ := List.mem_map.mp member
    exact comesThrough.fits value
  decodes values := by
    change (orderedItems (values.map item.encode)).mapM item.decode = .ok values
    induction values with
    | nil => rfl
    | cons value rest ih =>
      rw [List.map_cons, orderedItems, List.mapM_cons, comesThrough.decodes value, ih]
      rfl

end

end Codec

/-- A record comes through if its fields do, one level further in. -/
theorem Record.comesThrough {ρ : Type} {type : Record ρ} {depth : Nat}
    (fields : ∀ f ∈ type.layout.fields, f.codec.ComesThrough depth) :
    type.codec.ComesThrough (depth + 1) where
  fits record := by
    refine .object ?_
    intro field member
    rw [Layout.write_eq] at member
    obtain ⟨f, known, rfl⟩ := List.mem_map.mp member
    exact (fields f known).fits (f.value record)
  decodes record := by
    have distinct : ((type.layout.write record).map Prod.fst).Nodup := by
      rw [Layout.map_fst_write]
      exact type.names_nodup
    have readBack : (orderedFields [] (type.layout.write record)).Perm
        ((type.layout.write record).map fun field => (field.1, field.2.ordered)) :=
      orderedFields_perm distinct
    change type.codec.decode (.object (orderedFields [] (type.layout.write record))) = .ok record
    refine decode_object_of_mem ?_ ?_
    · refine (readBack.map Prod.fst).nodup_iff.mpr ?_
      rwa [List.map_map]
    · intro f isField
      refine ⟨_, ?_, (fields f isField).decodes (f.value record)⟩
      refine readBack.mem_iff.mpr (List.mem_map.mpr ⟨_, Layout.mem_write isField record, rfl⟩)

end Json

namespace Wire

open Json

variable (depth : Nat)

@[simp] theorem comesThrough_enrollmentStatus : enrollmentStatus.ComesThrough depth :=
  Codec.comesThrough_enumeration depth lawful_enrollmentStatus

@[simp] theorem comesThrough_groupStatus : groupStatus.ComesThrough depth :=
  Codec.comesThrough_enumeration depth lawful_groupStatus

@[simp] theorem comesThrough_criterionGrade : criterionGrade.ComesThrough depth :=
  Codec.comesThrough_enumeration depth lawful_criterionGrade

theorem comesThrough_user : user.ComesThrough (depth + 1) :=
  Record.comesThrough (by simp [userRecord, Layout.fields])

theorem comesThrough_group : group.ComesThrough (depth + 3) := by
  have members : (Codec.list user).ComesThrough (depth + 2) :=
    Codec.comesThrough_list (comesThrough_user depth)
  exact Record.comesThrough (by simp [groupRecord, Layout.fields, members])

theorem comesThrough_criterion : criterion.ComesThrough (depth + 1) :=
  Record.comesThrough (by simp [criterionRecord, Layout.fields])

theorem comesThrough_benchmark : benchmark.ComesThrough (depth + 3) := by
  have criteria : (Codec.list criterion).ComesThrough (depth + 2) :=
    Codec.comesThrough_list (comesThrough_criterion depth)
  exact Record.comesThrough (by simp [benchmarkRecord, Layout.fields, criteria])

theorem comesThrough_review : review.ComesThrough (depth + 5) := by
  have benchmarks : (Codec.list benchmark).ComesThrough (depth + 4) :=
    Codec.comesThrough_list (comesThrough_benchmark depth)
  exact Record.comesThrough (by simp [reviewRecord, Layout.fields, benchmarks])

end Wire

namespace Api.Body

open Json

/-- Five levels are room enough for every body. -/
theorem fits_document (depth : Nat) (body : Body) : Fits (depth + 5) body.document := by
  cases body with
  | enrollmentStatus status =>
    have role := (Wire.comesThrough_enrollmentStatus (depth + 4)).fits status
    exact .object (by simpa using role)
  | createGroup courseId userIds name =>
    have course := (Codec.comesThrough_uint64 (depth + 4)).fits courseId
    have members :=
      (Codec.comesThrough_list (Codec.comesThrough_uint64 (depth + 3))).fits userIds
    exact .object (by simpa using ⟨course, members, Fits.string⟩)
  | release released => exact .object (by simpa using Fits.bool)
  | group stored => exact (Wire.comesThrough_group (depth + 2)).fits stored
  | review stored => exact (Wire.comesThrough_review depth).fits stored

/-- The text of a body is read as its document, with the fields of objects in order. -/
theorem read?_text (body : Body) : read? body.text = some body.document.ordered :=
  Json.read?_text (body.fits_document 122)

/-- The fields of a new group's body, in the order of their names. -/
theorem ordered_createGroup (courseId : Id) (userIds : List Id) (name : String) :
    (createGroup courseId userIds name).document.ordered =
      .object [("course_id", .natural courseId.toNat), ("name", .string name),
        ("user_ids", .array (userIds.map fun id => .natural id.toNat))] := by
  have byName : ∀ course members title : Json,
      orderedFields [] [("course_id", course), ("user_ids", members), ("name", title)] =
        [("course_id", course.ordered), ("name", title.ordered),
          ("user_ids", members.ordered)] := by
    intro course members title
    have order : ¬ "user_ids" < "course_id" ∧ ¬ "name" < "course_id" ∧ "name" < "user_ids" := by
      decide
    simp [orderedFields, insertField, order]
  have members : ((Codec.list .uint64).encode userIds).ordered =
      .array (userIds.map fun id => .natural id.toNat) := by
    change array (orderedItems (userIds.map fun id => natural id.toNat)) = _
    rw [orderedItems_eq_map, List.map_map]
    rfl
  rw [document, ordered, byName, members]
  rfl

/-- The text of a stored group or review is read back as exactly that, and the text of a new group
as an object of exactly three fields with the values that were given. -/
theorem text_says_all :
    (∀ stored : Group, ∃ document,
      read? (group stored).text = some document ∧ Wire.group.decode document = .ok stored) ∧
    (∀ stored : Review, ∃ document,
      read? (review stored).text = some document ∧ Wire.review.decode document = .ok stored) ∧
    ∀ courseId userIds name,
      read? (createGroup courseId userIds name).text =
        some (.object [("course_id", .natural courseId.toNat), ("name", .string name),
          ("user_ids", .array (userIds.map fun id => .natural id.toNat))]) := by
  refine ⟨?_, ?_, ?_⟩
  · intro stored
    exact (Wire.comesThrough_group 124).read?_text stored
  · intro stored
    exact (Wire.comesThrough_review 122).read?_text stored
  · intro courseId userIds name
    rw [read?_text, ordered_createGroup]

/-- A single field is in order. -/
theorem ordered_single (name : String) (value : Json) :
    (Json.object [(name, value)]).ordered = .object [(name, value.ordered)] := by
  simp [ordered, orderedFields, insertField]

/-- Bodies of one text are read as one document. -/
theorem ordered_eq_of_text_eq {first second : Body} (same : first.text = second.text) :
    first.document.ordered = second.document.ordered := by
  have documents := first.read?_text
  rw [same, second.read?_text] at documents
  exact (Option.some.inj documents).symm

theorem enrollmentStatus_inj_text {first second : EnrollmentStatus}
    (same : (enrollmentStatus first).text = (enrollmentStatus second).text) : first = second := by
  have documents := ordered_eq_of_text_eq same
  rw [document, document, ordered_single, ordered_single] at documents
  refine (Wire.comesThrough_enrollmentStatus 0).eq_of_ordered_eq ?_
  simpa only [object.injEq, List.cons.injEq, Prod.mk.injEq, true_and, and_true] using documents

theorem release_inj_text {first second : Bool}
    (same : (release first).text = (release second).text) : first = second := by
  have documents := ordered_eq_of_text_eq same
  rw [document, document, ordered_single, ordered_single] at documents
  simpa [ordered] using documents

/-- The course of a new group is also in the path, so only the rest is of interest. -/
theorem createGroup_inj_text {courseId : Id} {firstIds secondIds : List Id}
    {firstName secondName : String}
    (same : (createGroup courseId firstIds firstName).text =
      (createGroup courseId secondIds secondName).text) :
    firstIds = secondIds ∧ firstName = secondName := by
  have documents := ordered_eq_of_text_eq same
  rw [ordered_createGroup, ordered_createGroup] at documents
  simp only [object.injEq, List.cons.injEq, Prod.mk.injEq, string.injEq, array.injEq, true_and,
    and_true] at documents
  refine ⟨?_, documents.1⟩
  refine List.map_injective_iff.mpr ?_ documents.2
  intro first second number
  exact (Codec.comesThrough_uint64 0).eq_of_ordered_eq number

end Api.Body

/-- A request is known from the path that it calls and the text that it sends. -/
theorem Request.eq_of_sent_eq {first second : Request}
    (path : first.sent.path = second.sent.path)
    (text : first.sent.text? = second.sent.text?) : first = second := by
  have endpoint : first.sent.endpoint = second.sent.endpoint := Api.Endpoint.eq_of_path_eq path
  -- The resources are of different kinds unless the requests are of one kind.
  cases first <;> cases second <;> simp [sent] at endpoint
  case updateEnrollment.updateEnrollment =>
    obtain ⟨rfl, rfl⟩ := endpoint
    rw [Api.Body.enrollmentStatus_inj_text (Option.some.inj text)]
  case createGroup.createGroup =>
    obtain rfl := endpoint
    obtain ⟨rfl, rfl⟩ := Api.Body.createGroup_inj_text (Option.some.inj text)
    rfl
  case updateGroup.updateGroup =>
    have documents := Api.Body.ordered_eq_of_text_eq (Option.some.inj text)
    rw [(Wire.comesThrough_group 0).eq_of_ordered_eq documents]
  case fetchSubmission.fetchSubmission =>
    obtain ⟨rfl, rfl⟩ := endpoint
    rfl
  case updateReview.updateReview =>
    have documents := Api.Body.ordered_eq_of_text_eq (Option.some.inj text)
    obtain ⟨rfl, -⟩ := endpoint
    rw [(Wire.comesThrough_review 0).eq_of_ordered_eq documents]
  case release.release =>
    obtain ⟨rfl, rfl⟩ := endpoint
    rw [Api.Body.release_inj_text (Option.some.inj text)]

end Coursework
