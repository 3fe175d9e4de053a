import Coursework.Proofs.DeclaredFields

/-!
# The two forms of a record

A record is read from an object by the names of its fields, or from an array by their order.
`RecordType.formLaws` says for every type of records, by its declared fields, that the two readers
agree, and what comes out of them: a field that is there is read for itself, and one that is not is
blank.

The reader of an array gives up at the first field without an item, unless all fields from there
on may be absent. The object that pairs the first names with the items lacks just these fields.
The induction that compares the two is on the layout. A step drops the member that was read from
the object, which the remaining fields cannot notice since their names are others.
-/

namespace Coursework

namespace Json

variable {ρ κ : Type}

namespace Layout

variable {layout : Layout ρ κ} {make : κ} {record : ρ}

/-- The names of fields that are paired with items are among all of them. -/
theorem not_mem_zip {names : List String} {name : String} (fresh : name ∉ names)
    (items : List Json) : name ∉ (names.zip items).map Prod.fst := by
  intro listed
  obtain ⟨⟨_, item⟩, member, rfl⟩ := List.mem_map.mp listed
  exact fresh (List.of_mem_zip member).1

/-- An array is read as the object that pairs the names of the fields with its items. -/
theorem ofItems_eq_ok_iff (short : Nat → Fault) (long : Fault) (position : Nat)
    (distinct : layout.names.Nodup) (items : List Json) :
    ofItems short long position layout make items = .ok record ↔
      items.length ≤ layout.names.length ∧
        layout.ofFields make (layout.names.zip items) = .ok record := by
  induction layout generalizing position items with
  | done => cases items <;> simp [ofItems, names, ofFields_done]
  | field name codec absent value rest ih =>
    obtain ⟨fresh, restDistinct⟩ := List.nodup_cons.mp distinct
    cases items with
    | nil =>
      -- Without items the object is empty, so all fields from here on are absent from it.
      rw [ofItems.eq_def, ofFields_field_eq_ok_iff fresh]
      cases absent with
      | none => simp [Field.ReadsAs, names]
      | some blank => simp [Field.ReadsAs, names, ih _ restDistinct]
    | cons item items =>
      have only : valuesOf ((name, item) :: rest.names.zip items) name = [item] := by
        rw [valuesOf_cons_self, valuesOf_eq_nil (not_mem_zip fresh items)]
      -- The fields after this one do not see its member.
      have passed : ∀ make, rest.ofFields make ((name, item) :: rest.names.zip items) =
          rest.ofFields make (rest.names.zip items) := fun _ => ofFields_cons_of_not_mem fresh
      rw [ofItems.eq_def, names, List.zip_cons_cons, ofFields_field_eq_ok_iff fresh]
      simp only [passed, Field.ReadsAs, only]
      cases codec.decode item with
      | error fault => simp
      | ok first => simp [ih _ restDistinct]

end Layout

namespace Record

variable {type : Record ρ}

theorem decode_array (type : Record ρ) (items : List Json) :
    type.codec.decode (.array items) = type.layout.ofArray type.name type.make items := rfl

theorem decode_array_eq_ok_iff {items : List Json} {record : ρ} :
    type.codec.decode (.array items) = .ok record ↔
      items.length ≤ type.layout.names.length ∧
        type.codec.decode (.object (type.layout.names.zip items)) = .ok record := by
  rw [decode_array, decode_object]
  exact Layout.ofItems_eq_ok_iff _ _ 0 type.names_nodup items

/-- There are two forms only. -/
theorem form_of_decode {document : Json} {record : ρ}
    (decoded : type.codec.decode document = .ok record) :
    (∃ items, document = .array items) ∨ ∃ members, document = .object members := by
  cases document with
  | array items => exact .inl ⟨items, rfl⟩
  | object members => exact .inr ⟨members, rfl⟩
  | _ => cases decoded

end Record

end Json

namespace Wire

open Json

/-- What the two forms of a record have to do with each other and with the declared fields, for
the reader of a type of records. -/
structure FormLaws {ρ : Type} (codec : Codec ρ) (declared : List (Declared ρ)) : Prop where
  /-- A field is known by its name. -/
  distinct : (declared.map (·.name)).Nodup
  /-- Only arrays and objects are read. -/
  forms : ∀ document record, codec.decode document = .ok record →
    (∃ items, document = .array items) ∨ ∃ members, document = .object members
  /-- An array is read as the object that has its items under the names of the fields, and is
  refused if it has more items than there are fields. -/
  array : ∀ items record, codec.decode (.array items) = .ok record ↔
    items.length ≤ declared.length ∧
      codec.decode (.object ((declared.map (·.name)).zip items)) = .ok record
  /-- An object can be read exactly if each field that is there can be read, stands there once,
  and no other field is required. -/
  readable : ∀ members, (∃ record, codec.decode (.object members) = .ok record) ↔
    ∀ field ∈ declared, field.Readable members
  /-- The record that is read has the values of the fields that are there, and else blank ones. -/
  object : ∀ members record, codec.decode (.object members) = .ok record ↔
    ∀ field ∈ declared, field.FilledFrom members record
  /-- What is read, or why it is refused, does not depend on unknown fields. -/
  unknown : ∀ members, codec.decode (.object members) =
    codec.decode (.object (members.filter (·.1 ∈ declared.map (·.name))))

namespace RecordType

/-- For every type of records: an array and the object of the same fields are read alike. What is
read are the fields that are there, each for itself, with blank values for those that are not. -/
theorem formLaws (type : RecordType) : FormLaws type.record.codec type.declared where
  distinct := type.names_layout ▸ type.record.names_nodup
  forms _ _ := Record.form_of_decode
  array items record := by
    rw [Record.decode_array_eq_ok_iff, names_layout, List.length_map]
  readable members := by
    rw [Record.exists_decode_object_iff, fields_layout, List.forall_mem_map]
    exact forall₂_congr fun _ _ => Declared.readable_field_iff
  object members record := by
    rw [Record.decode_object_eq_ok_iff, fields_layout, List.forall_mem_map]
    exact forall₂_congr fun _ _ => Declared.readsAs_field_iff
  unknown members := by
    have same : type.record.layout.known members =
        members.filter (·.1 ∈ type.declared.map (·.name)) := by
      rw [Layout.known, names_layout]
    rw [← same, Record.decode_object, Record.decode_object, Layout.ofFields_known]

/-- The creator of a course comes after two fields that may be absent, so an array needs items for
these. The last field can be left out, and no field can stand there twice. -/
theorem formLaws_of_course :
    courseRecord.codec.decode
        (.array [.natural 5, .string "Logic", .string "", .natural 0, .natural 9]) =
      .ok ⟨5, "Logic", "", 0, 9, 0⟩ ∧
    (∀ read, courseRecord.codec.decode (.array [.natural 5, .string "Logic"]) ≠ .ok read) ∧
    ∀ read, courseRecord.codec.decode
      (.object [("id", .natural 5), ("name", .string "Logic"), ("course_creator_id", .natural 9),
        ("id", .natural 6)]) ≠ .ok read := by
  have laws : FormLaws courseRecord.codec course.declared := formLaws .course
  have identifier : .required "id" .uint64 Course.id ∈ course.declared := .head _
  have creator : .required "course_creator_id" .uint64 Course.creatorId ∈ course.declared := by
    simp [declared]
  refine ⟨(laws.array _ _).mpr ⟨by decide, rfl⟩, ?_, ?_⟩
  · intro read isRead
    obtain ⟨_, asObject⟩ := (laws.array _ _).mp isRead
    obtain ⟨mayBeAbsent, _⟩ := (laws.object _ _).mp asObject _ creator
    exact Bool.noConfusion mayBeAbsent
  · intro read isRead
    exact (laws.object _ _).mp isRead _ identifier

end RecordType

end Wire

end Coursework
