import Mathlib.Data.List.Nodup
import Coursework.Json.Record

/-!
# Reading records field by field

The reader of an object goes through its members and then through the fields of a record, and
stops at the first that it cannot read. `Record.decode_object_eq_ok_iff` says what that comes to,
without an order: an object is read as a record exactly if each field, for itself, is read as the
value that it has in the record. Nothing else of the object counts.

Members go to the slots of their names, so a field sees the values under its own name, in their
order, and its slot is filled as if there were no other field (`readMembers_field_eq_ok_iff`). The
inductions on the layout say which values the fields are read as, and the two laws of a `Record`
then turn values into a record and back.
-/

namespace Coursework.Json

variable {ρ κ : Type}

/-- Where names are distinct, what is listed under a name is found there. -/
theorem lookup_of_mem {α : Type} {entries : List (String × α)} {name : String} {value : α}
    (distinct : (entries.map Prod.fst).Nodup) (member : (name, value) ∈ entries) :
    entries.lookup name = some value := by
  induction entries with
  | nil => cases member
  | cons entry rest ih =>
    obtain ⟨fresh, restDistinct⟩ := List.nodup_cons.mp distinct
    rw [List.lookup_cons]
    rcases List.mem_cons.mp member with rfl | later
    · simp
    · have differs : name ≠ entry.1 := by
        intro same
        exact fresh (same ▸ List.mem_map_of_mem later)
      simp [beq_eq_false_iff_ne.mpr differs, ih restDistinct later]

/-! ## The values under a name -/

/-- The values of the members of that name, in their order. -/
def valuesOf (members : List (String × Json)) (name : String) : List Json :=
  (members.filter (·.1 = name)).map Prod.snd

@[simp] theorem valuesOf_nil (name : String) : valuesOf [] name = [] := rfl

@[simp] theorem valuesOf_cons_self (name : String) (document : Json)
    (members : List (String × Json)) :
    valuesOf ((name, document) :: members) name = document :: valuesOf members name := by
  simp [valuesOf]

theorem valuesOf_cons_of_ne {member : String × Json} {name : String} (differs : member.1 ≠ name)
    (members : List (String × Json)) :
    valuesOf (member :: members) name = valuesOf members name := by
  simp [valuesOf, differs]

theorem valuesOf_eq_nil {members : List (String × Json)} {name : String}
    (absent : name ∉ members.map Prod.fst) : valuesOf members name = [] := by
  rw [valuesOf, List.map_eq_nil_iff, List.filter_eq_nil_iff]
  intro member listed same
  exact absent (List.mem_map.mpr ⟨member, listed, of_decide_eq_true same⟩)

/-- Where names are distinct, a member is the only one of its name. -/
theorem valuesOf_of_mem {members : List (String × Json)} {name : String} {document : Json}
    (distinct : (members.map Prod.fst).Nodup) (listed : (name, document) ∈ members) :
    valuesOf members name = [document] := by
  induction members with
  | nil => cases listed
  | cons member rest ih =>
    obtain ⟨fresh, restDistinct⟩ := List.nodup_cons.mp distinct
    rcases List.mem_cons.mp listed with rfl | later
    · rw [valuesOf_cons_self, valuesOf_eq_nil fresh]
    · have differs : member.1 ≠ name := by
        intro same
        exact fresh (same ▸ List.mem_map_of_mem later)
      rw [valuesOf_cons_of_ne differs, ih restDistinct later]

namespace Field

variable {field : Field ρ} {members : List (String × Json)}

/-- Among the members of an object a field is read as a value: there is one member of its name and
that is read so, or there is none and the value is that of an absent field. -/
def ReadsAs (field : Field ρ) (members : List (String × Json)) (value : field.Value) : Prop :=
  match valuesOf members field.name with
  | [] => field.absent = some value
  | [document] => field.codec.decode document = .ok value
  | _ => False

/-- Among the members of an object a field can be read: there is one member of its name and that
can, or there is none and the field may be absent. -/
def Readable (field : Field ρ) (members : List (String × Json)) : Prop :=
  match valuesOf members field.name with
  | [] => field.absent ≠ none
  | [document] => ∃ value, field.codec.decode document = .ok value
  | _ => False

theorem readable_iff : field.Readable members ↔ ∃ value, field.ReadsAs members value := by
  unfold Readable ReadsAs
  rcases valuesOf members field.name with _ | ⟨document, _ | ⟨second, more⟩⟩
  · exact Option.ne_none_iff_exists'
  · rfl
  · simp

end Field

namespace Layout

variable {layout : Layout ρ κ} {make : κ} {members others : List (String × Json)} {record : ρ}

theorem names_eq (layout : Layout ρ κ) : layout.names = layout.fields.map (·.name) := by
  induction layout with
  | done => rfl
  | field name codec absent value rest ih => exact congrArg (name :: ·) ih

theorem write_eq (layout : Layout ρ κ) (record : ρ) :
    layout.write record = layout.fields.map fun f => (f.name, f.codec.encode (f.value record)) := by
  induction layout with
  | done => rfl
  | field name codec absent value rest ih => exact congrArg (_ :: ·) ih

/-- The names of the members of a written record are those of the fields. -/
theorem map_fst_write (layout : Layout ρ κ) (record : ρ) :
    (layout.write record).map Prod.fst = layout.names := by
  rw [write_eq, names_eq, List.map_map]
  rfl

/-- A written record has each field under its name. -/
theorem mem_write {f : Field ρ} (member : f ∈ layout.fields) (record : ρ) :
    (f.name, f.codec.encode (f.value record)) ∈ layout.write record := by
  rw [write_eq]
  exact List.mem_map_of_mem member

/-! ## Slots -/

theorem readMember_of_not_mem {member : String × Json} (foreign : member.1 ∉ layout.names)
    (slots : layout.Slots) : layout.readMember member slots = .ok slots := by
  induction layout with
  | done => rfl
  | field name codec absent value rest ih =>
    obtain ⟨differs, restForeign⟩ := not_or.mp (mt List.mem_cons.mpr foreign)
    rw [readMember, if_neg differs, ih restForeign]
    rfl

/-- What a field makes of the values under its name. -/
def readValues {β : Type} (name : String) (codec : Codec β) (slot : Option β)
    (documents : List Json) : Except Fault (Option β) :=
  documents.foldlM (readOnce name codec) slot

/-- A field that has a value takes no second one. -/
theorem readValues_some_eq_ok_iff {β : Type} {name : String} {codec : Codec β} {value : β}
    {documents : List Json} {slot : Option β} :
    readValues name codec (some value) documents = .ok slot ↔
      documents = [] ∧ slot = some value := by
  cases documents with
  | nil => simp [readValues, pure, Except.pure, eq_comm]
  | cons document rest => simp [readValues, readOnce, bind, Except.bind]

theorem readValues_none_eq_ok_iff {β : Type} {name : String} {codec : Codec β}
    {documents : List Json} {slot : Option β} :
    readValues name codec none documents = .ok slot ↔
      documents = [] ∧ slot = none ∨
        ∃ document value,
          documents = [document] ∧ codec.decode document = .ok value ∧ slot = some value := by
  cases documents with
  | nil => simp [readValues, pure, Except.pure, eq_comm]
  | cons document rest =>
    have first : readValues name codec none (document :: rest) =
        codec.decode document >>= fun value => readValues name codec (some value) rest := by
      rw [readValues, List.foldlM_cons, readOnce]
      cases codec.decode document <;> rfl
    rw [first]
    cases decoded : codec.decode document with
    | error fault => simp [bind, Except.bind, decoded]
    | ok value =>
      simp [bind, Except.bind, readValues_some_eq_ok_iff, decoded]

/-- The slot of a field is filled from the values under its name, the others from the members as
they are: a name belongs to one field only. -/
theorem readMembers_field_eq_ok_iff {β : Type} {name : String} {codec : Codec β}
    {absent : Option β} {value : ρ → β} {rest : Layout ρ κ} (fresh : name ∉ rest.names)
    {before after : (field name codec absent value rest).Slots} :
    (field name codec absent value rest).readMembers before members = .ok after ↔
      readValues name codec before.1 (valuesOf members name) = .ok after.1 ∧
        rest.readMembers before.2 members = .ok after.2 := by
  induction members generalizing before with
  | nil =>
    have split : before = after ↔ before.1 = after.1 ∧ before.2 = after.2 := Prod.ext_iff
    simp [readMembers, readValues, pure, Except.pure, split]
  | cons member members ih =>
    obtain ⟨key, document⟩ := member
    rw [readMembers, readMembers, List.foldlM_cons, List.foldlM_cons, readMember]
    by_cases same : key = name
    · -- The other fields do not see this member, since none of them has its name.
      subst same
      rw [if_pos rfl, readMember_of_not_mem fresh, valuesOf_cons_self, readValues,
        List.foldlM_cons]
      cases readOnce key codec before.1 document with
      | error fault => simp [bind, Except.bind, Functor.map, Except.map]
      | ok slot => exact ih
    · rw [if_neg same, valuesOf_cons_of_ne same]
      cases rest.readMember (key, document) before.2 with
      | error fault => simp [bind, Except.bind, Functor.map, Except.map]
      | ok slots => exact ih

/-- The fields of a layout are read as values. -/
def ReadsAs (members : List (String × Json)) :
    {κ : Type} → (layout : Layout ρ κ) → layout.Values → Prop
  | _, done, _ => True
  | _, field name codec absent value rest, values =>
    Field.ReadsAs ⟨_, name, codec, absent, value⟩ members values.1 ∧
      rest.ReadsAs members values.2

/-- A slot that was filled, or the value of an absent field, is what the field is read as. -/
theorem readsAs_iff_slot {field : Field ρ} {value : field.Value} :
    field.ReadsAs members value ↔
      ∃ slot, readValues field.name field.codec none (valuesOf members field.name) = .ok slot ∧
        slot.or field.absent = some value := by
  unfold Field.ReadsAs
  simp only [readValues_none_eq_ok_iff]
  rcases valuesOf members field.name with _ | ⟨document, _ | ⟨second, more⟩⟩
  · simp
  · simp
  · simp

/-- Each slot in its turn gives a value or the fault of a missing field. -/
theorem ofSlots_field_eq_ok_iff {β : Type} {name : String} {codec : Codec β} {absent : Option β}
    {value : ρ → β} {rest : Layout ρ κ} {make : β → κ}
    {slots : (field name codec absent value rest).Slots} :
    (field name codec absent value rest).ofSlots make slots = .ok record ↔
      ∃ first, slots.1.or absent = some first ∧ rest.ofSlots (make first) slots.2 = .ok record := by
  rw [ofSlots]
  cases slots.1.or absent <;> simp

theorem ofFields_eq_ok_iff_slots :
    layout.ofFields make members = .ok record ↔
      ∃ slots, layout.readMembers layout.emptySlots members = .ok slots ∧
        layout.ofSlots make slots = .ok record := by
  unfold ofFields
  cases layout.readMembers layout.emptySlots members <;> simp [bind, Except.bind]

/-- The first field is read for itself, and the rest of the fields as a record of their own. -/
theorem ofFields_field_eq_ok_iff {β : Type} {name : String} {codec : Codec β}
    {absent : Option β} {value : ρ → β} {rest : Layout ρ κ} {make : β → κ}
    (fresh : name ∉ rest.names) :
    (field name codec absent value rest).ofFields make members = .ok record ↔
      ∃ first, Field.ReadsAs ⟨β, name, codec, absent, value⟩ members first ∧
        rest.ofFields (make first) members = .ok record := by
  simp only [ofFields_eq_ok_iff_slots, readsAs_iff_slot]
  constructor
  · rintro ⟨slots, read, made⟩
    obtain ⟨readFirst, readRest⟩ := (readMembers_field_eq_ok_iff fresh).mp read
    obtain ⟨first, filled, madeRest⟩ := ofSlots_field_eq_ok_iff.mp made
    exact ⟨first, ⟨slots.1, readFirst, filled⟩, slots.2, readRest, madeRest⟩
  · rintro ⟨first, ⟨slot, readFirst, filled⟩, slots, readRest, madeRest⟩
    exact ⟨(slot, slots), (readMembers_field_eq_ok_iff fresh).mpr ⟨readFirst, readRest⟩,
      ofSlots_field_eq_ok_iff.mpr ⟨first, filled, madeRest⟩⟩

theorem ofFields_cons_of_not_mem {member : String × Json} (foreign : member.1 ∉ layout.names) :
    layout.ofFields make (member :: members) = layout.ofFields make members := by
  rw [ofFields, ofFields, readMembers, List.foldlM_cons, readMember_of_not_mem foreign]
  rfl

theorem ofFields_done {make : ρ} : (done : Layout ρ ρ).ofFields make members = .ok make := by
  induction members with
  | nil => rfl
  | cons member rest ih =>
    rw [ofFields_cons_of_not_mem List.not_mem_nil, ih]

/-- A record is read exactly if it is made of values that the fields are read as. -/
theorem ofFields_eq_ok_iff (distinct : layout.names.Nodup) :
    layout.ofFields make members = .ok record ↔
      ∃ values, layout.ReadsAs members values ∧ layout.fill make values = record := by
  induction layout with
  | done =>
    simp [ofFields_done, ReadsAs, fill, Values]
  | field name codec absent value rest ih =>
    obtain ⟨fresh, restDistinct⟩ := List.nodup_cons.mp distinct
    rw [ofFields_field_eq_ok_iff fresh]
    constructor
    · rintro ⟨first, reads, made⟩
      obtain ⟨values, restReads, filled⟩ := (ih restDistinct).mp made
      exact ⟨(first, values), ⟨reads, restReads⟩, filled⟩
    · rintro ⟨values, ⟨reads, restReads⟩, filled⟩
      exact ⟨values.1, reads, (ih restDistinct).mpr ⟨values.2, restReads, filled⟩⟩

theorem readsAs_values_iff :
    layout.ReadsAs members (layout.values record) ↔
      ∀ f ∈ layout.fields, f.ReadsAs members (f.value record) := by
  induction layout with
  | done => simp [ReadsAs, fields]
  | field name codec absent value rest ih => simp [ReadsAs, fields, values, ih]

theorem exists_readsAs_iff :
    (∃ values, layout.ReadsAs members values) ↔ ∀ f ∈ layout.fields, f.Readable members := by
  induction layout with
  | done => simp [ReadsAs, fields, Values]
  | field name codec absent value rest ih =>
    rw [fields, List.forall_mem_cons, ← ih, Field.readable_iff]
    constructor
    · rintro ⟨values, reads, restReads⟩
      exact ⟨⟨values.1, reads⟩, values.2, restReads⟩
    · rintro ⟨⟨first, reads⟩, values, restReads⟩
      exact ⟨(first, values), reads, restReads⟩

/-! ## Members that do not count -/

/-- The members of an object that fields are read from. -/
def known (layout : Layout ρ κ) (members : List (String × Json)) : List (String × Json) :=
  members.filter (·.1 ∈ layout.names)

theorem readMembers_known (slots : layout.Slots) :
    layout.readMembers slots (layout.known members) = layout.readMembers slots members := by
  unfold readMembers known
  induction members generalizing slots with
  | nil => rfl
  | cons member rest ih =>
    rw [List.foldlM_cons]
    by_cases isKnown : member.1 ∈ layout.names
    · rw [List.filter_cons_of_pos (by simpa using isKnown), List.foldlM_cons]
      exact bind_congr ih
    · rw [List.filter_cons_of_neg (by simpa using isKnown), readMember_of_not_mem isKnown]
      exact ih slots

/-- Members that no field is read from do not count, for the fault of a refusal neither. -/
theorem ofFields_known :
    layout.ofFields make (layout.known members) = layout.ofFields make members := by
  unfold ofFields
  rw [readMembers_known]

end Layout

namespace Record

variable {type : Record ρ} {members : List (String × Json)} {record : ρ}

theorem decode_object (type : Record ρ) (members : List (String × Json)) :
    type.codec.decode (.object members) = type.layout.ofFields type.make members := rfl

/-- An object is read as a record exactly if each field is read as its value in the record. -/
theorem decode_object_eq_ok_iff :
    type.codec.decode (.object members) = .ok record ↔
      ∀ f ∈ type.layout.fields, f.ReadsAs members (f.value record) := by
  rw [decode_object, Layout.ofFields_eq_ok_iff type.names_nodup, ← Layout.readsAs_values_iff]
  constructor
  · rintro ⟨values, reads, rfl⟩
    rwa [type.values_fill]
  · intro reads
    exact ⟨type.layout.values record, reads, type.fill_values record⟩

/-- An object is read as some record exactly if each field can be read. -/
theorem exists_decode_object_iff :
    (∃ record, type.codec.decode (.object members) = .ok record) ↔
      ∀ f ∈ type.layout.fields, f.Readable members := by
  rw [← Layout.exists_readsAs_iff]
  simp only [decode_object, Layout.ofFields_eq_ok_iff type.names_nodup]
  constructor
  · rintro ⟨record, values, reads, _⟩
    exact ⟨values, reads⟩
  · rintro ⟨values, reads⟩
    exact ⟨_, values, reads, rfl⟩

/-- An object of distinct names that has each field as a document of its value is read. -/
theorem decode_object_of_mem (distinct : (members.map Prod.fst).Nodup)
    (documents : ∀ f ∈ type.layout.fields, ∃ document, (f.name, document) ∈ members ∧
      f.codec.decode document = .ok (f.value record)) :
    type.codec.decode (.object members) = .ok record := by
  refine decode_object_eq_ok_iff.mpr ?_
  intro f isField
  obtain ⟨document, listed, decoded⟩ := documents f isField
  unfold Field.ReadsAs
  rw [valuesOf_of_mem distinct listed]
  exact decoded

/-- The codec of a record is lawful if those of its fields are. -/
theorem lawful_codec (lawful : ∀ f ∈ type.layout.fields, f.codec.Lawful) : type.codec.Lawful := by
  intro record
  refine decode_object_of_mem ?_ ?_
  · rw [Layout.map_fst_write]
    exact type.names_nodup
  · intro f isField
    exact ⟨_, Layout.mem_write isField record, lawful f isField (f.value record)⟩

end Record

end Coursework.Json
