import Coursework.Proofs.RecordFields
import Coursework.Wire.DocumentType

/-!
# What is written is read back

`decode_encode_document` says of every type of documents that the document of a value is read as
that value. So to read a document and write it again settles it: a second time changes nothing.

Each combinator of codecs keeps the law, under a condition where it could fail. An optional value
must not be written as null itself, the cases of an enumeration need names of their own, and so do
the fields of a record. From these the types are built up, the inner ones first.
-/

namespace Coursework

namespace Json.Codec

variable {α : Type}

/-- A whole number between the bounds is read. -/
theorem decodeInteger_integer {low high value : Int} (expected : Expected)
    (within : low ≤ value ∧ value ≤ high) :
    decodeInteger low high expected (integer value) = .ok value :=
  if_pos within

theorem decodeInteger_natural {greatest value : Nat} (expected : Expected)
    (within : value ≤ greatest) :
    Int.toNat <$> decodeInteger 0 greatest expected (natural value) = .ok value := by
  have bounds : (0 : Int) ≤ value ∧ (value : Int) ≤ greatest := by omega
  rw [natural, decodeInteger_integer expected bounds]
  rfl

@[simp] theorem lawful_uint64 : uint64.Lawful := by
  intro value
  have within : value.toNat ≤ Numeral.greatest64 := Nat.le_of_lt_succ value.toNat_lt
  have read := congrArg (UInt64.ofNat <$> ·) (decodeInteger_natural (.unsigned 64) within)
  exact read.trans (congrArg Except.ok value.ofNat_toNat)

@[simp] theorem lawful_uint32 : uint32.Lawful := by
  intro value
  have within : value.toNat ≤ Numeral.greatest32 := Nat.le_of_lt_succ value.toNat_lt
  have read := congrArg (UInt32.ofNat <$> ·) (decodeInteger_natural (.unsigned 32) within)
  exact read.trans (congrArg Except.ok value.ofNat_toNat)

@[simp] theorem lawful_int32 : int32.Lawful := by
  intro value
  have within : -0x80000000 ≤ value.toInt ∧ value.toInt ≤ 0x7FFFFFFF :=
    ⟨value.le_toInt, Int.le_of_lt_add_one value.toInt_lt⟩
  simp [int32, decodeInteger_integer _ within]

@[simp] theorem lawful_bool : bool.Lawful := fun _ => rfl

@[simp] theorem lawful_string : string.Lawful := fun _ => rfl

@[simp] theorem lawful_list {item : Codec α} (lawful : item.Lawful) : (list item).Lawful := by
  intro values
  change (values.map item.encode).mapM item.decode = .ok values
  induction values with
  | nil => rfl
  | cons value rest ih =>
    rw [List.map_cons, List.mapM_cons, lawful value, ih]
    rfl

/-- Null must be left for the absent value. -/
theorem lawful_option {item : Codec α} (lawful : item.Lawful)
    (present : ∀ value, item.encode value ≠ .null) : (option item).Lawful := by
  intro value
  cases value with
  | none => rfl
  | some value =>
    have decodesItem : (option item).decode (item.encode value) =
        some <$> item.decode (item.encode value) := by
      unfold option
      dsimp only
      split
      · rename_i isNull
        exact absurd isNull (present value)
      · rfl
    exact decodesItem.trans (congrArg (some <$> ·) (lawful value))

/-- Every case must be listed, under a name of its own. -/
theorem lawful_enumeration {name : α → String} {values : List α}
    (distinct : (values.map name).Nodup) (complete : ∀ value, value ∈ values) :
    (enumeration name values).Lawful := by
  intro value
  have named : (values.map fun value => (name value, Payload.nothing value)).lookup (name value) =
      some (.nothing value) := by
    refine lookup_of_mem ?_ (List.mem_map_of_mem (complete value))
    rwa [List.map_map]
  simp [enumeration, decodeTagged, caseNamed, named, Payload.ofName, bind, Except.bind]

end Json.Codec

/-- A record is written as an object, so null is left for an absent one. -/
theorem Json.Record.lawful_option {ρ : Type} {type : Record ρ} (lawful : type.codec.Lawful) :
    (Codec.option type.codec).Lawful :=
  Codec.lawful_option lawful fun _ => Json.noConfusion

namespace Wire

open Json

@[simp] theorem lawful_submissionStatus : submissionStatus.Lawful :=
  Codec.lawful_enumeration (by decide) (by intro status; cases status <;> decide)

@[simp] theorem lawful_enrollmentStatus : enrollmentStatus.Lawful :=
  Codec.lawful_enumeration (by decide) (by intro status; cases status <;> decide)

@[simp] theorem lawful_groupStatus : groupStatus.Lawful :=
  Codec.lawful_enumeration (by decide) (by intro status; cases status <;> decide)

@[simp] theorem lawful_criterionGrade : criterionGrade.Lawful :=
  Codec.lawful_enumeration (by decide) (by intro grade; cases grade <;> decide)

@[simp] theorem lawful_user : user.Lawful :=
  Record.lawful_codec (by simp [userRecord, Layout.fields])

@[simp] theorem lawful_course : course.Lawful :=
  Record.lawful_codec (by simp [courseRecord, Layout.fields])

@[simp] theorem lawful_assignment : assignment.Lawful :=
  Record.lawful_codec (by simp [assignmentRecord, Layout.fields])

@[simp] theorem lawful_enrollment : enrollment.Lawful := by
  have optionalUser : (Codec.option user).Lawful := Record.lawful_option lawful_user
  exact Record.lawful_codec (by simp [enrollmentRecord, Layout.fields, optionalUser])

@[simp] theorem lawful_group : group.Lawful :=
  Record.lawful_codec (by simp [groupRecord, Layout.fields])

@[simp] theorem lawful_score : score.Lawful :=
  Record.lawful_codec (by simp [scoreRecord, Layout.fields])

@[simp] theorem lawful_buildInfo : buildInfo.Lawful :=
  Record.lawful_codec (by simp [buildInfoRecord, Layout.fields])

@[simp] theorem lawful_grade : grade.Lawful :=
  Record.lawful_codec (by simp [gradeRecord, Layout.fields])

@[simp] theorem lawful_criterion : criterion.Lawful :=
  Record.lawful_codec (by simp [criterionRecord, Layout.fields])

@[simp] theorem lawful_benchmark : benchmark.Lawful :=
  Record.lawful_codec (by simp [benchmarkRecord, Layout.fields])

@[simp] theorem lawful_review : review.Lawful :=
  Record.lawful_codec (by simp [reviewRecord, Layout.fields])

@[simp] theorem lawful_submission : submission.Lawful := by
  have optionalBuild : (Codec.option buildInfo).Lawful := Record.lawful_option lawful_buildInfo
  have optionalDate : (Codec.option .string).Lawful :=
    Codec.lawful_option Codec.lawful_string fun _ => Json.noConfusion
  exact Record.lawful_codec
    (by simp [submissionRecord, Layout.fields, optionalBuild, optionalDate])

@[simp] theorem lawful_snapshot : snapshot.Lawful :=
  Record.lawful_codec (by simp [snapshotRecord, Layout.fields])

namespace DocumentType

theorem lawful_codec (type : DocumentType) : type.codec.Lawful := by
  cases type with
  | record type =>
    cases type with
    | user => exact lawful_user
    | course => exact lawful_course
    | assignment => exact lawful_assignment
    | score => exact lawful_score
    | buildInfo => exact lawful_buildInfo
    | grade => exact lawful_grade
    | submission => exact lawful_submission
    | enrollment => exact lawful_enrollment
    | group => exact lawful_group
    | criterion => exact lawful_criterion
    | benchmark => exact lawful_benchmark
    | review => exact lawful_review
    | snapshot => exact lawful_snapshot
  | submissionStatus => exact lawful_submissionStatus
  | enrollmentStatus => exact lawful_enrollmentStatus
  | groupStatus => exact lawful_groupStatus
  | criterionGrade => exact lawful_criterionGrade

/-- A document that is rewritten comes from a value. -/
theorem rewrite_eq_ok_iff {type : DocumentType} {document written : Json} :
    type.rewrite document = .ok written ↔
      ∃ value, type.codec.decode document = .ok value ∧ type.codec.encode value = written := by
  unfold rewrite
  cases type.codec.decode document <;> simp

/-- The document of a value is read as that value, for every type of documents and every value of
it. A document that was read and written again stays as it is. -/
theorem decode_encode_document (type : DocumentType) :
    (∀ value, type.codec.decode (type.codec.encode value) = .ok value) ∧
    ∀ document written, type.rewrite document = .ok written →
      type.rewrite written = .ok written := by
  refine ⟨type.lawful_codec, ?_⟩
  intro document written rewritten
  obtain ⟨value, _, rfl⟩ := rewrite_eq_ok_iff.mp rewritten
  exact rewrite_eq_ok_iff.mpr ⟨value, type.lawful_codec value, rfl⟩

/-- A user with all fields. -/
def fullUser : Json :=
  .object [("id", .natural 200), ("name", .string "Ada"), ("email", .string ""),
    ("student_id", .string ""), ("avatar_url", .string ""), ("is_admin", .bool false)]

/-- What is left out, and what is not known, is settled by the first rewriting. -/
theorem decode_encode_document_of_partial :
    (record .user).rewrite
        (.object [("age", .natural 36), ("name", .string "Ada"), ("id", .natural 200)]) =
      .ok fullUser ∧
    (record .user).rewrite fullUser = .ok fullUser := by
  have rewritten : (record .user).rewrite
      (.object [("age", .natural 36), ("name", .string "Ada"), ("id", .natural 200)]) =
        .ok fullUser := rfl
  obtain ⟨_, settled⟩ := decode_encode_document (record .user)
  exact ⟨rewritten, settled _ _ rewritten⟩

end DocumentType

end Wire

end Coursework
