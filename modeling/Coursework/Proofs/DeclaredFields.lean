import Coursework.Proofs.RecordFields
import Coursework.Wire.DocumentType

/-!
# Declared fields

Which fields each type of records has, in their order: the name, the type, and whether the field
may be left out. `RecordType.declared` is the whole list, and says nothing of how documents are
read or written; `RecordType.fields_layout` is what connects the layouts of the readers to it.

An absent field has the blank value of its type: zero, the empty text or list, no value, or the
first case of an enumeration.
-/

namespace Coursework.Wire

open Json

/-- The type of a field. -/
inductive FieldType where
  | uint64
  | uint32
  | int32
  | bool
  | string
  | document (type : DocumentType)
  | list (item : FieldType)
  | option (item : FieldType)

namespace FieldType

/-- The values of a type. -/
abbrev Value : FieldType → Type
  | uint64 => UInt64
  | uint32 => UInt32
  | int32 => Int32
  | bool => Bool
  | string => String
  | document type => type.Value
  | list item => List item.Value
  | option item => Option item.Value

/-- The documents of a type. -/
def codec : (type : FieldType) → Codec type.Value
  | uint64 => .uint64
  | uint32 => .uint32
  | int32 => .int32
  | bool => .bool
  | string => .string
  | document type => type.codec
  | list item => .list item.codec
  | option item => .option item.codec

/-- The value of an absent field. -/
def blank : (type : FieldType) → type.Value
  | uint64 => 0
  | uint32 => 0
  | int32 => 0
  | bool => false
  | string => ""
  | document type => type.blank
  | list _ => []
  | option _ => none

/-- The type of the records of a type. -/
abbrev record (type : RecordType) : FieldType := document (.record type)

end FieldType

/-- A field of a type of records, as it is declared. -/
structure Declared (ρ : Type) where
  name : String
  type : FieldType
  /-- The field may be left out. -/
  mayBeAbsent : Bool
  value : ρ → type.Value

namespace Declared

variable {ρ : Type}

/-- A field that must be there. -/
def required (name : String) (type : FieldType) (value : ρ → type.Value) : Declared ρ :=
  ⟨name, type, false, value⟩

/-- A field that may be left out. -/
def optional (name : String) (type : FieldType) (value : ρ → type.Value) : Declared ρ :=
  ⟨name, type, true, value⟩

/-- The field of a layout with this declaration. -/
def field (declared : Declared ρ) : Json.Field ρ where
  Value := declared.type.Value
  name := declared.name
  codec := declared.type.codec
  absent := if declared.mayBeAbsent then some declared.type.blank else none
  value := declared.value

/-- Among the members of an object a field can be read: there is one member of its name and that
can be read, or there is none and the field may be left out. -/
def Readable (declared : Declared ρ) (members : List (String × Json)) : Prop :=
  match valuesOf members declared.name with
  | [] => declared.mayBeAbsent = true
  | [document] => ∃ value, declared.type.codec.decode document = .ok value
  | _ => False

/-- Among the members of an object a field has its value in a record: that of the one member of
its name or, if there is none and the field may be left out, the blank one. -/
def FilledFrom (declared : Declared ρ) (members : List (String × Json)) (record : ρ) : Prop :=
  match valuesOf members declared.name with
  | [] => declared.mayBeAbsent = true ∧ declared.value record = declared.type.blank
  | [document] => declared.type.codec.decode document = .ok (declared.value record)
  | _ => False

@[simp] theorem name_field (declared : Declared ρ) : declared.field.name = declared.name := rfl

theorem absent_field_eq_some_iff {declared : Declared ρ} {value : declared.type.Value} :
    declared.field.absent = some value ↔
      declared.mayBeAbsent = true ∧ value = declared.type.blank := by
  change (if declared.mayBeAbsent then some declared.type.blank else none) = some value ↔ _
  rw [Option.ite_none_right_eq_some, Option.some_inj]
  exact and_congr_right fun _ => eq_comm

theorem readsAs_field_iff {declared : Declared ρ} {members : List (String × Json)} {record : ρ} :
    declared.field.ReadsAs members (declared.value record) ↔
      declared.FilledFrom members record := by
  unfold Field.ReadsAs FilledFrom
  rw [name_field]
  rcases valuesOf members declared.name with _ | ⟨document, _ | ⟨second, more⟩⟩
  · exact absent_field_eq_some_iff
  · rfl
  · rfl

theorem readable_field_iff {declared : Declared ρ} {members : List (String × Json)} :
    declared.field.Readable members ↔ declared.Readable members := by
  unfold Field.Readable Readable
  rw [name_field]
  rcases valuesOf members declared.name with _ | ⟨document, _ | ⟨second, more⟩⟩
  · refine Option.ne_none_iff_exists'.trans ⟨?_, ?_⟩
    · rintro ⟨value, absent⟩
      exact (absent_field_eq_some_iff.mp absent).1
    · intro mayBeAbsent
      exact ⟨_, absent_field_eq_some_iff.mpr ⟨mayBeAbsent, rfl⟩⟩
  · rfl
  · rfl

end Declared

namespace RecordType

/-- The fields of a type. -/
def declared : (type : RecordType) → List (Declared type.Value)
  | user => [
    .required "id" .uint64 User.id,
    .required "name" .string User.name,
    .optional "email" .string User.email,
    .optional "student_id" .string User.studentId,
    .optional "avatar_url" .string User.avatarUrl,
    .optional "is_admin" .bool User.isAdmin]
  | course => [
    .required "id" .uint64 Course.id,
    .required "name" .string Course.name,
    .optional "code" .string Course.code,
    .optional "year" .uint32 Course.year,
    .required "course_creator_id" .uint64 Course.creatorId,
    .optional "slip_days" .uint32 Course.slipDays]
  | assignment => [
    .required "id" .uint64 Assignment.id,
    .required "course_id" .uint64 Assignment.courseId,
    .required "name" .string Assignment.name,
    .required "deadline" .string Assignment.deadline,
    .required "score_limit" .uint32 Assignment.scoreLimit,
    .required "order" .uint32 Assignment.order,
    .optional "is_group_lab" .bool Assignment.isGroupLab,
    .optional "auto_approve" .bool Assignment.autoApprove,
    .optional "reviewers" .uint32 Assignment.reviewers]
  | score => [
    .required "id" .uint64 Score.id,
    .required "test_name" .string Score.testName,
    .required "score" .uint32 Score.score,
    .required "max_score" .uint32 Score.maxScore,
    .required "weight" .uint32 Score.weight]
  | buildInfo => [
    .required "build_date" .string BuildInfo.buildDate,
    .required "exec_time_ms" .uint64 BuildInfo.execTime,
    .optional "build_log" .string BuildInfo.buildLog]
  | grade => [
    .required "user_id" .uint64 Grade.userId,
    .required "status" (.document .submissionStatus) Grade.status]
  | submission => [
    .required "id" .uint64 Submission.id,
    .required "assignment_id" .uint64 Submission.assignmentId,
    .optional "user_id" .uint64 Submission.userId,
    .optional "group_id" .uint64 Submission.groupId,
    .required "score" .uint32 Submission.score,
    .optional "status" (.document .submissionStatus) Submission.status,
    .optional "grades" (.list (.record .grade)) Submission.grades,
    .optional "scores" (.list (.record .score)) Submission.scores,
    .optional "build_info" (.option (.record .buildInfo)) Submission.buildInfo,
    .optional "approved_date" (.option .string) Submission.approvedDate,
    .optional "released" .bool Submission.released,
    .optional "reviews" (.list (.record .review)) Submission.reviews]
  | enrollment => [
    .required "id" .uint64 Enrollment.id,
    .required "course_id" .uint64 Enrollment.courseId,
    .required "user_id" .uint64 Enrollment.userId,
    .optional "user" (.option (.record .user)) Enrollment.user,
    .optional "status" (.document .enrollmentStatus) Enrollment.status,
    .optional "group_id" .uint64 Enrollment.groupId,
    .optional "slip_days_remaining" .int32 Enrollment.slipDaysRemaining,
    .optional "last_activity_date" .string Enrollment.lastActivityDate,
    .optional "total_approved" .uint32 Enrollment.totalApproved]
  | group => [
    .required "id" .uint64 Group.id,
    .required "course_id" .uint64 Group.courseId,
    .required "name" .string Group.name,
    .optional "status" (.document .groupStatus) Group.status,
    .optional "users" (.list (.record .user)) Group.users]
  | criterion => [
    .required "id" .uint64 Criterion.id,
    .required "description" .string Criterion.description,
    .optional "grade" (.document .criterionGrade) Criterion.grade]
  | benchmark => [
    .required "id" .uint64 Benchmark.id,
    .required "heading" .string Benchmark.heading,
    .optional "criteria" (.list (.record .criterion)) Benchmark.criteria]
  | review => [
    .required "id" .uint64 Review.id,
    .required "submission_id" .uint64 Review.submissionId,
    .required "reviewer_id" .uint64 Review.reviewerId,
    .required "score" .uint32 Review.score,
    .optional "ready" .bool Review.ready,
    .optional "edited" .string Review.edited,
    .optional "feedback" .string Review.feedback,
    .optional "benchmarks" (.list (.record .benchmark)) Review.benchmarks]
  | snapshot => [
    .required "course" (.record .course) Snapshot.course,
    .optional "assignments" (.list (.record .assignment)) Snapshot.assignments,
    .optional "enrollments" (.list (.record .enrollment)) Snapshot.enrollments,
    .optional "groups" (.list (.record .group)) Snapshot.groups,
    .optional "submissions" (.list (.record .submission)) Snapshot.submissions]

/-- The layout of a type has the declared fields. -/
theorem fields_layout (type : RecordType) :
    type.record.layout.fields = type.declared.map Declared.field := by
  cases type <;> rfl

theorem names_layout (type : RecordType) :
    type.record.layout.names = type.declared.map (·.name) := by
  rw [Layout.names_eq, fields_layout, List.map_map]
  rfl

end RecordType

end Coursework.Wire
