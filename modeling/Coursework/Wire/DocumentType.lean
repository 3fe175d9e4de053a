import Coursework.Wire.Grading

/-!
# Types of documents

All that has a written form of its own, by name: thirteen types of records and four enumerations.
-/

namespace Coursework.Wire

open Json

/-- The types that are written as records. -/
inductive RecordType where
  | user
  | course
  | assignment
  | score
  | buildInfo
  | grade
  | submission
  | enrollment
  | group
  | criterion
  | benchmark
  | review
  | snapshot
  deriving DecidableEq

namespace RecordType

/-- All of them. -/
def all : List RecordType :=
  [user, course, assignment, score, buildInfo, grade, submission, enrollment, group, criterion,
    benchmark, review, snapshot]

/-- The values of a type. -/
abbrev Value : RecordType → Type
  | user => User
  | course => Course
  | assignment => Assignment
  | score => Score
  | buildInfo => BuildInfo
  | grade => Grade
  | submission => Submission
  | enrollment => Enrollment
  | group => Group
  | criterion => Criterion
  | benchmark => Benchmark
  | review => Review
  | snapshot => Snapshot

/-- The fields of a type, and what makes a value of them. -/
def record : (type : RecordType) → Record type.Value
  | user => userRecord
  | course => courseRecord
  | assignment => assignmentRecord
  | score => scoreRecord
  | buildInfo => buildInfoRecord
  | grade => gradeRecord
  | submission => submissionRecord
  | enrollment => enrollmentRecord
  | group => groupRecord
  | criterion => criterionRecord
  | benchmark => benchmarkRecord
  | review => reviewRecord
  | snapshot => snapshotRecord

/-- The value of a type of which nothing is known. -/
def blank : (type : RecordType) → type.Value
  | user => default
  | course => default
  | assignment => default
  | score => default
  | buildInfo => default
  | grade => default
  | submission => default
  | enrollment => default
  | group => default
  | criterion => default
  | benchmark => default
  | review => default
  | snapshot => default

end RecordType

/-- The types that have documents. -/
inductive DocumentType where
  | record (type : RecordType)
  | submissionStatus
  | enrollmentStatus
  | groupStatus
  | criterionGrade
  deriving DecidableEq

namespace DocumentType

/-- All of them. -/
def all : List DocumentType :=
  RecordType.all.map record ++ [submissionStatus, enrollmentStatus, groupStatus, criterionGrade]

/-- The values of a type. -/
abbrev Value : DocumentType → Type
  | record type => type.Value
  | submissionStatus => SubmissionStatus
  | enrollmentStatus => EnrollmentStatus
  | groupStatus => GroupStatus
  | criterionGrade => CriterionGrade

/-- The documents of a type. -/
def codec : (type : DocumentType) → Codec type.Value
  | record type => type.record.codec
  | submissionStatus => Wire.submissionStatus
  | enrollmentStatus => Wire.enrollmentStatus
  | groupStatus => Wire.groupStatus
  | criterionGrade => Wire.criterionGrade

/-- The value of a type of which nothing is known. -/
def blank : (type : DocumentType) → type.Value
  | record type => type.blank
  | submissionStatus => default
  | enrollmentStatus => default
  | groupStatus => default
  | criterionGrade => default

/-- The name of a type. -/
def name : DocumentType → String
  | record type => type.record.name
  | submissionStatus => "SubmissionStatus"
  | enrollmentStatus => "EnrollmentStatus"
  | groupStatus => "GroupStatus"
  | criterionGrade => "CriterionGrade"

/-- The type of that name. -/
def ofName? (name : String) : Option DocumentType :=
  all.find? (·.name = name)

/-- Reads a document of a type, and writes it again with all of its fields. -/
def rewrite (type : DocumentType) (document : Json) : Except Fault Json :=
  type.codec.encode <$> type.codec.decode document

end DocumentType

end Coursework.Wire
