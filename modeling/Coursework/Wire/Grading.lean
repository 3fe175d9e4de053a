import Coursework.Wire.Roster

/-!
# Documents of submissions and reviews

The written forms of submissions with their parts, of reviews, and of whole course snapshots.
-/

namespace Coursework.Wire

open Json

def scoreRecord : Record Score where
  name := "Score"
  layout :=
    .field "id" .uint64 none Score.id <|
    .field "test_name" .string none Score.testName <|
    .field "score" .uint32 none Score.score <|
    .field "max_score" .uint32 none Score.maxScore <|
    .field "weight" .uint32 none Score.weight .done
  make := Score.mk

def score : Codec Score := scoreRecord.codec

def buildInfoRecord : Record BuildInfo where
  name := "BuildInfo"
  layout :=
    .field "build_date" .string none BuildInfo.buildDate <|
    .field "exec_time_ms" .uint64 none BuildInfo.execTime <|
    .field "build_log" .string (some "") BuildInfo.buildLog .done
  make := BuildInfo.mk

def buildInfo : Codec BuildInfo := buildInfoRecord.codec

/-- The name of a submission's status in documents. -/
def submissionStatusName : SubmissionStatus → String
  | .none => "NONE"
  | .approved => "APPROVED"
  | .rejected => "REJECTED"
  | .revision => "REVISION"

def submissionStatus : Codec SubmissionStatus :=
  .enumeration submissionStatusName [.none, .approved, .rejected, .revision]

def gradeRecord : Record Grade where
  name := "Grade"
  layout :=
    .field "user_id" .uint64 none Grade.userId <|
    .field "status" submissionStatus none Grade.status .done
  make := Grade.mk

def grade : Codec Grade := gradeRecord.codec

/-- The name of a criterion's grade in documents. -/
def criterionGradeName : CriterionGrade → String
  | .none => "NONE"
  | .passed => "PASSED"
  | .failed => "FAILED"

def criterionGrade : Codec CriterionGrade :=
  .enumeration criterionGradeName [.none, .passed, .failed]

def criterionRecord : Record Criterion where
  name := "GradingCriterion"
  layout :=
    .field "id" .uint64 none Criterion.id <|
    .field "description" .string none Criterion.description <|
    .field "grade" criterionGrade (some default) Criterion.grade .done
  make := Criterion.mk

def criterion : Codec Criterion := criterionRecord.codec

def benchmarkRecord : Record Benchmark where
  name := "GradingBenchmark"
  layout :=
    .field "id" .uint64 none Benchmark.id <|
    .field "heading" .string none Benchmark.heading <|
    .field "criteria" (.list criterion) (some []) Benchmark.criteria .done
  make := Benchmark.mk

def benchmark : Codec Benchmark := benchmarkRecord.codec

def reviewRecord : Record Review where
  name := "Review"
  layout :=
    .field "id" .uint64 none Review.id <|
    .field "submission_id" .uint64 none Review.submissionId <|
    .field "reviewer_id" .uint64 none Review.reviewerId <|
    .field "score" .uint32 none Review.score <|
    .field "ready" .bool (some false) Review.ready <|
    .field "edited" .string (some "") Review.edited <|
    .field "feedback" .string (some "") Review.feedback <|
    .field "benchmarks" (.list benchmark) (some []) Review.benchmarks .done
  make := Review.mk

def review : Codec Review := reviewRecord.codec

def submissionRecord : Record Submission where
  name := "Submission"
  layout :=
    .field "id" .uint64 none Submission.id <|
    .field "assignment_id" .uint64 none Submission.assignmentId <|
    .field "user_id" .uint64 (some 0) Submission.userId <|
    .field "group_id" .uint64 (some 0) Submission.groupId <|
    .field "score" .uint32 none Submission.score <|
    .field "status" submissionStatus (some default) Submission.status <|
    .field "grades" (.list grade) (some []) Submission.grades <|
    .field "scores" (.list score) (some []) Submission.scores <|
    .field "build_info" (.option buildInfo) (some none) Submission.buildInfo <|
    .field "approved_date" (.option .string) (some none) Submission.approvedDate <|
    .field "released" .bool (some false) Submission.released <|
    .field "reviews" (.list review) (some []) Submission.reviews .done
  make := Submission.mk

def submission : Codec Submission := submissionRecord.codec

def snapshotRecord : Record Snapshot where
  name := "CourseSnapshot"
  layout :=
    .field "course" course none Snapshot.course <|
    .field "assignments" (.list assignment) (some []) Snapshot.assignments <|
    .field "enrollments" (.list enrollment) (some []) Snapshot.enrollments <|
    .field "groups" (.list group) (some []) Snapshot.groups <|
    .field "submissions" (.list submission) (some []) Snapshot.submissions .done
  make := Snapshot.mk

def snapshot : Codec Snapshot := snapshotRecord.codec

end Coursework.Wire
