import Coursework.Json.Record
import Coursework.Snapshot

/-!
# Documents of people, courses and groups

The written forms of users, courses, assignments, enrollments and groups.
-/

namespace Coursework.Wire

open Json

def userRecord : Record User where
  name := "User"
  layout :=
    .field "id" .uint64 none User.id <|
    .field "name" .string none User.name <|
    .field "email" .string (some "") User.email <|
    .field "student_id" .string (some "") User.studentId <|
    .field "avatar_url" .string (some "") User.avatarUrl <|
    .field "is_admin" .bool (some false) User.isAdmin .done
  make := User.mk

def user : Codec User := userRecord.codec

def courseRecord : Record Course where
  name := "Course"
  layout :=
    .field "id" .uint64 none Course.id <|
    .field "name" .string none Course.name <|
    .field "code" .string (some "") Course.code <|
    .field "year" .uint32 (some 0) Course.year <|
    .field "course_creator_id" .uint64 none Course.creatorId <|
    .field "slip_days" .uint32 (some 0) Course.slipDays .done
  make := Course.mk

def course : Codec Course := courseRecord.codec

def assignmentRecord : Record Assignment where
  name := "Assignment"
  layout :=
    .field "id" .uint64 none Assignment.id <|
    .field "course_id" .uint64 none Assignment.courseId <|
    .field "name" .string none Assignment.name <|
    .field "deadline" .string none Assignment.deadline <|
    .field "score_limit" .uint32 none Assignment.scoreLimit <|
    .field "order" .uint32 none Assignment.order <|
    .field "is_group_lab" .bool (some false) Assignment.isGroupLab <|
    .field "auto_approve" .bool (some false) Assignment.autoApprove <|
    .field "reviewers" .uint32 (some 0) Assignment.reviewers .done
  make := Assignment.mk

def assignment : Codec Assignment := assignmentRecord.codec

/-- The name of a role in documents. -/
def enrollmentStatusName : EnrollmentStatus → String
  | .none => "NONE"
  | .pending => "PENDING"
  | .student => "STUDENT"
  | .teacher => "TEACHER"

def enrollmentStatus : Codec EnrollmentStatus :=
  .enumeration enrollmentStatusName [.none, .pending, .student, .teacher]

def enrollmentRecord : Record Enrollment where
  name := "Enrollment"
  layout :=
    .field "id" .uint64 none Enrollment.id <|
    .field "course_id" .uint64 none Enrollment.courseId <|
    .field "user_id" .uint64 none Enrollment.userId <|
    .field "user" (.option user) (some none) Enrollment.user <|
    .field "status" enrollmentStatus (some default) Enrollment.status <|
    .field "group_id" .uint64 (some 0) Enrollment.groupId <|
    .field "slip_days_remaining" .int32 (some 0) Enrollment.slipDaysRemaining <|
    .field "last_activity_date" .string (some "") Enrollment.lastActivityDate <|
    .field "total_approved" .uint32 (some 0) Enrollment.totalApproved .done
  make := Enrollment.mk

def enrollment : Codec Enrollment := enrollmentRecord.codec

/-- The name of a group's state in documents. -/
def groupStatusName : GroupStatus → String
  | .pending => "PENDING"
  | .approved => "APPROVED"

def groupStatus : Codec GroupStatus :=
  .enumeration groupStatusName [.pending, .approved]

def groupRecord : Record Group where
  name := "Group"
  layout :=
    .field "id" .uint64 none Group.id <|
    .field "course_id" .uint64 none Group.courseId <|
    .field "name" .string none Group.name <|
    .field "status" groupStatus (some default) Group.status <|
    .field "users" (.list user) (some []) Group.users .done
  make := Group.mk

def group : Codec Group := groupRecord.codec

end Coursework.Wire
