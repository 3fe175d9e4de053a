import Coursework.Action
import Coursework.Json.Layout
import Coursework.Wire.Grading

/-!
# Documents of actions

The written form of an action is tagged with its kind. An action about several things has them
as the fields of an object.
-/

namespace Coursework.Wire

open Json

/-- The name of a key of the matrix in documents. -/
def matrixSortKeyName : MatrixSortKey → String
  | .name => "Name"
  | .id => "Id"
  | .approved => "Approved"

def matrixSortKey : Codec MatrixSortKey := .enumeration matrixSortKeyName MatrixSortKey.all

/-- A kind whose payload is one value. -/
def single {α β : Type} (codec : Codec β) (make : β → α) : Payload α :=
  .single fun document => make <$> codec.decode document

/-- A kind whose payload is an object with the fields of a record. -/
def several {α ρ κ : Type} (layout : Layout ρ κ) (gather : κ) (make : ρ → α) : Payload α :=
  .fields fun members => make <$> layout.ofFields gather members

/-- The fields of a change of role. -/
structure RoleChange where
  courseId : Id
  enrollmentId : Id
  status : EnrollmentStatus

def roleChange : Layout RoleChange (Id → Id → EnrollmentStatus → RoleChange) :=
  .field "course_id" .uint64 none RoleChange.courseId <|
  .field "enrollment_id" .uint64 none RoleChange.enrollmentId <|
  .field "status" enrollmentStatus none RoleChange.status .done

/-- The fields of a new group. -/
structure NewGroup where
  courseId : Id
  userIds : List Id
  name : String

def newGroup : Layout NewGroup (Id → List Id → String → NewGroup) :=
  .field "course_id" .uint64 none NewGroup.courseId <|
  .field "user_ids" (.list .uint64) none NewGroup.userIds <|
  .field "name" .string none NewGroup.name .done

/-- The fields by which a submission is named. -/
structure SubmissionReference where
  courseId : Id
  submissionId : Id

def submissionReference : Layout SubmissionReference (Id → Id → SubmissionReference) :=
  .field "course_id" .uint64 none SubmissionReference.courseId <|
  .field "submission_id" .uint64 none SubmissionReference.submissionId .done

def reviewAction : Codec ReviewAction where
  encode
    | .setAssignmentId id => tagged "SetAssignmentId" (Codec.int64.encode id)
    | .updateReady ready => tagged "UpdateReady" (.bool ready)
    | .release released => tagged "Release" (.bool released)
    | .setSelectedReview position =>
      tagged "SetSelectedReview" ((Codec.option .index).encode position)
    | .setMinimumScore score => tagged "SetMinimumScore" (Codec.uint32.encode score)
  decode := decodeTagged
    [("SetAssignmentId", single .int64 .setAssignmentId),
      ("UpdateReady", single .bool .updateReady),
      ("Release", single .bool .release),
      ("SetSelectedReview", single (.option .index) .setSelectedReview),
      ("SetMinimumScore", single .uint32 .setMinimumScore)]

def action : Codec Action where
  encode
    | .updateEnrollmentStatus courseId enrollmentId status =>
      tagged "UpdateEnrollmentStatus" (.object (roleChange.write ⟨courseId, enrollmentId, status⟩))
    | .createGroup courseId userIds name =>
      tagged "CreateGroup" (.object (newGroup.write ⟨courseId, userIds, name⟩))
    | .updateGroup stored => tagged "UpdateGroup" (group.encode stored)
    | .refreshSubmission courseId submissionId =>
      tagged "RefreshSubmission" (.object (submissionReference.write ⟨courseId, submissionId⟩))
    | .setActiveGroup draft => tagged "SetActiveGroup" ((Codec.option group).encode draft)
    | .updateGroupName name => tagged "UpdateGroupName" (.string name)
    | .toggleGroupUser member => tagged "ToggleGroupUser" (user.encode member)
    | .setActiveEnrollment member =>
      tagged "SetActiveEnrollment" ((Codec.option enrollment).encode member)
    | .setSelectedSubmission selected =>
      tagged "SetSelectedSubmission" ((Codec.option submission).encode selected)
    | .setSelectedAssignmentId id =>
      tagged "SetSelectedAssignmentId" ((Codec.option .uint64).encode id)
    | .setGroupView on => tagged "SetGroupView" (.bool on)
    | .setSubmissionSort key => tagged "SetSubmissionSort" (matrixSortKey.encode key)
    | .review action => tagged "Review" (reviewAction.encode action)
  decode := decodeTagged
    [("UpdateEnrollmentStatus", several roleChange RoleChange.mk fun change =>
        .updateEnrollmentStatus change.courseId change.enrollmentId change.status),
      ("CreateGroup", several newGroup NewGroup.mk fun created =>
        .createGroup created.courseId created.userIds created.name),
      ("UpdateGroup", single group .updateGroup),
      ("RefreshSubmission", several submissionReference SubmissionReference.mk fun reference =>
        .refreshSubmission reference.courseId reference.submissionId),
      ("SetActiveGroup", single (.option group) .setActiveGroup),
      ("UpdateGroupName", single .string .updateGroupName),
      ("ToggleGroupUser", single user .toggleGroupUser),
      ("SetActiveEnrollment", single (.option enrollment) .setActiveEnrollment),
      ("SetSelectedSubmission", single (.option submission) .setSelectedSubmission),
      ("SetSelectedAssignmentId", single (.option .uint64) .setSelectedAssignmentId),
      ("SetGroupView", single .bool .setGroupView),
      ("SetSubmissionSort", single matrixSortKey .setSubmissionSort),
      ("Review", single reviewAction .review)]

end Coursework.Wire
