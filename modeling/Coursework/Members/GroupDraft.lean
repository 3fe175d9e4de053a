import Coursework.Action
import Coursework.Text.Search

/-!
# Group drafts

A group while it is made or edited: how a draft begins, who may join it, and what is asked of
the backend in the end.
-/

namespace Coursework.Members

/-- The draft with which a student begins, who is its first member. Others have none. -/
def initialDraft? (own : Option Enrollment) (user : User) (courseId : Id) : Option Group :=
  if own.any (·.isStudent) then some ⟨0, courseId, "", .pending, [user]⟩ else none

/-- The student may still join the draft: not the reader, not in it yet, and in no other group. -/
def mayJoin (draft : Group) (selfId : Id) (enrollment : Enrollment) : Bool :=
  enrollment.isStudent &&
    (enrollment.groupId == 0 || (draft.id != 0 && enrollment.groupId == draft.id)) &&
    enrollment.userId != selfId && !draft.userIds.contains enrollment.userId

theorem mayJoin_iff {draft : Group} {selfId : Id} {enrollment : Enrollment} :
    mayJoin draft selfId enrollment = true ↔
      enrollment.status = .student ∧
      (enrollment.groupId = 0 ∨ draft.id ≠ 0 ∧ enrollment.groupId = draft.id) ∧
      enrollment.userId ≠ selfId ∧ enrollment.userId ∉ draft.userIds := by
  simp [mayJoin, Enrollment.isStudent, and_assoc]

/-- Those who may join the draft and whom the query finds, in the order of their names. -/
def candidates (enrollments : List Enrollment) (draft : Group) (selfId : Id) (query : String) :
    List Enrollment :=
  (enrollments.filter fun e => mayJoin draft selfId e && Text.found query e.userName).mergeSort
    fun a b => a.userName ≤ b.userName

theorem mem_candidates_iff {enrollments : List Enrollment} {draft : Group} {selfId : Id}
    {query : String} {enrollment : Enrollment} :
    enrollment ∈ candidates enrollments draft selfId query ↔
      enrollment ∈ enrollments ∧ mayJoin draft selfId enrollment = true ∧
        Text.found query enrollment.userName = true := by
  simp [candidates]

/-- A new draft is created by the identifiers of its members; a stored group is replaced. -/
def submitIntent (draft : Group) (courseId : Id) : Action :=
  if draft.id = 0 then .createGroup courseId draft.userIds draft.name else .updateGroup draft

/-- The draft is dropped. -/
def cancelIntent : Action := .setActiveGroup none

end Coursework.Members
