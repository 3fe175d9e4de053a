import Coursework.Proofs.CourseUpdates
import Coursework.Screen.Groups

/-!
# Enrollments that point at groups

Who is in which group is told twice, by the members of a group and by the group on an enrollment.
Taking in a group writes the second from the first, for the members that the group has now.
`upsertGroup_writes_members_only` says when the two then agree: when nobody has been dropped. A
user who has been dropped keeps the old group on the enrollment.
-/

namespace Coursework

/-- Enrollments and groups tell the same about who is in which group. -/
structure Gradebook.Linked (book : Gradebook) : Prop where
  distinct : (book.groups.map (·.id)).Nodup
  positive : ∀ group ∈ book.groups, 0 < group.id
  agree : ∀ enrollment ∈ book.enrollments, ∀ group ∈ book.groups,
    enrollment.groupId = group.id ↔ enrollment.userId ∈ group.userIds

instance (book : Gradebook) : Decidable book.Linked :=
  decidable_of_iff
    ((book.groups.map (·.id)).Nodup ∧ (∀ group ∈ book.groups, 0 < group.id) ∧
      ∀ enrollment ∈ book.enrollments, ∀ group ∈ book.groups,
        enrollment.groupId = group.id ↔ enrollment.userId ∈ group.userIds)
    ⟨fun all => ⟨all.1, all.2.1, all.2.2⟩,
      fun linked => ⟨linked.distinct, linked.positive, linked.agree⟩⟩

namespace Enrollment

theorem joining_of_mem {enrollment : Enrollment} {group : Group}
    (member : enrollment.userId ∈ group.userIds) :
    enrollment.joining group = { enrollment with groupId := group.id } :=
  if_pos member

theorem joining_of_not_mem {enrollment : Enrollment} {group : Group}
    (outside : enrollment.userId ∉ group.userIds) : enrollment.joining group = enrollment :=
  if_neg outside

end Enrollment

namespace Gradebook

theorem mem_enrollments_upsertGroup {book : Gradebook} {group : Group} {enrollment : Enrollment} :
    enrollment ∈ (book.upsertGroup group).enrollments ↔
      ∃ old ∈ book.enrollments, old.joining group = enrollment :=
  List.mem_map

/-- A user outside the group keeps the enrollment as it was. -/
theorem enrollmentOf?_upsertGroup_of_not_mem (book : Gradebook) {group : Group} {userId : Id}
    (outside : userId ∉ group.userIds) :
    (book.upsertGroup group).enrollmentOf? userId = book.enrollmentOf? userId := by
  have joined : (book.upsertGroup group).enrollmentOf? userId =
      (book.enrollmentOf? userId).map (·.joining group) :=
    Store.find?_map (fun e => e.joining_userId group) userId book.enrollments
  rw [joined]
  cases found : book.enrollmentOf? userId with
  | none => rfl
  | some enrollment =>
    have own : enrollment.userId = userId := Store.key_of_find? found
    rw [Option.map_some, Enrollment.joining_of_not_mem (own ▸ outside)]

/-- A group whose members are in no other group leaves enrollments and groups in agreement
exactly when every enrollment that points at it is a member's. -/
theorem linked_upsertGroup_iff {book : Gradebook} {group : Group} (linked : book.Linked)
    (positive : 0 < group.id)
    (apart : ∀ other ∈ book.groups, other.id ≠ group.id →
      ∀ userId ∈ group.userIds, userId ∉ other.userIds) :
    (book.upsertGroup group).Linked ↔
      ∀ enrollment ∈ book.enrollments, enrollment.groupId = group.id →
        enrollment.userId ∈ group.userIds := by
  have groupsAfter : ∀ other, other ∈ (book.upsertGroup group).groups ↔
      other = group ∨ other ∈ book.groups ∧ other.id ≠ group.id :=
    fun other => Store.mem_upsert linked.distinct
  constructor
  · intro after enrollment member points
    by_cases inside : enrollment.userId ∈ group.userIds
    · exact inside
    · have stays : enrollment ∈ (book.upsertGroup group).enrollments :=
        mem_enrollments_upsertGroup.mpr
          ⟨enrollment, member, Enrollment.joining_of_not_mem inside⟩
      exact (after.agree enrollment stays group ((groupsAfter group).mpr (.inl rfl))).mp points
  · intro kept
    refine ⟨Store.nodup_upsert group linked.distinct, ?_, ?_⟩
    · intro other member
      rcases (groupsAfter other).mp member with same | ⟨old, _⟩
      · exact same ▸ positive
      · exact linked.positive other old
    · intro enrollment member other otherMember
      obtain ⟨old, oldMember, rfl⟩ := mem_enrollments_upsertGroup.mp member
      rw [Enrollment.joining_userId]
      rcases (groupsAfter other).mp otherMember with rfl | ⟨oldGroup, otherId⟩
      -- The group itself: whoever points at it without being a member has been dropped.
      · by_cases inside : old.userId ∈ other.userIds
        · simp [Enrollment.joining_of_mem inside, inside]
        · rw [Enrollment.joining_of_not_mem inside]
          exact ⟨kept old oldMember, fun now => absurd now inside⟩
      -- Another group: it shares no member with the new one.
      · by_cases inside : old.userId ∈ group.userIds
        · have outside := apart other oldGroup otherId _ inside
          rw [Enrollment.joining_of_mem inside]
          exact ⟨fun equal => absurd equal.symm otherId, fun now => absurd now outside⟩
        · rw [Enrollment.joining_of_not_mem inside]
          exact linked.agree old oldMember other oldGroup

/-- Taking in a group writes to its members only. So it leaves all in agreement exactly when
nobody else points at it, and whoever has been dropped keeps the old enrollment. -/
theorem upsertGroup_writes_members_only {book : Gradebook} {group : Group} (linked : book.Linked)
    (positive : 0 < group.id)
    (apart : ∀ other ∈ book.groups, other.id ≠ group.id →
      ∀ userId ∈ group.userIds, userId ∉ other.userIds) :
    ((book.upsertGroup group).Linked ↔
      ∀ enrollment ∈ book.enrollments, enrollment.groupId = group.id →
        enrollment.userId ∈ group.userIds) ∧
    ∀ userId, userId ∉ group.userIds →
      (book.upsertGroup group).enrollmentOf? userId = book.enrollmentOf? userId :=
  ⟨linked_upsertGroup_iff linked positive apart,
    fun _ outside => enrollmentOf?_upsertGroup_of_not_mem book outside⟩

def ada : User := { User.blank with id := 200, name := "Ada", studentId := "s200" }
def bo : User := { User.blank with id := 300, name := "Bo", studentId := "s300" }
def cy : User := { User.blank with id := 400, name := "Cy", studentId := "s400" }

/-- Two of three students are in a group, which has delivered a group lab. -/
def pairBook : Gradebook where
  courseId := 1
  course := some ⟨1, "DAT320", "", 0, 100, 0⟩
  assignments := [⟨20, 1, "Lab", "2024-05-01", 80, 1, true, false, 0⟩]
  enrollments :=
    [⟨1, 1, 200, some ada, .student, 7, 0, "", 0⟩, ⟨2, 1, 300, some bo, .student, 7, 0, "", 0⟩,
      ⟨3, 1, 400, some cy, .student, 0, 0, "", 0⟩]
  groups := [⟨7, 1, "Pair", .pending, [ada, bo]⟩]
  submissions := [{ Submission.blank with id := 51, assignmentId := 20, groupId := 7, score := 90 }]
  loaded := true
  loading := false
  notice := none

/-- The pair with a third member. -/
def grownPair : Group := ⟨7, 1, "Trio", .pending, [ada, bo, cy]⟩

/-- The pair without its second member. -/
def shrunkPair : Group := ⟨7, 1, "Pair", .pending, [ada]⟩

theorem upsertGroup_writes_members_only_grown :
    pairBook.Linked ∧ 0 < grownPair.id ∧
      (∀ other ∈ pairBook.groups, other.id ≠ grownPair.id →
        ∀ userId ∈ grownPair.userIds, userId ∉ other.userIds) ∧
      (pairBook.upsertGroup grownPair).Linked ∧
      (pairBook.upsertGroup grownPair).enrollmentOf? 500 = pairBook.enrollmentOf? 500 := by
  have linked : pairBook.Linked := by decide
  have apart : ∀ other ∈ pairBook.groups, other.id ≠ grownPair.id →
      ∀ userId ∈ grownPair.userIds, userId ∉ other.userIds := by decide
  obtain ⟨agreement, outsiders⟩ := upsertGroup_writes_members_only linked (by decide) apart
  exact ⟨linked, by decide, apart, agreement.mpr (by decide), outsiders 500 (by decide)⟩

/-- A member who is dropped still points at the group, is shown its card and delivers with it. -/
theorem not_linked_upsertGroup_dropped :
    pairBook.Linked ∧ 0 < shrunkPair.id ∧
      (∀ other ∈ pairBook.groups, other.id ≠ shrunkPair.id →
        ∀ userId ∈ shrunkPair.userIds, userId ∉ other.userIds) ∧
      300 ∉ shrunkPair.userIds ∧
      ¬ (pairBook.upsertGroup shrunkPair).Linked ∧
      Screen.ownGroup? (pairBook.upsertGroup shrunkPair) 300 = some shrunkPair ∧
      ((pairBook.assignment? 20).bind
        ((pairBook.upsertGroup shrunkPair).submissionOf? 300)).map (·.id) = some 51 := by
  decide

end Gradebook

end Coursework
