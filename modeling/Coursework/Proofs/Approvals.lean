import Coursework.Action.Request
import Coursework.Members.Table
import Coursework.Proofs.CourseUpdates

/-!
# Approving all who wait

One button asks the backend, call by call, to make a student of everybody who waits for approval.
Calls may fail, and the answers to the others may come in any order.
`approveAll_independent` says that an answer changes the enrollment that it is about, in its
place, and no other. So the list that is left depends on which calls were answered and not on
when, and those who still wait are those whose call has failed.
-/

namespace Coursework

namespace Enrollment

/-- The enrollment with the role of a student. -/
def approved (enrollment : Enrollment) : Enrollment :=
  { enrollment with status := .student }

@[simp] theorem approved_id (enrollment : Enrollment) : enrollment.approved.id = enrollment.id :=
  rfl

/-- The call that asks for that role. -/
def approval (enrollment : Enrollment) : Request :=
  .updateEnrollment enrollment.courseId enrollment.id .student

/-- The enrollment once some calls have been answered. -/
def answered (enrollment : Enrollment) (calls : List Request) : Enrollment :=
  if enrollment.approval ∈ calls then enrollment.approved else enrollment

variable {enrollment : Enrollment} {calls : List Request}

theorem answered_of_mem (called : enrollment.approval ∈ calls) :
    enrollment.answered calls = enrollment.approved :=
  if_pos called

theorem answered_of_not_mem (uncalled : enrollment.approval ∉ calls) :
    enrollment.answered calls = enrollment :=
  if_neg uncalled

@[simp] theorem answered_nil (enrollment : Enrollment) : enrollment.answered [] = enrollment :=
  answered_of_not_mem List.not_mem_nil

@[simp] theorem answered_id (enrollment : Enrollment) (calls : List Request) :
    (enrollment.answered calls).id = enrollment.id := by
  unfold answered
  split <;> rfl

/-- Who still waits has waited before, and has not been answered. -/
theorem isPending_answered (enrollment : Enrollment) (calls : List Request) :
    (enrollment.answered calls).isPending =
      (enrollment.isPending && decide (enrollment.approval ∉ calls)) := by
  by_cases called : enrollment.approval ∈ calls
  · simp [answered_of_mem called, called, approved, isPending]
  · simp [answered_of_not_mem called, called]

/-- Where identifiers are distinct, a call is about one enrollment only. -/
theorem eq_of_approval_eq {enrollments : List Enrollment} {other : Enrollment}
    (distinct : (enrollments.map (·.id)).Nodup) (member : enrollment ∈ enrollments)
    (otherMember : other ∈ enrollments) (same : enrollment.approval = other.approval) :
    enrollment = other := by
  obtain ⟨_, sameId, _⟩ := Request.updateEnrollment.inj same
  exact List.inj_on_of_nodup_map distinct member otherMember sameId

/-- One more answer changes the enrollment that it is about. -/
theorem answered_concat {enrollments : List Enrollment} {other : Enrollment}
    (distinct : (enrollments.map (·.id)).Nodup) (otherMember : other ∈ enrollments)
    (member : enrollment ∈ enrollments) :
    (if (other.answered calls).id = enrollment.approved.id then enrollment.approved
      else other.answered calls) = other.answered (calls ++ [enrollment.approval]) := by
  by_cases same : other.id = enrollment.id
  · obtain rfl := List.inj_on_of_nodup_map distinct otherMember member same
    rw [answered_id, approved_id, if_pos rfl, answered_of_mem (by simp)]
  · have differs : other.approval ≠ enrollment.approval := by
      intro equal
      exact same (congrArg (·.id) (eq_of_approval_eq distinct otherMember member equal))
    rw [answered_id, approved_id, if_neg same]
    unfold answered
    simp only [List.mem_append, List.mem_singleton, differs, or_false]

end Enrollment

namespace Members

/-- The calls that stand for approving all who wait. -/
def approvals (store : Store) : List Request :=
  (approveAll store.course.enrollments).filterMap store.plan?

/-- What approving all asks for: of everybody who waits that they become a student, and nothing
else. -/
structure AsksForEach (store : Store) : Prop where
  /-- There is one action for each, in the order of the list. -/
  actions : approveAll store.course.enrollments = store.course.pending.map fun e =>
    .updateEnrollmentStatus e.courseId e.id .student
  /-- Each action stands for its own call. -/
  planned : (approveAll store.course.enrollments).map store.plan? =
    store.course.pending.map fun e => some e.approval
  /-- Nobody is asked for twice. -/
  once : (approvals store).Nodup

theorem map_plan?_approveAll (store : Store) :
    (approveAll store.course.enrollments).map store.plan? =
      store.course.pending.map fun e => some e.approval := by
  unfold approveAll
  rw [List.map_map]
  rfl

theorem approvals_eq (store : Store) :
    approvals store = store.course.pending.map (·.approval) := by
  unfold approvals approveAll
  rw [List.filterMap_map]
  exact congrFun List.filterMap_eq_map _

theorem asksForEach {store : Store} (distinct : (store.course.enrollments.map (·.id)).Nodup) :
    AsksForEach store where
  actions := rfl
  planned := map_plan?_approveAll store
  once := by
    rw [approvals_eq]
    refine List.Nodup.map_on ?_ ((List.Nodup.of_map _ distinct).filter _)
    intro enrollment member other otherMember same
    exact Enrollment.eq_of_approval_eq distinct (List.mem_of_mem_filter member)
      (List.mem_of_mem_filter otherMember) same

end Members

namespace Gradebook

variable {book : Gradebook} {answer : Request → Enrollment}

/-- A known enrollment that keeps a role changes in its place, and no other changes. -/
theorem replaceEnrollment_of_known {enrollment : Enrollment}
    (distinct : (book.enrollments.map (·.id)).Nodup) (role : enrollment.status ≠ .none)
    (known : enrollment.id ∈ book.enrollments.map (·.id)) :
    book.replaceEnrollment enrollment =
      { book with
        enrollments := book.enrollments.map fun other =>
          if other.id = enrollment.id then enrollment else other } := by
  unfold replaceEnrollment
  rw [if_neg role, Store.upsert_eq_map distinct known]

/-- Answers change the enrollments that they are about, each in its place. -/
theorem run_answers (distinct : (book.enrollments.map (·.id)).Nodup)
    (grants : ∀ enrollment ∈ book.pending, answer enrollment.approval = enrollment.approved)
    {calls : List Request}
    (asked : ∀ call ∈ calls, ∃ enrollment ∈ book.pending, enrollment.approval = call) :
    book.run (calls.map fun call => .enrollment (answer call)) =
      { book with enrollments := book.enrollments.map (·.answered calls) } := by
  induction calls using List.reverseRecOn with
  | nil => simp
  | append_singleton calls call ih =>
    have earlier := ih fun other member => asked other (List.mem_append_left _ member)
    obtain ⟨enrollment, waits, rfl⟩ := asked call (by simp)
    have listed : enrollment ∈ book.enrollments := List.mem_of_mem_filter waits
    have sameIds : (book.enrollments.map (·.answered calls)).map (·.id) =
        book.enrollments.map (·.id) := by
      simp [List.map_map, Function.comp_def]
    have known : enrollment.approved.id ∈
        (book.enrollments.map (·.answered calls)).map (·.id) := by
      rw [sameIds, Enrollment.approved_id]
      exact List.mem_map_of_mem listed
    rw [List.map_append, List.map_singleton, run_concat, earlier, grants enrollment waits, apply,
      replaceEnrollment_of_known (sameIds ▸ distinct) (by simp [Enrollment.approved]) known]
    dsimp only
    rw [List.map_map]
    congr 1
    refine List.map_congr_left ?_
    intro other member
    exact Enrollment.answered_concat distinct member listed

/-- Those still wait who have not been answered. -/
theorem filter_isPending_answered (enrollments : List Enrollment) (calls : List Request) :
    (enrollments.map (·.answered calls)).filter (·.isPending) =
      (enrollments.filter (·.isPending)).filter (·.approval ∉ calls) := by
  induction enrollments with
  | nil => rfl
  | cons enrollment rest ih =>
    simp only [List.map_cons, List.filter_cons, Enrollment.isPending_answered, ih]
    by_cases called : enrollment.approval ∈ calls
    · cases enrollment.isPending <;> simp [called]
    · cases enrollment.isPending <;> simp [called, Enrollment.answered_of_not_mem called]

end Gradebook

namespace Members

/-- Approving all asks for each enrollment that waits, once and apart from the others. Whichever
calls are answered and in whatever order, the enrollments answered for become students in their
places and all else stays, so those still wait whose calls have failed. -/
theorem approveAll_independent (store : Store)
    (distinct : (store.course.enrollments.map (·.id)).Nodup) {answer : Request → Enrollment}
    (grants : ∀ enrollment ∈ store.course.pending,
      answer enrollment.approval = enrollment.approved) :
    AsksForEach store ∧
    ∀ answered : List Request, answered ⊆ approvals store →
      store.course.run (answered.map fun call => .enrollment (answer call)) =
        { store.course with
          enrollments := store.course.enrollments.map fun enrollment =>
            if enrollment.approval ∈ answered then enrollment.approved else enrollment } ∧
      (store.course.run (answered.map fun call => .enrollment (answer call))).pending =
        store.course.pending.filter (·.approval ∉ answered) := by
  refine ⟨asksForEach distinct, ?_⟩
  intro answered within
  have asked : ∀ call ∈ answered, ∃ enrollment ∈ store.course.pending,
      enrollment.approval = call := by
    intro call member
    have planned := within member
    rw [approvals_eq] at planned
    exact List.mem_map.mp planned
  have after := Gradebook.run_answers distinct grants asked
  refine ⟨after, ?_⟩
  rw [after]
  exact Gradebook.filter_isPending_answered store.course.enrollments answered

/-- A member of the course, in that role. -/
def memberAs (id userId : Id) (status : EnrollmentStatus) : Enrollment :=
  ⟨id, 1, userId, none, status, 0, 0, "", 0⟩

/-- Three wait, around a student. -/
def applicants : List Enrollment :=
  [memberAs 1 200 .pending, memberAs 2 300 .student, memberAs 3 400 .pending,
    memberAs 4 500 .pending]

def applicantStore : Store :=
  { Store.initial with course := { Gradebook.empty with enrollments := applicants } }

/-- A backend that knows the members of the course. -/
def applicantAnswer (call : Request) : Enrollment :=
  ((applicants.find? (·.approval = call)).getD (memberAs 1 200 .pending)).approved

/-- Two of three calls are answered, the last one first, and the third has failed. -/
theorem approveAll_independent_of_failure :
    (applicantStore.course.enrollments.map (·.id)).Nodup ∧
      (∀ enrollment ∈ applicantStore.course.pending,
        applicantAnswer enrollment.approval = enrollment.approved) ∧
      [(memberAs 4 500 .pending).approval, (memberAs 1 200 .pending).approval] ⊆
        approvals applicantStore ∧
      (applicantStore.course.run
        ([(memberAs 4 500 .pending).approval, (memberAs 1 200 .pending).approval].map fun call =>
          .enrollment (applicantAnswer call))).pending = [memberAs 3 400 .pending] := by
  have distinct : (applicantStore.course.enrollments.map (·.id)).Nodup := by decide
  have grants : ∀ enrollment ∈ applicantStore.course.pending,
      applicantAnswer enrollment.approval = enrollment.approved := by decide
  have within : [(memberAs 4 500 .pending).approval, (memberAs 1 200 .pending).approval] ⊆
      approvals applicantStore := by decide
  obtain ⟨_, settled⟩ := approveAll_independent applicantStore distinct grants
  obtain ⟨_, left⟩ := settled _ within
  exact ⟨distinct, grants, within, left⟩

end Members

end Coursework
