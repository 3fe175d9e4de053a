import Coursework.Proofs.KeyedLists
import Coursework.Proofs.StableSorting
import Coursework.Store.Gradebook

/-!
# Runs of updates

After a snapshot the backend sends single changed entries, in any order. `run_keepsKeyedStore`
says what the gradebook then holds: under each identifier the entry that came last, in the order
in which entries first came.

Enrollments are the exception on both counts. One without a role leaves, and may come back at the
end; and a group that comes later puts its identifier on the enrollments of its members. So an
enrollment is described from its own last update on, and not by that update alone.
-/

namespace Coursework

/-- What the backend sends about one entry of a course. -/
inductive Update where
  | enrollment (enrollment : Enrollment)
  | group (group : Group)
  | submission (submission : Submission)
  deriving DecidableEq

namespace Update

def enrollment? : Update → Option Enrollment
  | enrollment e => some e
  | _ => none

def group? : Update → Option Group
  | group g => some g
  | _ => none

def submission? : Update → Option Submission
  | submission s => some s
  | _ => none

/-- The update makes an enrollment leave the course. -/
def removes (update : Update) (id : Id) : Bool :=
  match update with
  | enrollment e => e.id == id && e.status == .none
  | _ => false

end Update

namespace Enrollment

/-- The enrollment once a group has come. -/
def joining (enrollment : Enrollment) (group : Group) : Enrollment :=
  if enrollment.userId ∈ group.userIds then { enrollment with groupId := group.id } else enrollment

/-- The enrollment with the identifier of the last group among the updates that has its user. -/
def regrouped (enrollment : Enrollment) (updates : List Update) : Enrollment :=
  match (updates.filterMap Update.group?).reverse.find? fun g => enrollment.userId ∈ g.userIds with
  | some group => { enrollment with groupId := group.id }
  | none => enrollment

@[simp] theorem joining_id (enrollment : Enrollment) (group : Group) :
    (enrollment.joining group).id = enrollment.id := by
  unfold joining
  split <;> rfl

@[simp] theorem joining_userId (enrollment : Enrollment) (group : Group) :
    (enrollment.joining group).userId = enrollment.userId := by
  unfold joining
  split <;> rfl

@[simp] theorem regrouped_nil (enrollment : Enrollment) : enrollment.regrouped [] = enrollment :=
  rfl

/-- Only groups move an enrollment. -/
theorem regrouped_concat_of_not_group (enrollment : Enrollment) (updates : List Update)
    (update : Update) (notGroup : update.group? = none) :
    enrollment.regrouped (updates ++ [update]) = enrollment.regrouped updates := by
  simp [regrouped, List.filterMap_append, notGroup]

theorem regrouped_concat_group (enrollment : Enrollment) (updates : List Update) (group : Group) :
    enrollment.regrouped (updates ++ [.group group]) =
      (enrollment.regrouped updates).joining group := by
  have lastIs : List.filterMap Update.group? [.group group] = [group] := rfl
  have sameUser : (enrollment.regrouped updates).userId = enrollment.userId := by
    unfold regrouped
    split <;> rfl
  unfold joining
  rw [sameUser]
  conv_lhs => unfold regrouped
  rw [List.filterMap_append, lastIs, List.reverse_append, List.reverse_singleton,
    List.singleton_append, List.find?_cons]
  by_cases member : enrollment.userId ∈ group.userIds
  · rw [if_pos member]
    simp only [member, decide_true]
    unfold regrouped
    split <;> rfl
  · rw [if_neg member]
    simp only [member, decide_false]
    rfl

end Enrollment

namespace Gradebook

/-- Takes in an update. -/
def apply (book : Gradebook) : Update → Gradebook
  | .enrollment e => book.replaceEnrollment e
  | .group g => book.upsertGroup g
  | .submission s => book.replaceSubmission s

/-- Takes in updates one after the other. -/
def run (book : Gradebook) (updates : List Update) : Gradebook :=
  updates.foldl apply book

@[simp] theorem run_nil (book : Gradebook) : book.run [] = book := rfl

@[simp] theorem run_append (book : Gradebook) (before after : List Update) :
    book.run (before ++ after) = (book.run before).run after :=
  List.foldl_append

theorem run_concat (book : Gradebook) (updates : List Update) (update : Update) :
    book.run (updates ++ [update]) = (book.run updates).apply update := by
  rw [run_append]
  rfl

/-! ## Groups, submissions and assignments -/

/-- Groups change by groups only. -/
theorem groups_run (book : Gradebook) (updates : List Update) :
    (book.run updates).groups =
      Store.upsertAll (·.id) book.groups (updates.filterMap Update.group?) := by
  induction updates using List.reverseRecOn with
  | nil => rfl
  | append_singleton updates update ih =>
    rw [run_concat, List.filterMap_append]
    cases update with
    | enrollment e =>
      simpa [apply, replaceEnrollment, Update.group?, List.filterMap_cons] using ih
    | group g => simp [apply, upsertGroup, Update.group?, ih]
    | submission s =>
      simpa [apply, replaceSubmission, Update.group?, List.filterMap_cons] using ih

/-- Submissions change by submissions only. -/
theorem submissions_run (book : Gradebook) (updates : List Update) :
    (book.run updates).submissions =
      Store.upsertAll (·.id) book.submissions (updates.filterMap Update.submission?) := by
  induction updates using List.reverseRecOn with
  | nil => rfl
  | append_singleton updates update ih =>
    rw [run_concat, List.filterMap_append]
    cases update with
    | enrollment e =>
      simpa [apply, replaceEnrollment, Update.submission?, List.filterMap_cons] using ih
    | group g => simpa [apply, upsertGroup, Update.submission?, List.filterMap_cons] using ih
    | submission s => simp [apply, replaceSubmission, Update.submission?, ih]

/-- Nothing changes the assignments. -/
theorem assignments_run (book : Gradebook) (updates : List Update) :
    (book.run updates).assignments = book.assignments := by
  induction updates using List.reverseRecOn with
  | nil => rfl
  | append_singleton updates update ih =>
    rw [run_concat, ← ih]
    cases update <;> rfl

theorem stablySorted_assignments_load (book : Gradebook) (snapshot : Snapshot) :
    StablySorted (fun assignment : Assignment => assignment.order.toNat) true
      snapshot.assignments (book.load snapshot).assignments :=
  stablySorted_mergeSort (fun _ _ => decide_eq_true_iff.trans UInt32.le_iff_toNat_le) _

theorem pairwise_assignments_load (book : Gradebook) (snapshot : Snapshot) :
    (book.load snapshot).assignments.Pairwise fun a b => a.order ≤ b.order :=
  (stablySorted_assignments_load book snapshot).ordered.imp UInt32.le_iff_toNat_le.mpr

/-- Loading keeps assignments of one order as the snapshot has them. -/
theorem filter_assignments_load (book : Gradebook) (snapshot : Snapshot) (order : UInt32) :
    (book.load snapshot).assignments.filter (·.order == order) =
      snapshot.assignments.filter (·.order == order) := by
  have ofOrder : (fun assignment : Assignment => assignment.order == order) =
      fun assignment => decide (assignment.order.toNat = order.toNat) := by
    funext assignment
    rw [Bool.eq_iff_iff, beq_iff_eq, decide_eq_true_eq, UInt32.toNat_inj]
  rw [ofOrder]
  exact (stablySorted_assignments_load book snapshot).ties order.toNat

/-! ## Enrollments -/

/-- The identifiers of the enrollments after one update. -/
theorem enrollmentIds_apply (book : Gradebook) (update : Update) :
    (book.apply update).enrollments.map (·.id) =
      match update with
      | .enrollment e =>
        if e.status = .none then (book.enrollments.map (·.id)).filter (· != e.id)
        else if e.id ∈ book.enrollments.map (·.id) then book.enrollments.map (·.id)
        else book.enrollments.map (·.id) ++ [e.id]
      | _ => book.enrollments.map (·.id) := by
  cases update with
  | enrollment e =>
    simp only [apply, replaceEnrollment]
    split
    · rw [List.filter_map]
      rfl
    · exact Store.map_upsert _ _ _
  | group g =>
    simp only [apply, upsertGroup, List.map_map]
    refine List.map_congr_left ?_
    intro e _
    simp only [Function.comp_apply]
    split <;> rfl
  | submission s => rfl

theorem nodup_enrollmentIds_apply {book : Gradebook} (update : Update)
    (distinct : (book.enrollments.map (·.id)).Nodup) :
    ((book.apply update).enrollments.map (·.id)).Nodup := by
  cases update with
  | enrollment e =>
    simp only [apply, replaceEnrollment]
    split
    · exact distinct.sublist (List.filter_sublist.map _)
    · exact Store.nodup_upsert e distinct
  | group g =>
    rw [enrollmentIds_apply]
    exact distinct
  | submission s => exact distinct

/-- One update keeps the enrollments that it does not remove in their places, and puts one that
comes at the end. -/
theorem enrollmentIds_apply_eq_append (book : Gradebook) (update : Update) :
    ∃ newcomers, (book.apply update).enrollments.map (·.id) =
        (book.enrollments.map (·.id)).filter (!update.removes ·) ++ newcomers ∧
      ∀ id ∈ newcomers, ∃ e, .enrollment e = update ∧ e.id = id := by
  have allStay (stays : ∀ id, update.removes id = false) :
      (book.enrollments.map (·.id)).filter (!update.removes ·) = book.enrollments.map (·.id) :=
    List.filter_eq_self.mpr fun id _ => by rw [stays id, Bool.not_false]
  rw [enrollmentIds_apply]
  cases update with
  | enrollment e =>
    by_cases leaves : e.status = .none
    · refine ⟨[], ?_, by simp⟩
      rw [List.append_nil]
      simp only [leaves, if_true]
      refine List.filter_congr ?_
      intro id _
      simp [Update.removes, leaves, bne, BEq.comm (a := id)]
    · rw [allStay (by simp [Update.removes, leaves])]
      simp only [leaves, if_false]
      split
      · exact ⟨[], (List.append_nil _).symm, by simp⟩
      · exact ⟨[e.id], rfl, by simp⟩
  | group g =>
    rw [allStay (by simp [Update.removes])]
    exact ⟨[], (List.append_nil _).symm, by simp⟩
  | submission s =>
    rw [allStay (by simp [Update.removes])]
    exact ⟨[], (List.append_nil _).symm, by simp⟩

/-- A run keeps the enrollments that nothing removes in their places, and puts those that come,
or come back, at the end. -/
theorem enrollmentIds_run (book : Gradebook) (updates : List Update) :
    ∃ newcomers, (book.run updates).enrollments.map (·.id) =
        (book.enrollments.map (·.id)).filter (fun id => !updates.any (·.removes id)) ++ newcomers ∧
      ∀ id ∈ newcomers, ∃ e, .enrollment e ∈ updates ∧ e.id = id := by
  induction updates using List.reverseRecOn with
  | nil => exact ⟨[], by simp⟩
  | append_singleton updates update ih =>
    obtain ⟨newcomers, ids, came⟩ := ih
    obtain ⟨last, idsAfter, cameLast⟩ := enrollmentIds_apply_eq_append (book.run updates) update
    -- An update may also remove one of the newcomers.
    refine ⟨newcomers.filter (!update.removes ·) ++ last, ?_, ?_⟩
    · rw [run_concat, idsAfter, ids, List.filter_append, List.filter_filter, List.append_assoc]
      congr 2
      funext id
      simp [Bool.and_comm]
    · intro id member
      rcases List.mem_append.mp member with earlier | later
      · obtain ⟨e, sent, same⟩ := came id (List.mem_of_mem_filter earlier)
        exact ⟨e, List.mem_append_left _ sent, same⟩
      · obtain ⟨e, sent, same⟩ := cameLast id later
        exact ⟨e, by simp [sent], same⟩

/-- One update decides whether its own enrollment is there. -/
theorem mem_enrollmentIds_apply (book : Gradebook) (update : Update) (id : Id) :
    id ∈ (book.apply update).enrollments.map (·.id) ↔
      match update with
      | .enrollment e =>
        if e.id = id then e.status ≠ .none else id ∈ book.enrollments.map (·.id)
      | _ => id ∈ book.enrollments.map (·.id) := by
  cases update with
  | enrollment e =>
    by_cases leaves : e.status = .none
    · rw [enrollmentIds_apply]
      by_cases here : e.id = id
      · simp [leaves, here]
      · simp [leaves, here, Ne.symm here]
    · have added : (book.apply (.enrollment e)).enrollments =
          Store.upsert (·.id) e book.enrollments :=
        if_neg leaves
      rw [added, Store.mem_map_upsert]
      by_cases here : e.id = id
      · simp [leaves, here]
      · simp [here, Ne.symm here]
  | group g => rw [enrollmentIds_apply]
  | submission s => rw [enrollmentIds_apply]

/-- An enrollment is there if its last update gave it a role, or, without an update, if it was
there before. -/
theorem mem_enrollmentIds_run (book : Gradebook) (updates : List Update) (id : Id) :
    id ∈ (book.run updates).enrollments.map (·.id) ↔
      match Store.last? (·.id) id (updates.filterMap Update.enrollment?) with
      | some e => e.status ≠ .none
      | none => id ∈ book.enrollments.map (·.id) := by
  induction updates using List.reverseRecOn with
  | nil => rfl
  | append_singleton updates update ih =>
    rw [run_concat, mem_enrollmentIds_apply, List.filterMap_append]
    cases update with
    | enrollment e =>
      have lastIs : List.filterMap Update.enrollment? [.enrollment e] = [e] := rfl
      rw [lastIs, Store.last?_concat]
      by_cases here : e.id = id
      · simp [here]
      · simpa [here] using ih
    | group g => simpa [Update.enrollment?, List.filterMap_cons] using ih
    | submission s => simpa [Update.enrollment?, List.filterMap_cons] using ih

/-- What is found under an identifier after one update. -/
theorem find?_enrollments_apply (book : Gradebook) (update : Update) (id : Id) :
    Store.find? (·.id) id (book.apply update).enrollments =
      match update with
      | .enrollment e =>
        if e.id = id then if e.status = .none then none else some e
        else Store.find? (·.id) id book.enrollments
      | .group g => (Store.find? (·.id) id book.enrollments).map (·.joining g)
      | .submission _ => Store.find? (·.id) id book.enrollments := by
  cases update with
  | enrollment e =>
    simp only [apply, replaceEnrollment]
    by_cases leaves : e.status = .none
    · rw [if_pos leaves, if_pos leaves, Store.find?_filter_ne]
      by_cases here : e.id = id
      · rw [if_pos here.symm, if_pos here]
      · rw [if_neg (Ne.symm here), if_neg here]
    · rw [if_neg leaves, if_neg leaves, Store.find?_upsert]
  | group g => exact Store.find?_map (fun e => e.joining_id g) id book.enrollments
  | submission s => rfl

/-- Without an update of its own, an enrollment changes by the groups that come. -/
theorem find?_enrollments_run_of_untouched (book : Gradebook) {updates : List Update} {id : Id}
    (untouched : ∀ e, .enrollment e ∈ updates → e.id ≠ id) :
    Store.find? (·.id) id (book.run updates).enrollments =
      (Store.find? (·.id) id book.enrollments).map (·.regrouped updates) := by
  induction updates using List.reverseRecOn with
  | nil => simp
  | append_singleton updates update ih =>
    have earlier := ih fun e member => untouched e (List.mem_append_left _ member)
    rw [run_concat, find?_enrollments_apply]
    cases update with
    | enrollment e =>
      dsimp only
      rw [if_neg (untouched e (by simp)), earlier]
      simp only [Enrollment.regrouped_concat_of_not_group _ _ (.enrollment e) rfl]
    | group g =>
      dsimp only
      rw [earlier, Option.map_map]
      congr 1
      funext e
      exact (e.regrouped_concat_group updates g).symm
    | submission s =>
      dsimp only
      rw [earlier]
      simp only [Enrollment.regrouped_concat_of_not_group _ _ (.submission s) rfl]

/-- The last update of an enrollment puts it there, unless it takes away the role; later groups
move it. -/
theorem find?_enrollments_run_of_last (book : Gradebook) (before : List Update)
    (enrollment : Enrollment) {after : List Update}
    (last : ∀ e, .enrollment e ∈ after → e.id ≠ enrollment.id) :
    Store.find? (·.id) enrollment.id
        (book.run (before ++ .enrollment enrollment :: after)).enrollments =
      if enrollment.status = .none then none else some (enrollment.regrouped after) := by
  -- From its last update on, the enrollment is one that no update touches.
  have split : book.run (before ++ .enrollment enrollment :: after) =
      ((book.run before).apply (.enrollment enrollment)).run after := by
    rw [run_append]
    rfl
  rw [split, find?_enrollments_run_of_untouched _ last, find?_enrollments_apply]
  dsimp only
  rw [if_pos rfl]
  by_cases leaves : enrollment.status = .none
  · simp [leaves]
  · simp [leaves]

theorem nodup_enrollmentIds_run {book : Gradebook} (updates : List Update)
    (distinct : (book.enrollments.map (·.id)).Nodup) :
    ((book.run updates).enrollments.map (·.id)).Nodup := by
  induction updates using List.reverseRecOn with
  | nil => exact distinct
  | append_singleton updates update ih =>
    rw [run_concat]
    exact nodup_enrollmentIds_apply update ih

/-! ## The whole gradebook -/

/-- What a gradebook that starts from a snapshot holds after updates. -/
structure KeepsKeyedStore (start : Gradebook) (snapshot : Snapshot) (updates : List Update) :
    Prop where
  distinctEnrollments : ((start.run updates).enrollments.map (·.id)).Nodup
  distinctGroups : ((start.run updates).groups.map (·.id)).Nodup
  distinctSubmissions : ((start.run updates).submissions.map (·.id)).Nodup
  groupFound : ∀ id, Store.find? (·.id) id (start.run updates).groups =
    (Store.last? (·.id) id (updates.filterMap Update.group?)).or
      (Store.find? (·.id) id snapshot.groups)
  submissionFound : ∀ id, Store.find? (·.id) id (start.run updates).submissions =
    (Store.last? (·.id) id (updates.filterMap Update.submission?)).or
      (Store.find? (·.id) id snapshot.submissions)
  /-- An enrollment without updates of its own is the loaded one, in the group that came last. -/
  enrollmentLoaded : ∀ id, (∀ e, .enrollment e ∈ updates → e.id ≠ id) →
    Store.find? (·.id) id (start.run updates).enrollments =
      (Store.find? (·.id) id snapshot.enrollments).map (·.regrouped updates)
  /-- Any other is the one of its last update, in the group that came last after it. -/
  enrollmentFolded : ∀ before enrollment after,
    updates = before ++ .enrollment enrollment :: after →
    (∀ e, .enrollment e ∈ after → e.id ≠ enrollment.id) →
    Store.find? (·.id) enrollment.id (start.run updates).enrollments =
      if enrollment.status = .none then none else some (enrollment.regrouped after)
  enrollmentAbsent : ∀ id, id ∉ (start.run updates).enrollments.map (·.id) ↔
    match Store.last? (·.id) id (updates.filterMap Update.enrollment?) with
    | some e => e.status = .none
    | none => id ∉ snapshot.enrollments.map (·.id)
  /-- From any moment on, what is not removed stays in its place before all that comes. -/
  enrollmentOrder : ∀ before after, updates = before ++ after →
    ∃ newcomers, (start.run updates).enrollments.map (·.id) =
        ((start.run before).enrollments.map (·.id)).filter
          (fun id => !after.any (·.removes id)) ++ newcomers ∧
      ∀ id ∈ newcomers, ∃ e, .enrollment e ∈ after ∧ e.id = id
  groupOrder : ∀ before after, updates = before ++ after →
    ∃ newcomers, (start.run updates).groups.map (·.id) =
        (start.run before).groups.map (·.id) ++ newcomers ∧
      ∀ id ∈ newcomers, id ∈ (after.filterMap Update.group?).map (·.id)
  submissionOrder : ∀ before after, updates = before ++ after →
    ∃ newcomers, (start.run updates).submissions.map (·.id) =
        (start.run before).submissions.map (·.id) ++ newcomers ∧
      ∀ id ∈ newcomers, id ∈ (after.filterMap Update.submission?).map (·.id)
  assignmentsSame : (start.run updates).assignments.Perm snapshot.assignments
  assignmentsOrdered : (start.run updates).assignments.Pairwise fun a b => a.order ≤ b.order
  /-- Assignments of one order stand as the snapshot has them. -/
  assignmentsStable : ∀ order, (start.run updates).assignments.filter (·.order == order) =
    snapshot.assignments.filter (·.order == order)

/-- Whatever the backend sends after a snapshot without repeated identifiers, the gradebook stays
a store by identifier. -/
theorem run_keepsKeyedStore (book : Gradebook) (snapshot : Snapshot) (updates : List Update)
    (enrollments : (snapshot.enrollments.map (·.id)).Nodup)
    (groups : (snapshot.groups.map (·.id)).Nodup)
    (submissions : (snapshot.submissions.map (·.id)).Nodup) :
    KeepsKeyedStore (book.load snapshot) snapshot updates where
  distinctEnrollments := nodup_enrollmentIds_run updates enrollments
  distinctGroups := by
    rw [groups_run]
    exact Store.nodup_upsertAll _ groups
  distinctSubmissions := by
    rw [submissions_run]
    exact Store.nodup_upsertAll _ submissions
  groupFound id := by
    rw [groups_run, Store.find?_upsertAll]
    rfl
  submissionFound id := by
    rw [submissions_run, Store.find?_upsertAll]
    rfl
  enrollmentLoaded id untouched := find?_enrollments_run_of_untouched _ untouched
  enrollmentFolded before enrollment after split last := by
    rw [split]
    exact find?_enrollments_run_of_last _ before enrollment last
  enrollmentAbsent id := by
    rw [mem_enrollmentIds_run]
    cases Store.last? (·.id) id (updates.filterMap Update.enrollment?) with
    | some e => exact not_not
    | none => rfl
  enrollmentOrder before after split := by
    rw [split, run_append]
    exact enrollmentIds_run _ after
  groupOrder before after split := by
    rw [split, run_append, groups_run _ after]
    exact Store.map_upsertAll _ _ _
  submissionOrder before after split := by
    rw [split, run_append, submissions_run _ after]
    exact Store.map_upsertAll _ _ _
  assignmentsSame := by
    rw [assignments_run]
    exact List.mergeSort_perm _ _
  assignmentsOrdered := by
    rw [assignments_run]
    exact pairwise_assignments_load book snapshot
  assignmentsStable order := by
    rw [assignments_run]
    exact filter_assignments_load book snapshot order

/-- A course with two students, a group and a submission. -/
def pairSnapshot : Snapshot where
  course := ⟨1, "DAT320", "", 2024, 100, 0⟩
  assignments := [⟨20, 1, "Second", "", 80, 2, true, false, 0⟩,
    ⟨10, 1, "First", "", 80, 1, false, false, 0⟩]
  enrollments := [⟨1, 1, 200, none, .student, 0, 0, "", 0⟩,
    ⟨2, 1, 300, none, .student, 0, 0, "", 0⟩]
  groups := [⟨8, 1, "Other", .pending, []⟩]
  submissions := [{ Submission.blank with id := 50, assignmentId := 10, userId := 200 }]

/-- The first student leaves and comes back, around a group of both. -/
def returnUpdates : List Update :=
  [.enrollment ⟨1, 1, 200, none, .none, 0, 0, "", 0⟩,
    .group ⟨7, 1, "Pair", .pending, [{ User.blank with id := 200 }, { User.blank with id := 300 }]⟩,
    .enrollment ⟨1, 1, 200, none, .student, 0, 0, "", 0⟩,
    .submission { Submission.blank with id := 50, assignmentId := 10, userId := 200, score := 90 }]

theorem run_keepsKeyedStore_return :
    (pairSnapshot.enrollments.map (·.id)).Nodup ∧ (pairSnapshot.groups.map (·.id)).Nodup ∧
      (pairSnapshot.submissions.map (·.id)).Nodup ∧
      KeepsKeyedStore (empty.load pairSnapshot) pairSnapshot returnUpdates := by
  have enrollments : (pairSnapshot.enrollments.map (·.id)).Nodup := by decide
  have groups : (pairSnapshot.groups.map (·.id)).Nodup := by decide
  have submissions : (pairSnapshot.submissions.map (·.id)).Nodup := by decide
  exact ⟨enrollments, groups, submissions,
    run_keepsKeyedStore empty pairSnapshot returnUpdates enrollments groups submissions⟩

/-- The student who came back stands last, and outside the group that came before. -/
example :
    ((empty.load pairSnapshot).run returnUpdates).enrollments.map (fun e => (e.id, e.groupId)) =
      [(2, 7), (1, 0)] := by decide

end Gradebook

end Coursework
