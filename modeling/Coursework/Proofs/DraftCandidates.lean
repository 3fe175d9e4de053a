import Coursework.Proofs.DraftEdits
import Coursework.Proofs.RowOrder

/-!
# Candidates and members of a draft

Who is in a draft is no candidate for it, so a candidate who joins leaves the candidates, and comes
back where it was by leaving the draft. `candidates_complement_members` says so for courses in which
people have one name, or a user several enrollments: all enrollments of the user leave at once, and
the others stay in their order.

It rests on sorting: taking candidates away from the sorted ones is sorting those that are left.
-/

namespace Coursework

namespace Group

variable {group : Group} {user : User}

/-- The last member of that identifier leaves if no other one has it. -/
theorem toggled_joinedBy (outside : user.id ∉ group.userIds) :
    (group.joinedBy user).toggled user = group := by
  have others : ∀ member ∈ group.users, ¬(member.id == user.id) = true := by
    intro member listed same
    exact outside (List.mem_map.mpr ⟨member, listed, beq_iff_eq.mp same⟩)
  have member : user.id ∈ (group.joinedBy user).userIds := by
    rw [userIds_joinedBy]
    exact List.mem_append_right _ List.mem_cons_self
  rw [toggled, if_pos (any_id_iff.mpr member), joinedBy, List.eraseP_append_right _ others]
  simp

end Group

namespace Members

/-- What candidates are sorted by: the code points of their names. -/
def nameKey (enrollment : Enrollment) : List Nat := Text.codePoints enrollment.userName

/-- The enrollment is a candidate: that of a student who is ungrouped or in the stored group of the
draft, is not the reader nor a member, and has a name that the query finds. -/
structure IsCandidate (draft : Group) (selfId : Id) (query : String) (enrollment : Enrollment) :
    Prop where
  student : enrollment.status = .student
  free : enrollment.groupId = 0 ∨ draft.id ≠ 0 ∧ enrollment.groupId = draft.id
  other : enrollment.userId ≠ selfId
  outside : enrollment.userId ∉ draft.userIds
  found : Text.found query enrollment.userName = true

variable {enrollments : List Enrollment} {draft : Group} {selfId : Id} {query : String}
  {enrollment : Enrollment} {user : User}

theorem isCandidate_iff :
    IsCandidate draft selfId query enrollment ↔
      (mayJoin draft selfId enrollment && Text.found query enrollment.userName) = true := by
  rw [Bool.and_eq_true, mayJoin_iff]
  constructor
  · rintro ⟨student, free, other, outside, found⟩
    exact ⟨⟨student, free, other, outside⟩, found⟩
  · rintro ⟨⟨student, free, other, outside⟩, found⟩
    exact ⟨student, free, other, outside, found⟩

instance : DecidablePred (IsCandidate draft selfId query) := fun _ =>
  decidable_of_iff _ isCandidate_iff.symm

theorem stablySorted_candidates (enrollments : List Enrollment) (draft : Group) (selfId : Id)
    (query : String) :
    StablySorted nameKey true (enrollments.filter (IsCandidate draft selfId query ·))
      (candidates enrollments draft selfId query) := by
  have compares (a b : Enrollment) : decide (a.userName ≤ b.userName) = true ↔
      InOrder true (nameKey a) (nameKey b) :=
    decide_eq_true_iff.trans Text.codePoints_le_iff.symm
  have same : enrollments.filter (IsCandidate draft selfId query ·) =
      enrollments.filter fun e => mayJoin draft selfId e && Text.found query e.userName :=
    List.filter_congr fun _ _ => Bool.eq_iff_iff.mpr (decide_eq_true_iff.trans isCandidate_iff)
  rw [same]
  exact stablySorted_mergeSort compares _

theorem isCandidate_joinedBy_iff :
    IsCandidate (draft.joinedBy user) selfId query enrollment ↔
      IsCandidate draft selfId query enrollment ∧ enrollment.userId ≠ user.id := by
  constructor
  · rintro ⟨student, free, other, outside, found⟩
    rw [Group.userIds_joinedBy, List.mem_append, List.mem_singleton, not_or] at outside
    exact ⟨⟨student, free, other, outside.1, found⟩, outside.2⟩
  · rintro ⟨⟨student, free, other, outside, found⟩, differs⟩
    refine ⟨student, free, other, ?_, found⟩
    rw [Group.userIds_joinedBy, List.mem_append, List.mem_singleton, not_or]
    exact ⟨outside, differs⟩

/-- Who joins takes all enrollments of the user from the candidates. -/
theorem candidates_joinedBy (enrollments : List Enrollment) (draft : Group) (selfId : Id)
    (query : String) (user : User) :
    candidates enrollments (draft.joinedBy user) selfId query =
      (candidates enrollments draft selfId query).filter (·.userId ≠ user.id) := by
  have left := (stablySorted_candidates enrollments draft selfId query).filter
    fun e => decide (e.userId ≠ user.id)
  have same : (enrollments.filter (IsCandidate draft selfId query ·)).filter
        (fun e => decide (e.userId ≠ user.id)) =
      enrollments.filter (IsCandidate (draft.joinedBy user) selfId query ·) := by
    rw [List.filter_filter]
    refine List.filter_congr fun e _ => ?_
    rw [← Bool.decide_and]
    exact decide_eq_decide.mpr (isCandidate_joinedBy_iff.trans and_comm).symm
  rw [same] at left
  exact (stablySorted_candidates enrollments _ selfId query).unique left

/-- The candidates are the stable order by name of those who may join and are found. One who is
toggled becomes the last member, and the candidates are those without the enrollments of that user.
Toggled again, the user is gone and all is as it was. -/
theorem candidates_complement_members (enrollments : List Enrollment) (draft : Group) (selfId : Id)
    (query : String)
    (own : ∀ enrollment ∈ enrollments, ∀ user, enrollment.user = some user →
      user.id = enrollment.userId) :
    (∀ rows, rows = candidates enrollments draft selfId query ↔
      StablySorted nameKey true (enrollments.filter (IsCandidate draft selfId query ·)) rows) ∧
    ∀ enrollment ∈ candidates enrollments draft selfId query,
      ∀ user, enrollment.user = some user →
      ∀ selection : Selection, selection.activeGroup = some draft →
        selection.reduce (.toggleGroupUser user) = selection.drafting (draft.joinedBy user) ∧
        candidates enrollments (draft.joinedBy user) selfId query =
          (candidates enrollments draft selfId query).filter (·.userId ≠ user.id) ∧
        (selection.reduce (.toggleGroupUser user)).reduce (.toggleGroupUser user) = selection := by
  have sorted := stablySorted_candidates enrollments draft selfId query
  refine ⟨fun rows => sorted.eq_iff, ?_⟩
  intro enrollment candidate user known selection active
  obtain ⟨listed, joins, _⟩ := mem_candidates_iff.mp candidate
  have outside : user.id ∉ draft.userIds := by
    rw [own enrollment listed user known]
    exact (mayJoin_iff.mp joins).2.2.2
  have joined : selection.reduce (.toggleGroupUser user) =
      selection.drafting (draft.joinedBy user) := by
    rw [Selection.reduce_toggleGroupUser active, Group.toggled_of_not_mem outside]
  have restored : selection.drafting draft = selection := by
    rw [Selection.drafting, ← active]
  refine ⟨joined, candidates_joinedBy enrollments draft selfId query user, ?_⟩
  rw [joined, Selection.reduce_toggleGroupUser rfl, Group.toggled_joinedBy outside]
  exact restored

/-- Two students of one name, the first of whom is enrolled twice. -/
def namesakes : List Enrollment :=
  [Grading.studentNamed 200 "Bo", Grading.studentNamed 400 "Bo",
    { Grading.studentNamed 200 "Bo" with id := 5 }]

/-- The user of the first two enrollments that are candidates. -/
def firstNamesake : User := { User.blank with id := 200, name := "Bo" }

/-- The stored group of which one member has left. -/
def single : Group := { pair with users := [userOf 300] }

theorem candidates_complement_members_of_namesakes :
    (∀ enrollment ∈ namesakes, ∀ user, enrollment.user = some user →
        user.id = enrollment.userId) ∧
      Grading.studentNamed 200 "Bo" ∈ candidates namesakes single 100 "b" ∧
      candidates namesakes (single.joinedBy firstNamesake) 100 "b" =
        (candidates namesakes single 100 "b").filter (·.userId ≠ 200) ∧
      (((Selection.initial.drafting single).reduce (.toggleGroupUser firstNamesake)).reduce
        (.toggleGroupUser firstNamesake)) = Selection.initial.drafting single := by
  have own : ∀ enrollment ∈ namesakes, ∀ user, enrollment.user = some user →
      user.id = enrollment.userId := by decide
  have candidate : Grading.studentNamed 200 "Bo" ∈ candidates namesakes single 100 "b" :=
    mem_candidates_iff.mpr ⟨by decide, by decide, by decide +kernel⟩
  obtain ⟨_, complement⟩ := candidates_complement_members namesakes single 100 "b" own
  obtain ⟨_, left, restored⟩ := complement _ candidate firstNamesake rfl
    (Selection.initial.drafting single) rfl
  exact ⟨own, candidate, left, restored⟩

end Members

end Coursework
