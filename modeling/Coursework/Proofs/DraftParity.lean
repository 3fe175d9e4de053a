import Mathlib.Algebra.Ring.Parity
import Mathlib.Data.List.Induction
import Coursework.Proofs.DraftCandidates

/-!
# Long runs of edits

A draft can be edited in any way: anybody may be toggled, member or not, and any name be given.
`edits_obey_parity` says what such a run leaves. Who was toggled an even number of times is a member
or not as before, and who was toggled an odd number of times the other way round, so the order of
the toggles does not tell who the members are. It tells where they stand.

Toggling takes away the first member of an identifier only. So the law needs distinct members, and
the invariant carries them along.
-/

namespace Coursework

namespace Group

variable {group : Group}

theorem nodup_userIds_toggled (distinct : group.userIds.Nodup) (user : User) :
    (group.toggled user).userIds.Nodup := by
  by_cases member : user.id ∈ group.userIds
  · rw [userIds_toggled_of_mem member]
    exact distinct.erase user.id
  · rw [userIds_toggled_of_not_mem member, ← List.concat_eq_append]
    exact distinct.concat member

/-- A toggle turns the membership of one user. -/
theorem mem_userIds_toggled_iff (distinct : group.userIds.Nodup) {user : User} {userId : Id} :
    userId ∈ (group.toggled user).userIds ↔ Xor (userId ∈ group.userIds) (userId = user.id) := by
  by_cases member : user.id ∈ group.userIds
  · rw [userIds_toggled_of_mem member, distinct.mem_erase_iff]
    by_cases same : userId = user.id
    · simp [Xor, same, member]
    · simp [Xor, same]
  · rw [userIds_toggled_of_not_mem member, List.mem_append, List.mem_singleton]
    by_cases same : userId = user.id
    · simp [Xor, same, member]
    · simp [Xor, same]

/-- The others stay, in their order. -/
theorem filter_users_toggled (group : Group) {user : User} {kept : User → Bool}
    (excluded : ∀ member : User, member.id = user.id → kept member = false) :
    (group.toggled user).users.filter kept = group.users.filter kept := by
  unfold toggled
  dsimp only
  split
  · induction group.users with
    | nil => rfl
    | cons member rest ih =>
      by_cases same : member.id = user.id
      · rw [List.eraseP_cons_of_pos (by simpa using same),
          List.filter_cons_of_neg (by simp [excluded member same])]
      · rw [List.eraseP_cons_of_neg (by simpa using same), List.filter_cons, List.filter_cons, ih]
  · rw [List.filter_append, List.filter_cons_of_neg (by simp [excluded user rfl]), List.filter_nil,
      List.append_nil]

theorem isApproved_congr {other : Group} (same : group.status = other.status) :
    group.isApproved = other.isApproved := by
  rw [isApproved, isApproved, same]

end Group

namespace Members

/-- What is done to a draft. -/
inductive Edit where
  | toggle (user : User)
  | rename (name : String)

namespace Edit

def action : Edit → Action
  | toggle user => .toggleGroupUser user
  | rename name => .updateGroupName name

/-- The draft after the edit. -/
def applied (group : Group) : Edit → Group
  | toggle user => group.toggled user
  | rename name => group.renamed name

/-- Whom the edit toggles. -/
def toggledId? : Edit → Option Id
  | toggle user => some user.id
  | rename _ => none

/-- The name that the edit gives. -/
def name? : Edit → Option String
  | toggle _ => none
  | rename name => some name

end Edit

/-- The identifiers of those who are toggled, as often as they are. -/
def toggledIds (edits : List Edit) : List Id := edits.filterMap Edit.toggledId?

/-- The name that is given last. -/
def lastName? (edits : List Edit) : Option String := (edits.filterMap Edit.name?).getLast?

theorem toggledIds_concat_toggle (edits : List Edit) (user : User) :
    toggledIds (edits ++ [.toggle user]) = toggledIds edits ++ [user.id] := by
  simp [toggledIds, Edit.toggledId?]

theorem toggledIds_concat_rename (edits : List Edit) (name : String) :
    toggledIds (edits ++ [.rename name]) = toggledIds edits := by
  simp [toggledIds, Edit.toggledId?]

/-- One more toggle turns the parity of one count. -/
theorem odd_count_concat {ids : List Id} {last userId : Id} :
    Odd ((ids ++ [last]).count userId) ↔ Xor (Odd (ids.count userId)) (userId = last) := by
  rw [List.count_append, List.count_singleton]
  by_cases same : userId = last
  · simp [same, Nat.odd_add_one, Xor]
  · simp [same, Ne.symm same, Xor]

theorem xor_assoc_iff {a b c : Prop} : Xor (Xor a b) c ↔ Xor a (Xor b c) := by
  unfold Xor
  tauto

theorem lastName?_concat_toggle (edits : List Edit) (user : User) :
    lastName? (edits ++ [.toggle user]) = lastName? edits := by
  simp [lastName?, Edit.name?]

theorem lastName?_concat_rename (edits : List Edit) (name : String) :
    lastName? (edits ++ [.rename name]) = some name := by
  simp [lastName?, Edit.name?]

end Members

namespace Selection

open Members

variable {selection : Selection} {draft : Group}

/-- The selection after edits, one after the other. -/
def edited (selection : Selection) (edits : List Edit) : Selection :=
  edits.foldl (fun selection edit => selection.reduce edit.action) selection

theorem edited_concat (selection : Selection) (edits : List Edit) (edit : Edit) :
    selection.edited (edits ++ [edit]) = (selection.edited edits).reduce edit.action := by
  simp [edited]

theorem reduce_action (active : selection.activeGroup = some draft) (edit : Edit) :
    selection.reduce edit.action = selection.drafting (edit.applied draft) := by
  cases edit with
  | toggle user => exact reduce_toggleGroupUser active user
  | rename name => exact reduce_updateGroupName active name

/-- Without a draft there is nothing to edit. -/
theorem reduce_action_of_none (inactive : selection.activeGroup = none) (edit : Edit) :
    selection.reduce edit.action = selection := by
  obtain ⟨activeGroup, _, _, _, _, _⟩ := selection
  obtain rfl : activeGroup = none := inactive
  cases edit with
  | toggle user => rfl
  | rename name => rfl

end Selection

namespace Members

/-- What edits have made of a draft. -/
structure EditedBy (begun : Group) (edits : List Edit) (now : Group) : Prop where
  distinct : now.userIds.Nodup
  parity : ∀ userId, userId ∈ now.userIds ↔
    Xor (userId ∈ begun.userIds) (Odd ((toggledIds edits).count userId))
  untoggled : now.users.filter (·.id ∉ toggledIds edits) =
    begun.users.filter (·.id ∉ toggledIds edits)
  sameId : now.id = begun.id
  sameCourse : now.courseId = begun.courseId
  sameStatus : now.status = begun.status
  named : now.name = if begun.isApproved then begun.name else (lastName? edits).getD begun.name

namespace EditedBy

variable {begun now : Group} {edits : List Edit}

theorem opened (distinct : begun.userIds.Nodup) : EditedBy begun [] begun where
  distinct := distinct
  parity userId := by simp [toggledIds, Xor]
  untoggled := rfl
  sameId := rfl
  sameCourse := rfl
  sameStatus := rfl
  named := by simp [lastName?]

theorem renamed (kept : EditedBy begun edits now) (name : String) :
    EditedBy begun (edits ++ [.rename name]) (now.renamed name) where
  distinct := by
    rw [Group.userIds_renamed]
    exact kept.distinct
  parity userId := by
    rw [Group.userIds_renamed, toggledIds_concat_rename]
    exact kept.parity userId
  untoggled := by
    rw [Group.users_renamed, toggledIds_concat_rename]
    exact kept.untoggled
  sameId := (now.renamed_id name).trans kept.sameId
  sameCourse := by
    rw [Group.renamed_eq]
    exact kept.sameCourse
  sameStatus := by
    rw [Group.renamed_eq]
    exact kept.sameStatus
  named := by
    rw [Group.renamed_eq, Group.isApproved_congr kept.sameStatus, lastName?_concat_rename,
      Option.getD_some]
    dsimp only
    split
    · rename_i approved
      rw [kept.named, if_pos approved]
    · rfl

theorem toggled (kept : EditedBy begun edits now) (user : User) :
    EditedBy begun (edits ++ [.toggle user]) (now.toggled user) where
  distinct := Group.nodup_userIds_toggled kept.distinct user
  parity userId := by
    rw [Group.mem_userIds_toggled_iff kept.distinct, kept.parity, toggledIds_concat_toggle,
      odd_count_concat, xor_assoc_iff]
  untoggled := by
    have narrower (users : List User) :
        users.filter (·.id ∉ toggledIds (edits ++ [.toggle user])) =
          (users.filter (·.id ∉ toggledIds edits)).filter (·.id ≠ user.id) := by
      rw [List.filter_filter]
      refine List.filter_congr fun member _ => ?_
      rw [← Bool.decide_and, toggledIds_concat_toggle]
      refine decide_eq_decide.mpr ?_
      rw [List.mem_append, List.mem_singleton, not_or, and_comm]
    rw [narrower, narrower, ← kept.untoggled, List.filter_filter, List.filter_filter]
    refine Group.filter_users_toggled now fun member same => ?_
    simp [same]
  sameId := kept.sameId
  sameCourse := kept.sameCourse
  sameStatus := kept.sameStatus
  named := by
    rw [lastName?_concat_toggle]
    exact kept.named

theorem applied (kept : EditedBy begun edits now) (edit : Edit) :
    EditedBy begun (edits ++ [edit]) (edit.applied now) := by
  cases edit with
  | toggle user => exact kept.toggled user
  | rename name => exact kept.renamed name

end EditedBy

/-- Each run of edits leaves some draft, of which `EditedBy` tells what it is. -/
theorem exists_editedBy {selection : Selection} {begun : Group}
    (active : selection.activeGroup = some begun) (distinct : begun.userIds.Nodup)
    (edits : List Edit) :
    ∃ now, selection.edited edits = selection.drafting now ∧ EditedBy begun edits now := by
  induction edits using List.reverseRecOn with
  | nil =>
    refine ⟨begun, ?_, .opened distinct⟩
    rw [Selection.drafting, ← active]
    rfl
  | append_singleton edits edit ih =>
    obtain ⟨now, after, kept⟩ := ih
    refine ⟨edit.applied now, ?_, kept.applied edit⟩
    rw [Selection.edited_concat, after]
    exact Selection.reduce_action rfl edit

/-- After any run of edits the members are distinct, and their parity, the order of those who were
not toggled, the name and all else are as `EditedBy` says. The same toggles in another order leave
the same members. Where no draft is active, edits change nothing. -/
theorem edits_obey_parity (selection : Selection) (edits : List Edit) :
    (∀ begun, selection.activeGroup = some begun → begun.userIds.Nodup →
      ∃ now, selection.edited edits = selection.drafting now ∧ EditedBy begun edits now ∧
        ∀ others, (toggledIds others).Perm (toggledIds edits) →
          ∃ other, selection.edited others = selection.drafting other ∧
            ∀ userId, userId ∈ other.userIds ↔ userId ∈ now.userIds) ∧
    (selection.activeGroup = none → selection.edited edits = selection) := by
  constructor
  · intro begun active distinct
    obtain ⟨now, after, kept⟩ := exists_editedBy active distinct edits
    refine ⟨now, after, kept, ?_⟩
    intro others reordered
    obtain ⟨other, otherAfter, otherKept⟩ := exists_editedBy active distinct others
    refine ⟨other, otherAfter, fun userId => ?_⟩
    rw [otherKept.parity, kept.parity, reordered.count_eq]
  · intro inactive
    induction edits using List.reverseRecOn with
    | nil => rfl
    | append_singleton edits edit ih =>
      rw [Selection.edited_concat, ih]
      exact Selection.reduce_action_of_none inactive edit

/-- A member leaves and comes back behind somebody who joins, and the pair is renamed. -/
def rejoining : List Edit :=
  [.toggle (userOf 200), .rename "Hawks", .toggle (userOf 400), .toggle (userOf 200)]

theorem edits_obey_parity_of_rejoining :
    pairStore.selection.activeGroup = some pair ∧ pair.userIds.Nodup ∧
      EditedBy pair rejoining
        { pair with name := "Hawks", users := [userOf 300, userOf 400, userOf 200] } ∧
      (Selection.initial.activeGroup = none ∧
        Selection.initial.edited rejoining = Selection.initial) := by
  have distinct : pair.userIds.Nodup := by decide
  obtain ⟨now, after, kept, _⟩ :=
    (edits_obey_parity pairStore.selection rejoining).1 pair rfl distinct
  have left : pairStore.selection.edited rejoining = pairStore.selection.drafting
      { pair with name := "Hawks", users := [userOf 300, userOf 400, userOf 200] } := by
    decide
  have same := congrArg Selection.activeGroup (after.symm.trans left)
  obtain rfl := Option.some.inj same
  exact ⟨rfl, distinct, kept, rfl, (edits_obey_parity Selection.initial rejoining).2 rfl⟩

end Members

end Coursework
