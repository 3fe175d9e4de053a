import Mathlib.Data.List.Nodup
import Coursework.Action.Dispatch
import Coursework.Members.GroupDraft

/-!
# Edits of a group draft

Who may join a draft depends on the draft, so what an edit may do depends on the edits before it.
`draftRun_submits_valid_members` says that all the same every draft that can be reached is sent
with distinct members, each of whom was there from the start or is a student of the course in no
other group.

People go by different identifiers on the way: candidates are enrollments, members are users, and
what is sent are identifiers of users. So users that enrollments carry must be their own.
-/

namespace Coursework

namespace Group

variable {group : Group} {user : User}

theorem any_id_iff : group.users.any (·.id == user.id) = true ↔ user.id ∈ group.userIds := by
  simp [userIds]

/-- A member who is toggled leaves. -/
theorem userIds_toggled_of_mem (member : user.id ∈ group.userIds) :
    (group.toggled user).userIds = group.userIds.erase user.id := by
  unfold toggled
  rw [if_pos (any_id_iff.mpr member)]
  simp only [userIds, List.erase_eq_eraseP, List.eraseP_map]
  congr 2
  funext other
  exact BEq.comm

/-- The group with one more member, who is its last. -/
def joinedBy (group : Group) (user : User) : Group :=
  { group with users := group.users ++ [user] }

theorem userIds_joinedBy (group : Group) (user : User) :
    (group.joinedBy user).userIds = group.userIds ++ [user.id] := by
  simp [joinedBy, userIds]

/-- Anybody else who is toggled joins at the end. -/
theorem toggled_of_not_mem (outside : user.id ∉ group.userIds) :
    group.toggled user = group.joinedBy user := by
  rw [toggled, if_neg (mt any_id_iff.mp outside), joinedBy]

theorem userIds_toggled_of_not_mem (outside : user.id ∉ group.userIds) :
    (group.toggled user).userIds = group.userIds ++ [user.id] := by
  rw [toggled_of_not_mem outside, userIds_joinedBy]

theorem toggled_id (group : Group) (user : User) : (group.toggled user).id = group.id :=
  rfl

/-- Only the name can change. -/
theorem renamed_eq (group : Group) (name : String) :
    group.renamed name = { group with name := if group.isApproved then group.name else name } := by
  unfold renamed
  split <;> rfl

theorem renamed_id (group : Group) (name : String) :
    (group.renamed name).id = group.id := by
  rw [renamed_eq]

theorem users_renamed (group : Group) (name : String) :
    (group.renamed name).users = group.users := by
  rw [renamed_eq]

theorem userIds_renamed (group : Group) (name : String) :
    (group.renamed name).userIds = group.userIds := by
  rw [userIds, users_renamed, userIds]

end Group

namespace Selection

variable {selection : Selection} {draft : Group}

/-- The selection with another draft. -/
def drafting (selection : Selection) (draft : Group) : Selection :=
  { selection with activeGroup := some draft }

theorem reduce_toggleGroupUser (active : selection.activeGroup = some draft) (user : User) :
    selection.reduce (.toggleGroupUser user) = selection.drafting (draft.toggled user) := by
  simp [reduce, active, drafting]

theorem reduce_updateGroupName (active : selection.activeGroup = some draft) (name : String) :
    selection.reduce (.updateGroupName name) = selection.drafting (draft.renamed name) := by
  simp [reduce, active, drafting]

end Selection

namespace Store

/-- The store with another draft. -/
def drafting (store : Store) (draft : Group) : Store :=
  { store with selection := { store.selection with activeGroup := some draft } }

variable {store : Store} {draft : Group}

theorem dispatch_toggleGroupUser (active : store.selection.activeGroup = some draft)
    (user : User) :
    store.dispatch (.toggleGroupUser user) = store.drafting (draft.toggled user) :=
  congrArg (fun selection => { store with selection })
    (Selection.reduce_toggleGroupUser active user)

theorem dispatch_updateGroupName (active : store.selection.activeGroup = some draft)
    (name : String) :
    store.dispatch (.updateGroupName name) = store.drafting (draft.renamed name) :=
  congrArg (fun selection => { store with selection })
    (Selection.reduce_updateGroupName active name)

end Store

/-- The users that a call puts into a group. -/
def Request.memberIds : Request → List Id
  | .createGroup _ userIds _ => userIds
  | .updateGroup group => group.userIds
  | _ => []

namespace Members

/-- What the editor offers to do with a draft. -/
inductive DraftEdit (enrollments : List Enrollment) (selfId : Id) (draft : Group) :
    Action → Prop where
  /-- A candidate for whatever query joins. -/
  | join {query enrollment user}
      (candidate : enrollment ∈ candidates enrollments draft selfId query)
      (known : enrollment.user = some user) :
      DraftEdit enrollments selfId draft (.toggleGroupUser user)
  /-- A member leaves. -/
  | leave {user} (member : user ∈ draft.users) :
      DraftEdit enrollments selfId draft (.toggleGroupUser user)
  | rename (name : String) : DraftEdit enrollments selfId draft (.updateGroupName name)

/-- Runs of the editor, in each step of which something is done that it then offers. -/
inductive DraftRun (start : Store) : Store → Prop where
  | opened : DraftRun start start
  | edited {store draft action} (prior : DraftRun start store)
      (active : store.selection.activeGroup = some draft)
      (edit : DraftEdit store.course.enrollments store.auth.selfId draft action) :
      DraftRun start (store.dispatch action)

/-- How a draft begins: as a new one of a student, or as a stored group. -/
inductive DraftBegins (draft : Group) : Prop where
  | seeded {own user courseId} (seed : initialDraft? own user courseId = some draft)
  | stored (saved : 0 < draft.id) (distinct : draft.userIds.Nodup)

/-- An enrollment may be in the draft: that of a student, who is not pending and in no other
group. A new draft is not a group yet. -/
structure MayBelong (draft : Group) (enrollment : Enrollment) : Prop where
  student : enrollment.status = .student
  settled : enrollment.isPending = false
  free : enrollment.groupId = 0 ∨ draft.id ≠ 0 ∧ enrollment.groupId = draft.id

/-- The users of a draft, or of what is sent for it: each once, and each either there from the
start or with an enrollment that may be in it. -/
structure ValidMembers (enrollments : List Enrollment) (begun : Group) (userIds : List Id) :
    Prop where
  distinct : userIds.Nodup
  accounted : ∀ userId ∈ userIds, userId ∈ begun.userIds ∨
    ∃ enrollment ∈ enrollments, enrollment.userId = userId ∧ MayBelong begun enrollment

/-- The call that a draft ends in: a new group with its name and members if the draft is new, and
else the draft in the place of the stored group. -/
inductive Saves (draft : Group) (courseId : Id) : Request → Prop where
  | created (fresh : draft.id = 0) :
      Saves draft courseId (.createGroup courseId draft.userIds draft.name)
  | updated (stored : draft.id ≠ 0) : Saves draft courseId (.updateGroup draft)

/-- Candidates for a draft may be in it, also as it was when the edits began. -/
theorem MayBelong.of_candidate {enrollments : List Enrollment} {begun now : Group} {selfId : Id}
    {query : String} {enrollment : Enrollment} (same : now.id = begun.id)
    (candidate : enrollment ∈ candidates enrollments now selfId query) :
    MayBelong begun enrollment := by
  obtain ⟨_, joins, _⟩ := mem_candidates_iff.mp candidate
  obtain ⟨student, free, _, _⟩ := mayJoin_iff.mp joins
  rw [same] at free
  exact ⟨student, by simp [Enrollment.isPending, student], free⟩

namespace ValidMembers

variable {enrollments : List Enrollment} {begun : Group} {userIds : List Id}

theorem of_begins (begins : DraftBegins begun) : ValidMembers enrollments begun begun.userIds := by
  refine ⟨?_, fun _ member => .inl member⟩
  cases begins with
  | seeded seed =>
    unfold initialDraft? at seed
    split at seed
    · obtain rfl := Option.some.inj seed
      exact List.nodup_singleton _
    · cases seed
  | stored _ distinct => exact distinct

theorem joined (valid : ValidMembers enrollments begun userIds) {enrollment : Enrollment}
    (listed : enrollment ∈ enrollments) (mayBelong : MayBelong begun enrollment)
    (outside : enrollment.userId ∉ userIds) :
    ValidMembers enrollments begun (userIds ++ [enrollment.userId]) where
  distinct := List.concat_eq_append ▸ valid.distinct.concat outside
  accounted userId member := by
    rcases List.mem_append.mp member with before | last
    · exact valid.accounted userId before
    · exact .inr ⟨enrollment, listed, (List.mem_singleton.mp last).symm, mayBelong⟩

theorem left (valid : ValidMembers enrollments begun userIds) (userId : Id) :
    ValidMembers enrollments begun (userIds.erase userId) where
  distinct := valid.distinct.erase userId
  accounted other member := valid.accounted other (List.mem_of_mem_erase member)

end ValidMembers

/-- An edit changes the draft and nothing else, and the members stay valid. -/
theorem DraftEdit.validMembers {enrollments : List Enrollment} {selfId : Id} {begun now : Group}
    {action : Action} {store : Store}
    (own : ∀ enrollment ∈ enrollments, ∀ user, enrollment.user = some user →
      user.id = enrollment.userId)
    (edit : DraftEdit enrollments selfId now action)
    (active : store.selection.activeGroup = some now) (same : now.id = begun.id)
    (valid : ValidMembers enrollments begun now.userIds) :
    ∃ next : Group, store.dispatch action = store.drafting next ∧ next.id = begun.id ∧
      ValidMembers enrollments begun next.userIds := by
  cases edit with
  | @join query enrollment user candidate known =>
    obtain ⟨listed, joins, _⟩ := mem_candidates_iff.mp candidate
    obtain ⟨_, _, _, outside⟩ := mayJoin_iff.mp joins
    have sameUser := own enrollment listed user known
    refine ⟨now.toggled user, Store.dispatch_toggleGroupUser active user,
      (now.toggled_id user).trans same, ?_⟩
    rw [Group.userIds_toggled_of_not_mem (sameUser ▸ outside), sameUser]
    exact valid.joined listed (.of_candidate same candidate) outside
  | @leave user member =>
    refine ⟨now.toggled user, Store.dispatch_toggleGroupUser active user,
      (now.toggled_id user).trans same, ?_⟩
    rw [Group.userIds_toggled_of_mem (List.mem_map_of_mem member)]
    exact valid.left user.id
  | rename name =>
    refine ⟨now.renamed name, Store.dispatch_updateGroupName active name,
      (now.renamed_id name).trans same, ?_⟩
    rwa [Group.userIds_renamed]

/-- Throughout a run the draft has its identifier and valid members, and the course is as it was. -/
theorem DraftRun.validMembers {start store : Store} {begun : Group}
    (own : ∀ enrollment ∈ start.course.enrollments, ∀ user, enrollment.user = some user →
      user.id = enrollment.userId)
    (begins : DraftBegins begun) (opened : start.selection.activeGroup = some begun)
    (run : DraftRun start store) :
    store.course = start.course ∧
      ∃ now : Group, store.selection.activeGroup = some now ∧ now.id = begun.id ∧
        ValidMembers start.course.enrollments begun now.userIds := by
  induction run with
  | opened => exact ⟨rfl, begun, opened, rfl, .of_begins begins⟩
  | edited _ active edit ih =>
    obtain ⟨sameCourse, now, activeNow, same, valid⟩ := ih
    obtain rfl := Option.some.inj (active.symm.trans activeNow)
    rw [sameCourse] at edit
    obtain ⟨next, after, sameNext, validNext⟩ := edit.validMembers own active same valid
    rw [after]
    exact ⟨sameCourse, next, rfl, sameNext, validNext⟩

namespace Saves

variable {draft : Group} {courseId : Id} {request : Request}

theorem memberIds_eq (saves : Saves draft courseId request) :
    request.memberIds = draft.userIds := by
  cases saves <;> rfl

/-- A draft is sent as it is: under its identifier, or without one if it is new. -/
theorem of_submitIntent (store : Store) (draft : Group) (courseId : Id) :
    ∃ request, store.plan? (submitIntent draft courseId) = some request ∧
      Saves draft courseId request := by
  unfold submitIntent
  split
  · rename_i fresh
    exact ⟨_, rfl, .created fresh⟩
  · rename_i stored
    exact ⟨_, rfl, .updated stored⟩

end Saves

/-- However a draft is edited, what is sent for it in the end creates a group if the draft is new
and else updates the group. It is the draft that is sent, and its members are valid. -/
theorem draftRun_submits_valid_members {start store : Store} {begun : Group}
    (own : ∀ enrollment ∈ start.course.enrollments, ∀ user, enrollment.user = some user →
      user.id = enrollment.userId)
    (begins : DraftBegins begun) (opened : start.selection.activeGroup = some begun)
    (run : DraftRun start store) (courseId : Id) :
    ∃ now request, store.selection.activeGroup = some now ∧ now.id = begun.id ∧
      store.plan? (submitIntent now courseId) = some request ∧
      Saves now courseId request ∧
      ValidMembers start.course.enrollments begun request.memberIds := by
  obtain ⟨_, now, active, same, valid⟩ := run.validMembers own begins opened
  obtain ⟨request, planned, saves⟩ := Saves.of_submitIntent store now courseId
  exact ⟨now, request, active, same, planned, saves, saves.memberIds_eq ▸ valid⟩

/-- A user with an identifier only. -/
def userOf (id : Id) : User := { User.blank with id }

/-- A student in a group, or in none if the group is zero. -/
def studentOf (id groupId : Id) : Enrollment :=
  ⟨id, 1, id, some (userOf id), .student, groupId, 0, "", 0⟩

/-- A stored group of two, one of whom is no longer in the course. -/
def pair : Group := ⟨7, 1, "Owls", .pending, [userOf 200, userOf 300]⟩

/-- A teacher edits the pair, in a course with a student who has no group. -/
def pairStore : Store :=
  { Store.initial with
    course := { Gradebook.empty with enrollments := [studentOf 200 7, studentOf 400 0] }
    selection := { Selection.initial with activeGroup := some pair } }

theorem draftRun_submits_valid_members_of_pair :
    DraftBegins pair ∧ ∃ store, DraftRun pairStore store ∧
      store.selection.activeGroup =
        some { pair with name := "Hawks", users := [userOf 200, userOf 400] } ∧
      ∃ now request, store.selection.activeGroup = some now ∧ now.id = pair.id ∧
        store.plan? (submitIntent now 1) = some request ∧ Saves now 1 request ∧
        ValidMembers pairStore.course.enrollments pair request.memberIds := by
  have own : ∀ enrollment ∈ pairStore.course.enrollments, ∀ user, enrollment.user = some user →
      user.id = enrollment.userId := by decide
  have begins : DraftBegins pair := .stored (by decide) (by decide)
  have candidate : studentOf 400 0 ∈ candidates pairStore.course.enrollments pair 0 "" :=
    mem_candidates_iff.mpr ⟨by decide, by decide, by decide⟩
  have member : userOf 300 ∈ (pair.toggled (userOf 400)).users := by decide
  have run : DraftRun pairStore _ :=
    ((DraftRun.opened.edited rfl (.join candidate rfl)).edited rfl
      (.leave member)).edited rfl (.rename "Hawks")
  exact ⟨begins, _, run, by decide, draftRun_submits_valid_members own begins rfl run 1⟩

end Members

end Coursework
