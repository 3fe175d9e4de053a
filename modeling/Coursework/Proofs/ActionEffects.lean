import Coursework.Action.Dispatch

/-!
# What an action changes

A local action changes one field of the selection or of the review book; a remote one changes
nothing and stands for a call of the backend. `action_handled_once` says so of every action and
every store, and that local actions about different fields can be issued in either order.

The fields are an enumeration, so that "the other fields" can be spoken of. What a local action
does is an `update` of its field: the new value depends on the old value of that field and on
nothing else of the store. The order of two actions then comes down to the laws of `get` and
`update`. Which value it is, is said by `Writes`.
-/

namespace Coursework

/-- The parts of a store that local actions change. -/
inductive StoreField where
  | activeGroup
  | activeEnrollment
  | selectedSubmission
  | selectedAssignmentId
  | groupView
  | submissionSort
  | reviewAssignmentId
  | selectedReview
  | minimumScore
  deriving DecidableEq

namespace StoreField

/-- What a field holds. -/
abbrev Value : StoreField → Type
  | activeGroup => Option Group
  | activeEnrollment => Option Enrollment
  | selectedSubmission => Option Submission
  | selectedAssignmentId => Option Id
  | groupView => Bool
  | submissionSort => MatrixSort
  | reviewAssignmentId => Int64
  | selectedReview => Option Nat
  | minimumScore => UInt32

/-- What a field holds in a store. -/
def get : (field : StoreField) → Store → field.Value
  | activeGroup, store => store.selection.activeGroup
  | activeEnrollment, store => store.selection.activeEnrollment
  | selectedSubmission, store => store.selection.selectedSubmission
  | selectedAssignmentId, store => store.selection.selectedAssignmentId
  | groupView, store => store.selection.groupView
  | submissionSort, store => store.selection.submissionSort
  | reviewAssignmentId, store => store.review.assignmentId
  | selectedReview, store => store.review.selectedReview
  | minimumScore, store => store.review.minimumScore

/-- The store with another value in a field. -/
def set : (field : StoreField) → field.Value → Store → Store
  | activeGroup, value, store =>
    { store with selection := { store.selection with activeGroup := value } }
  | activeEnrollment, value, store =>
    { store with selection := { store.selection with activeEnrollment := value } }
  | selectedSubmission, value, store =>
    { store with selection := { store.selection with selectedSubmission := value } }
  | selectedAssignmentId, value, store =>
    { store with selection := { store.selection with selectedAssignmentId := value } }
  | groupView, value, store =>
    { store with selection := { store.selection with groupView := value } }
  | submissionSort, value, store =>
    { store with selection := { store.selection with submissionSort := value } }
  | reviewAssignmentId, value, store =>
    { store with review := { store.review with assignmentId := value } }
  | selectedReview, value, store =>
    { store with review := { store.review with selectedReview := value } }
  | minimumScore, value, store =>
    { store with review := { store.review with minimumScore := value } }

/-- The store with the value of a field changed. -/
def update (field : StoreField) (change : field.Value → field.Value) (store : Store) : Store :=
  field.set (change (field.get store)) store

end StoreField

/-- Stores differ in one field at most. -/
structure SameBut (field : StoreField) (before after : Store) : Prop where
  auth : after.auth = before.auth
  course : after.course = before.course
  reviews : after.review.reviews = before.review.reviews
  others : ∀ other, other ≠ field → other.get after = other.get before

namespace StoreField

variable {field other : StoreField}

theorem get_set (field : StoreField) (value : field.Value) (store : Store) :
    field.get (field.set value store) = value := by
  cases field <;> rfl

theorem sameBut_set (field : StoreField) (value : field.Value) (store : Store) :
    SameBut field store (field.set value store) where
  auth := by cases field <;> rfl
  course := by cases field <;> rfl
  reviews := by cases field <;> rfl
  others := by
    intro other different
    cases field <;> cases other <;> first | rfl | exact absurd rfl different

/-- A store is made of what local actions never change and of the fields. -/
theorem store_ext {first second : Store} (auth : first.auth = second.auth)
    (course : first.course = second.course) (reviews : first.review.reviews = second.review.reviews)
    (fields : ∀ field : StoreField, field.get first = field.get second) : first = second := by
  obtain ⟨_, _, ⟨_, _, _, _, _, _⟩, ⟨_, _, _, _⟩⟩ := first
  obtain ⟨_, _, ⟨_, _, _, _, _, _⟩, ⟨_, _, _, _⟩⟩ := second
  cases auth
  cases course
  cases reviews
  cases fields activeGroup
  cases fields activeEnrollment
  cases fields selectedSubmission
  cases fields selectedAssignmentId
  cases fields groupView
  cases fields submissionSort
  cases fields reviewAssignmentId
  cases fields selectedReview
  cases fields minimumScore
  rfl

theorem sameBut_update (field : StoreField) (change : field.Value → field.Value) (store : Store) :
    SameBut field store (field.update change store) :=
  field.sameBut_set _ store

theorem get_update (field : StoreField) (change : field.Value → field.Value) (store : Store) :
    field.get (field.update change store) = change (field.get store) :=
  field.get_set _ store

/-- Updates of different fields do not see each other. -/
theorem update_comm (different : field ≠ other) (change : field.Value → field.Value)
    (otherChange : other.Value → other.Value) (store : Store) :
    other.update otherChange (field.update change store) =
      field.update change (other.update otherChange store) := by
  have first := field.sameBut_update change store
  have second := other.sameBut_update otherChange store
  have afterFirst := other.sameBut_update otherChange (field.update change store)
  have afterSecond := field.sameBut_update change (other.update otherChange store)
  refine store_ext ?_ ?_ ?_ ?_
  · rw [afterFirst.auth, first.auth, afterSecond.auth, second.auth]
  · rw [afterFirst.course, first.course, afterSecond.course, second.course]
  · rw [afterFirst.reviews, first.reviews, afterSecond.reviews, second.reviews]
  · intro seen
    by_cases own : seen = field
    · subst own
      rw [afterFirst.others _ different, get_update, get_update, second.others _ different]
    · by_cases foreign : seen = other
      · subst foreign
        rw [get_update, afterSecond.others _ own, get_update, first.others _ own]
      · rw [afterFirst.others _ foreign, first.others _ own, afterSecond.others _ own,
          second.others _ foreign]

end StoreField

/-! ## Local actions -/

/-- The field that a local action is about; a remote action is about none. -/
def Action.field? : Action → Option StoreField
  | .setActiveGroup _ | .updateGroupName _ | .toggleGroupUser _ => some .activeGroup
  | .setActiveEnrollment _ => some .activeEnrollment
  | .setSelectedSubmission _ => some .selectedSubmission
  | .setSelectedAssignmentId _ => some .selectedAssignmentId
  | .setGroupView _ => some .groupView
  | .setSubmissionSort _ => some .submissionSort
  | .review (.setAssignmentId _) => some .reviewAssignmentId
  | .review (.setSelectedReview _) => some .selectedReview
  | .review (.setMinimumScore _) => some .minimumScore
  | .review (.updateReady _) | .review (.release _) => none
  | .updateEnrollmentStatus .. | .createGroup .. | .updateGroup _ | .refreshSubmission .. => none

/-- What a local action writes in its field, where the old value may matter. The group in hand gets
a name unless it is approved, and a user joins it or, if there is one of that identifier, the first
such member leaves. The key in use turns the direction, and another key begins ascending. -/
inductive Writes : Action → (field : StoreField) → field.Value → field.Value → Prop where
  | draft {group old} : Writes (.setActiveGroup group) .activeGroup old group
  | name {name group} (isOpen : group.status ≠ .approved) :
      Writes (.updateGroupName name) .activeGroup (some group) (some { group with name })
  | keptName {name group} (approved : group.status = .approved) :
      Writes (.updateGroupName name) .activeGroup (some group) (some group)
  | nameless {name} : Writes (.updateGroupName name) .activeGroup none none
  | joins {user : User} {group : Group} (isNew : ∀ member ∈ group.users, member.id ≠ user.id) :
      Writes (.toggleGroupUser user) .activeGroup (some group)
        (some { group with users := group.users ++ [user] })
  | leaves {user member : User} {group : Group} {before after : List User}
      (members : group.users = before ++ member :: after)
      (first : ∀ other ∈ before, other.id ≠ user.id) (same : member.id = user.id) :
      Writes (.toggleGroupUser user) .activeGroup (some group)
        (some { group with users := before ++ after })
  | memberless {user} : Writes (.toggleGroupUser user) .activeGroup none none
  | enrollment {enrollment old} :
      Writes (.setActiveEnrollment enrollment) .activeEnrollment old enrollment
  | submission {submission old} :
      Writes (.setSelectedSubmission submission) .selectedSubmission old submission
  | assignment {id old} : Writes (.setSelectedAssignmentId id) .selectedAssignmentId old id
  | groupView {on old} : Writes (.setGroupView on) .groupView old on
  | direction {sort : MatrixSort} :
      Writes (.setSubmissionSort sort.key) .submissionSort sort ⟨sort.key, !sort.ascending⟩
  | sortKey {sort : MatrixSort} {key} (other : sort.key ≠ key) :
      Writes (.setSubmissionSort key) .submissionSort sort ⟨key, true⟩
  | reviewAssignment {id old} :
      Writes (.review (.setAssignmentId id)) .reviewAssignmentId old id
  | selectedReview {position old} :
      Writes (.review (.setSelectedReview position)) .selectedReview old position
  | minimumScore {score old} : Writes (.review (.setMinimumScore score)) .minimumScore old score

namespace Action

variable {action first second : Action} {store : Store}

theorem isRemote_eq_false_iff : action.isRemote = false ↔ ∃ field, action.field? = some field := by
  cases action with
  | review action => cases action <;> simp [isRemote, ReviewAction.isRemote, field?]
  | _ => simp [isRemote, field?]

/-- What is written when the group in hand is to have another name. -/
theorem writes_renamed (name : String) (old : Option Group) :
    Writes (.updateGroupName name) .activeGroup old (old.map (·.renamed name)) := by
  cases old with
  | none => exact .nameless
  | some group =>
    rw [Option.map_some, Group.renamed]
    split
    · rename_i approved
      exact .keptName (eq_of_beq approved)
    · rename_i isOpen
      exact .name fun approved => isOpen (beq_iff_eq.mpr approved)

/-- What is written when a user is to join the group in hand, or to leave it. -/
theorem writes_toggled (user : User) (old : Option Group) :
    Writes (.toggleGroupUser user) .activeGroup old (old.map (·.toggled user)) := by
  cases old with
  | none => exact .memberless
  | some group =>
    rw [Option.map_some, Group.toggled]
    split
    · rename_i isMember
      obtain ⟨known, listed, same⟩ := List.any_eq_true.mp isMember
      obtain ⟨member, before, after, earlier, isUser, split, erased⟩ :=
        List.exists_of_eraseP (p := (·.id == user.id)) listed same
      rw [erased]
      refine .leaves split ?_ (eq_of_beq isUser)
      intro other isEarlier sameId
      exact earlier other isEarlier (beq_iff_eq.mpr sameId)
    · rename_i isNew
      refine .joins ?_
      intro member listed sameId
      exact isNew (List.any_eq_true.mpr ⟨member, listed, beq_iff_eq.mpr sameId⟩)

theorem writes_sorted (key : MatrixSortKey) (old : MatrixSort) :
    Writes (.setSubmissionSort key) .submissionSort old (old.toggled key) := by
  unfold MatrixSort.toggled
  split
  · rename_i same
    subst same
    exact .direction
  · rename_i other
    exact .sortKey other

/-- A local action updates the field that it is about, in every store alike. -/
theorem reduce_eq_update {field : StoreField} (about : action.field? = some field) :
    ∃ change : field.Value → field.Value,
      (∀ store : Store, store.reduce action = field.update change store) ∧
      ∀ old, Writes action field old (change old) := by
  cases action with
  | setActiveGroup group =>
    cases about
    exact ⟨fun _ => group, fun _ => rfl, fun _ => .draft⟩
  | updateGroupName name =>
    cases about
    exact ⟨Option.map (·.renamed name), fun _ => rfl, writes_renamed name⟩
  | toggleGroupUser user =>
    cases about
    exact ⟨Option.map (·.toggled user), fun _ => rfl, writes_toggled user⟩
  | setActiveEnrollment enrollment =>
    cases about
    exact ⟨fun _ => enrollment, fun _ => rfl, fun _ => .enrollment⟩
  | setSelectedSubmission submission =>
    cases about
    exact ⟨fun _ => submission, fun _ => rfl, fun _ => .submission⟩
  | setSelectedAssignmentId id =>
    cases about
    exact ⟨fun _ => id, fun _ => rfl, fun _ => .assignment⟩
  | setGroupView on =>
    cases about
    exact ⟨fun _ => on, fun _ => rfl, fun _ => .groupView⟩
  | setSubmissionSort key =>
    cases about
    exact ⟨(·.toggled key), fun _ => rfl, writes_sorted key⟩
  | review action =>
    cases action with
    | setAssignmentId id =>
      cases about
      exact ⟨fun _ => id, fun _ => rfl, fun _ => .reviewAssignment⟩
    | setSelectedReview position =>
      cases about
      exact ⟨fun _ => position, fun _ => rfl, fun _ => .selectedReview⟩
    | setMinimumScore score =>
      cases about
      exact ⟨fun _ => score, fun _ => rfl, fun _ => .minimumScore⟩
    | _ => cases about
  | _ => cases about

/-- An issued local action goes to the same slice as a reduced one. -/
theorem dispatch_of_local (isLocal : action.isRemote = false) (store : Store) :
    store.dispatch action = store.reduce action := by
  unfold Store.dispatch
  refine (if_pos ?_).trans ?_
  · simp [isLocal]
  · cases action <;> rfl

/-- Local actions about different fields can be issued in either order. -/
theorem dispatch_comm (firstLocal : first.isRemote = false) (secondLocal : second.isRemote = false)
    (different : first.field? ≠ second.field?) (store : Store) :
    (store.dispatch first).dispatch second = (store.dispatch second).dispatch first := by
  obtain ⟨field, about⟩ := isRemote_eq_false_iff.mp firstLocal
  obtain ⟨other, otherAbout⟩ := isRemote_eq_false_iff.mp secondLocal
  obtain ⟨change, reduces, _⟩ := reduce_eq_update about
  obtain ⟨otherChange, otherReduces, _⟩ := reduce_eq_update otherAbout
  have apart : field ≠ other := by
    rintro rfl
    exact different (about.trans otherAbout.symm)
  simp only [dispatch_of_local firstLocal, dispatch_of_local secondLocal, reduces, otherReduces]
  exact StoreField.update_comm apart change otherChange store

end Action

/-! ## Remote actions -/

/-- A call carries what an action asks for. A review action asks for the selected submission: to
mark its current review, otherwise unchanged, or to release it. -/
inductive AsksFor (store : Store) : Action → Request → Prop where
  | role {courseId enrollmentId status} :
      AsksFor store (.updateEnrollmentStatus courseId enrollmentId status)
        (.updateEnrollment courseId enrollmentId status)
  | newGroup {courseId userIds name} :
      AsksFor store (.createGroup courseId userIds name) (.createGroup courseId userIds name)
  | storedGroup {group} : AsksFor store (.updateGroup group) (.updateGroup group)
  | newerCopy {courseId submissionId} :
      AsksFor store (.refreshSubmission courseId submissionId)
        (.fetchSubmission courseId submissionId)
  | mark {ready submission current}
      (selected : store.selection.selectedSubmission = some submission)
      (shown : store.review.currentReview? submission.id store.auth.selfId = some current) :
      AsksFor store (.review (.updateReady ready))
        (.updateReview store.course.courseId { current with ready })
  | release {released submission}
      (selected : store.selection.selectedSubmission = some submission) :
      AsksFor store (.review (.release released))
        (.release store.course.courseId submission.id released)

/-- A review action has nothing to be about. -/
inductive LacksObject (store : Store) : Action → Prop where
  | markNothing {ready} (unselected : store.selection.selectedSubmission = none) :
      LacksObject store (.review (.updateReady ready))
  | markUnreviewed {ready submission}
      (selected : store.selection.selectedSubmission = some submission)
      (unreviewed : store.review.currentReview? submission.id store.auth.selfId = none) :
      LacksObject store (.review (.updateReady ready))
  | releaseNothing {released} (unselected : store.selection.selectedSubmission = none) :
      LacksObject store (.review (.release released))

namespace Store

variable {store : Store} {action : Action} {request : Request}

/-- The planned call is the one that carries what the action asks for. -/
theorem plan?_eq_some_iff : store.plan? action = some request ↔ AsksFor store action request := by
  constructor
  · intro planned
    cases action with
    | updateEnrollmentStatus courseId enrollmentId status =>
      cases planned
      exact .role
    | createGroup courseId userIds name =>
      cases planned
      exact .newGroup
    | updateGroup group =>
      cases planned
      exact .storedGroup
    | refreshSubmission courseId submissionId =>
      cases planned
      exact .newerCopy
    | review action =>
      cases action with
      | updateReady ready =>
        obtain ⟨submission, selected, rest⟩ := Option.bind_eq_some_iff.mp planned
        obtain ⟨current, shown, made⟩ := Option.bind_eq_some_iff.mp rest
        cases made
        exact .mark selected shown
      | release released =>
        obtain ⟨submission, selected, made⟩ := Option.bind_eq_some_iff.mp planned
        cases made
        exact .release selected
      | _ => cases planned
    | _ => cases planned
  · intro asks
    cases asks with
    | role => rfl
    | newGroup => rfl
    | storedGroup => rfl
    | newerCopy => rfl
    | mark selected shown => simp [plan?, selected, shown]
    | release selected => simp [plan?, selected]

/-- Of the remote actions just those without an object are not planned. -/
theorem plan?_eq_none_iff (remote : action.isRemote = true) :
    store.plan? action = none ↔ LacksObject store action := by
  constructor
  · intro unplanned
    have unasked : ∀ request, ¬ AsksFor store action request := by
      intro request asks
      rw [plan?_eq_some_iff.mpr asks] at unplanned
      cases unplanned
    cases action with
    | updateEnrollmentStatus => exact absurd .role (unasked _)
    | createGroup => exact absurd .newGroup (unasked _)
    | updateGroup => exact absurd .storedGroup (unasked _)
    | refreshSubmission => exact absurd .newerCopy (unasked _)
    | review action =>
      cases selected : store.selection.selectedSubmission with
      | none =>
        cases action with
        | updateReady => exact .markNothing selected
        | release => exact .releaseNothing selected
        | _ => cases remote
      | some submission =>
        cases action with
        | updateReady =>
          cases shown : store.review.currentReview? submission.id store.auth.selfId with
          | none => exact .markUnreviewed selected shown
          | some current => exact absurd (.mark selected shown) (unasked _)
        | release => exact absurd (.release selected) (unasked _)
        | _ => cases remote
    | _ => cases remote
  · intro lacks
    cases lacks with
    | markNothing unselected => simp [plan?, unselected]
    | markUnreviewed selected unreviewed => simp [plan?, selected, unreviewed]
    | releaseNothing unselected => simp [plan?, unselected]

/-- Only remote actions ask for a call. -/
theorem isRemote_of_asksFor (asks : AsksFor store action request) : action.isRemote = true := by
  cases asks <;> rfl

theorem plan?_of_local (isLocal : action.isRemote = false) : store.plan? action = none := by
  refine Option.eq_none_iff_forall_ne_some.mpr fun request planned => ?_
  have remote := isRemote_of_asksFor (plan?_eq_some_iff.mp planned)
  exact Bool.false_ne_true (isLocal.symm.trans remote)

theorem reduce_of_remote (remote : action.isRemote = true) : store.reduce action = store := by
  cases action with
  | review action =>
    cases action with
    | updateReady => rfl
    | release => rfl
    | _ => cases remote
  | updateEnrollmentStatus => rfl
  | createGroup => rfl
  | updateGroup => rfl
  | refreshSubmission => rfl
  | _ => cases remote

/-- A call may be planned or not; outside the browser the store stays as it is. -/
theorem dispatch_of_remote (remote : action.isRemote = true) : store.dispatch action = store := by
  unfold dispatch
  rw [remote, Bool.not_true, if_neg Bool.false_ne_true]
  cases store.plan? action <;> rfl

end Store

/-- What comes of a remote action: a call, unless it lacks its object, and nothing in the store. -/
structure PlannedOnly (store : Store) (action : Action) : Prop where
  issued : store.dispatch action = store
  reduced : store.reduce action = store
  call : ∀ request, store.plan? action = some request ↔ AsksFor store action request
  noCall : store.plan? action = none ↔ LacksObject store action

/-- What comes of a local action: no call, and what it writes in its own field of the store, with
everything else as before. -/
structure ReducedOnly (store : Store) (action : Action) : Prop where
  noCall : store.plan? action = none
  issued : store.dispatch action = store.reduce action
  field : ∃ field, action.field? = some field ∧
    Writes action field (field.get store) (field.get (store.reduce action)) ∧
    SameBut field store (store.reduce action)

/-- Every action is handled either by its call or in the store, and in the store only in its own
field. So two local actions about different fields can be issued in either order. -/
theorem action_handled_once (store : Store) (action : Action) :
    ((store.dispatch action).auth = store.auth ∧ (store.dispatch action).course = store.course) ∧
    (action.isRemote = true → PlannedOnly store action) ∧
    (action.isRemote = false → ReducedOnly store action) ∧
    ∀ other : Action, action.isRemote = false → other.isRemote = false →
      action.field? ≠ other.field? →
      (store.dispatch action).dispatch other = (store.dispatch other).dispatch action := by
  have planned : action.isRemote = true → PlannedOnly store action := by
    intro remote
    exact ⟨Store.dispatch_of_remote remote, Store.reduce_of_remote remote,
      fun _ => Store.plan?_eq_some_iff, Store.plan?_eq_none_iff remote⟩
  have reduced : action.isRemote = false → ReducedOnly store action := by
    intro isLocal
    obtain ⟨field, about⟩ := Action.isRemote_eq_false_iff.mp isLocal
    obtain ⟨change, reduces, writes⟩ := Action.reduce_eq_update about
    refine ⟨Store.plan?_of_local isLocal, Action.dispatch_of_local isLocal store, field, about, ?_⟩
    rw [reduces, field.get_update]
    exact ⟨writes _, field.sameBut_update change store⟩
  refine ⟨?_, planned, reduced, ?_⟩
  · cases kind : action.isRemote with
    | true =>
      rw [(planned kind).issued]
      exact ⟨rfl, rfl⟩
    | false =>
      obtain ⟨field, _, _, same⟩ := (reduced kind).field
      rw [(reduced kind).issued]
      exact ⟨same.auth, same.course⟩
  · intro other isLocal otherLocal different
    exact Action.dispatch_comm isLocal otherLocal different store

/-- A group is edited, and a submission without reviews is selected. -/
def editingStore : Store :=
  { Store.initial with
    selection :=
      { Selection.initial with
        activeGroup := some ⟨0, 1, "Pair", .pending, [{ User.blank with id := 200 }]⟩
        selectedSubmission := some { Submission.blank with id := 50 } } }

/-- Release has its object there and a mark has none. A user joins the group, and this and a change
of the release threshold can trade places. -/
theorem action_handled_once_editing :
    (Action.review (.release true)).isRemote = true ∧
    editingStore.plan? (.review (.release true)) = some (.release 0 50 true) ∧
    (Action.review (.updateReady true)).isRemote = true ∧
    editingStore.plan? (.review (.updateReady true)) = none ∧
    (Action.toggleGroupUser { User.blank with id := 300 }).isRemote = false ∧
    (Action.review (.setMinimumScore 60)).isRemote = false ∧
    Writes (.toggleGroupUser { User.blank with id := 300 }) .activeGroup
      (some ⟨0, 1, "Pair", .pending, [{ User.blank with id := 200 }]⟩)
      (some ⟨0, 1, "Pair", .pending,
        [{ User.blank with id := 200 }, { User.blank with id := 300 }]⟩) ∧
    ReducedOnly editingStore (.toggleGroupUser { User.blank with id := 300 }) ∧
    (editingStore.dispatch (.toggleGroupUser { User.blank with id := 300 })).dispatch
        (.review (.setMinimumScore 60)) =
      (editingStore.dispatch (.review (.setMinimumScore 60))).dispatch
        (.toggleGroupUser { User.blank with id := 300 }) := by
  obtain ⟨_, release, _⟩ := action_handled_once editingStore (.review (.release true))
  obtain ⟨_, mark, _⟩ := action_handled_once editingStore (.review (.updateReady true))
  obtain ⟨_, _, reduced, comm⟩ :=
    action_handled_once editingStore (.toggleGroupUser { User.blank with id := 300 })
  have selected :
      editingStore.selection.selectedSubmission = some { Submission.blank with id := 50 } := rfl
  have asks : AsksFor editingStore (.review (.release true)) (.release 0 50 true) :=
    .release selected
  have released := ((release rfl).call _).mpr asks
  have unmarked := (mark rfl).noCall.mpr (.markUnreviewed selected rfl)
  have traded := comm (.review (.setMinimumScore 60)) rfl rfl (by decide)
  obtain ⟨field, about, writes, _⟩ := (reduced rfl).field
  cases about
  exact ⟨rfl, released, rfl, unmarked, rfl, rfl, writes, reduced rfl, traded⟩

end Coursework
