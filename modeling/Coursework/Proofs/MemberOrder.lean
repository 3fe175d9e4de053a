import Coursework.Members.Table
import Coursework.Proofs.StableSorting

/-!
# The order of the member table

The table is sorted first and searched then. `memberTable_sorts_stably` says that it is sorted
stably by its key in both directions, and that the search could as well come first.
-/

namespace Coursework.Members

/-- What enrollments are compared by: the place of the role, or the identifier. -/
def sortValue : SortKey → Enrollment → Nat
  | .status, e => e.status.rank
  | .id, e => e.id.toNat

theorem enrollmentLe_iff {key : SortKey} {a b : Enrollment} :
    enrollmentLe key a b = true ↔ sortValue key a ≤ sortValue key b := by
  cases key with
  | status => exact decide_eq_true_iff
  | id => exact decide_eq_true_iff.trans UInt64.le_iff_toNat_le

theorem stablySorted_sorted (enrollments : List Enrollment) (sort : TableSort) :
    StablySorted (sortValue sort.key) (!sort.descending) enrollments
      (sorted enrollments sort) := by
  obtain ⟨key, descending⟩ := sort
  cases descending with
  | true => exact stablySorted_mergeSort (fun _ _ => enrollmentLe_iff) _
  | false => exact stablySorted_mergeSort (fun _ _ => enrollmentLe_iff) _

/-- What a search finds in the table is what it finds in the course, sorted. -/
theorem visible_eq (enrollments : List Enrollment) (sort : TableSort) (query : String) :
    visible enrollments sort query =
      sorted (enrollments.filter fun e => Text.found query e.userName) sort :=
  ((stablySorted_sorted enrollments sort).filter _).unique (stablySorted_sorted _ sort)

theorem nodup_sortValue {enrollments : List Enrollment}
    (distinct : (enrollments.map (·.id)).Nodup) :
    (enrollments.map (sortValue .id)).Nodup := by
  have numbers := distinct.map fun _ _ same => UInt64.toNat_inj.mp same
  rwa [List.map_map] at numbers

/-- The table is the stable order of the course by the key, and what a search finds in it is the
table of what it finds in the course. By distinct identifiers the descending order is the reverse
of the ascending one. -/
theorem memberTable_sorts_stably (enrollments : List Enrollment) (sort : TableSort)
    (query : String) :
    (∀ rows, rows = sorted enrollments sort ↔
      StablySorted (sortValue sort.key) (!sort.descending) enrollments rows) ∧
    visible enrollments sort query =
      sorted (enrollments.filter fun e => Text.found query e.userName) sort ∧
    ((enrollments.map (·.id)).Nodup →
      sorted enrollments ⟨.id, true⟩ = (sorted enrollments ⟨.id, false⟩).reverse) := by
  refine ⟨fun rows => (stablySorted_sorted enrollments sort).eq_iff,
    visible_eq enrollments sort query, ?_⟩
  intro distinct
  have ascending := stablySorted_sorted enrollments ⟨.id, false⟩
  have descending := stablySorted_sorted enrollments ⟨.id, true⟩
  exact descending.unique (ascending.reverse (nodup_sortValue distinct))

/-- Two students, and a teacher between them. -/
def classOfThree : List Enrollment :=
  [⟨3, 1, 300, none, .student, 0, 0, "", 0⟩, ⟨1, 1, 100, none, .teacher, 0, 0, "", 0⟩,
    ⟨2, 1, 200, none, .student, 0, 0, "", 0⟩]

/-- The three by role from the highest: the teacher comes first, and the students stay as they
are. -/
def classByRole : List Enrollment :=
  [⟨1, 1, 100, none, .teacher, 0, 0, "", 0⟩, ⟨3, 1, 300, none, .student, 0, 0, "", 0⟩,
    ⟨2, 1, 200, none, .student, 0, 0, "", 0⟩]

theorem stablySorted_classByRole :
    StablySorted (sortValue .status) false classOfThree classByRole where
  perm := by decide
  ordered := by simp [classByRole, sortValue, EnrollmentStatus.rank, InOrder]
  ties role := by
    by_cases teacher : 3 = role
    · subst teacher
      rfl
    · simp [classByRole, classOfThree, List.filter_cons, sortValue, EnrollmentStatus.rank, teacher]

theorem memberTable_sorts_stably_of_three :
    (classOfThree.map (·.id)).Nodup ∧
      sorted classOfThree ⟨.status, true⟩ = classByRole ∧
      StablySorted (sortValue .status) false classOfThree (sorted classOfThree ⟨.status, true⟩) ∧
      sorted classOfThree ⟨.id, true⟩ = (sorted classOfThree ⟨.id, false⟩).reverse := by
  have distinct : (classOfThree.map (·.id)).Nodup := by decide
  obtain ⟨stable, _, reversed⟩ := memberTable_sorts_stably classOfThree ⟨.status, true⟩ ""
  exact ⟨distinct, ((stable _).mpr stablySorted_classByRole).symm, (stable _).mp rfl,
    reversed distinct⟩

end Coursework.Members
