import Mathlib.Data.List.Nodup
import Mathlib.Data.Nat.Basic
import Mathlib.Order.Lattice

/-!
# Stable sorting by a key

`StablySorted` says what a stable sort returns, without a word on how it works: the entries in the
order of their keys, those of one key in the order in which they were given. There is exactly one
such list (`StablySorted.unique`), so a list that is shown to be stably sorted is the sorted one.

Searching and turning the direction are such cases: searching a sorted list gives what sorting the
found entries gives, and where no two entries have one key the other direction is the list from
its end.
-/

namespace Coursework

variable {α β κ : Type} [LinearOrder κ]

/-- The first key may stand before the second. -/
def InOrder : (ascending : Bool) → (a b : κ) → Prop
  | true, a, b => a ≤ b
  | false, a, b => b ≤ a

namespace InOrder

variable {ascending : Bool} {a b c : κ}

theorem of_eq (same : a = b) : InOrder ascending a b := by
  cases ascending with
  | true => exact le_of_eq same
  | false => exact ge_of_eq same

theorem antisymm (before : InOrder ascending a b) (after : InOrder ascending b a) : a = b := by
  cases ascending with
  | true => exact le_antisymm before after
  | false => exact le_antisymm after before

theorem trans (first : InOrder ascending a b) (second : InOrder ascending b c) :
    InOrder ascending a c := by
  cases ascending with
  | true => exact le_trans first second
  | false => exact le_trans second first

theorem total (ascending : Bool) (a b : κ) :
    InOrder ascending a b ∨ InOrder ascending b a := by
  cases ascending with
  | true => exact le_total a b
  | false => exact le_total b a

theorem turned_iff : InOrder (!ascending) a b ↔ InOrder ascending b a := by
  cases ascending <;> rfl

end InOrder

/-- The second list has the entries of the first in the order of their keys. Entries of one key
keep their order. -/
structure StablySorted (key : α → κ) (ascending : Bool) (entries rows : List α) : Prop where
  perm : rows.Perm entries
  ordered : rows.Pairwise fun a b => InOrder ascending (key a) (key b)
  ties : ∀ k, rows.filter (key · = k) = entries.filter (key · = k)

/-- Sorting keeps the order of entries that stand before each other both ways. -/
theorem filter_mergeSort_of_tied {le : α → α → Bool}
    (trans : ∀ a b c, le a b → le b c → le a c) (total : ∀ a b, le a b || le b a)
    {tied : α → Bool} (ties : ∀ a b, tied a → tied b → le a b) (entries : List α) :
    (entries.mergeSort le).filter tied = entries.filter tied := by
  have ordered : (entries.filter tied).Pairwise fun a b => le a b = true :=
    List.pairwise_filter.mpr (List.pairwise_of_forall fun a b ha hb => ties a b ha hb)
  have within : (entries.filter tied).Sublist (entries.mergeSort le) :=
    List.sublist_mergeSort trans total ordered List.filter_sublist
  have kept : (entries.filter tied).Sublist ((entries.mergeSort le).filter tied) := by
    simpa [List.filter_filter] using within.filter tied
  have sameLength := ((List.mergeSort_perm entries le).filter tied).length_eq
  exact (kept.eq_of_length sameLength.symm).symm

/-- Merge sort is stable where its test compares keys. -/
theorem stablySorted_mergeSort {key : α → κ} {ascending : Bool} {le : α → α → Bool}
    (compares : ∀ a b, le a b = true ↔ InOrder ascending (key a) (key b)) (entries : List α) :
    StablySorted key ascending entries (entries.mergeSort le) := by
  have trans : ∀ a b c, le a b → le b c → le a c := by
    intro a b c first second
    rw [compares] at first second ⊢
    exact first.trans second
  have total : ∀ a b, le a b || le b a := by
    intro a b
    rw [Bool.or_eq_true, compares, compares]
    exact InOrder.total ascending (key a) (key b)
  refine ⟨List.mergeSort_perm entries le, ?_, fun k => ?_⟩
  · exact (List.pairwise_mergeSort trans total entries).imp fun inOrder =>
      (compares _ _).mp inOrder
  · refine filter_mergeSort_of_tied trans total ?_ entries
    intro a b ofA ofB
    rw [decide_eq_true_eq] at ofA ofB
    exact (compares a b).mpr (.of_eq (ofA.trans ofB.symm))

namespace StablySorted

variable {key : α → κ} {ascending : Bool} {entries rows others : List α}

/-- The first row is in order with each row. -/
theorem inOrder_head {first other : α}
    (ordered : (first :: rows).Pairwise fun a b => InOrder ascending (key a) (key b))
    (member : other ∈ first :: rows) : InOrder ascending (key first) (key other) := by
  rcases List.mem_cons.mp member with rfl | later
  · exact .of_eq rfl
  · exact List.rel_of_pairwise_cons ordered later

theorem mem_of_filter_eq {entry : α}
    (agree : ∀ k, rows.filter (key · = k) = others.filter (key · = k)) (member : entry ∈ rows) :
    entry ∈ others := by
  have ofKey : entry ∈ rows.filter (key · = key entry) := by
    simpa using member
  rw [agree] at ofKey
  exact List.mem_of_mem_filter ofKey

/-- Lists in the order of their keys are equal if they agree on the entries of each key. Each of
their first entries is a member of both lists, so the two have one key, of which they are the
first entries. -/
theorem eq_of_filter_eq
    (rowsOrdered : rows.Pairwise fun a b => InOrder ascending (key a) (key b))
    (othersOrdered : others.Pairwise fun a b => InOrder ascending (key a) (key b))
    (agree : ∀ k, rows.filter (key · = k) = others.filter (key · = k)) : rows = others := by
  induction rows generalizing others with
  | nil =>
    refine (List.eq_nil_iff_forall_not_mem.mpr fun other member => ?_).symm
    exact List.not_mem_nil (mem_of_filter_eq (fun k => (agree k).symm) member)
  | cons row rest ih =>
    have rowMember : row ∈ others := mem_of_filter_eq agree List.mem_cons_self
    cases others with
    | nil => exact absurd rowMember List.not_mem_nil
    | cons other later =>
      have otherMember : other ∈ row :: rest :=
        mem_of_filter_eq (fun k => (agree k).symm) List.mem_cons_self
      have sameKey : key row = key other :=
        (inOrder_head rowsOrdered otherMember).antisymm (inOrder_head othersOrdered rowMember)
      have ofKey := agree (key row)
      rw [List.filter_cons_of_pos (by simp), List.filter_cons_of_pos (by simp [sameKey])] at ofKey
      obtain ⟨rfl, _⟩ := List.cons.inj ofKey
      have restAgree : ∀ k, rest.filter (key · = k) = later.filter (key · = k) := by
        intro k
        have both := agree k
        simp only [List.filter_cons] at both
        split at both
        · exact (List.cons.inj both).2
        · exact both
      rw [ih rowsOrdered.of_cons othersOrdered.of_cons restAgree]

/-- There is one way to sort stably. -/
theorem unique (first : StablySorted key ascending entries rows)
    (second : StablySorted key ascending entries others) : rows = others :=
  eq_of_filter_eq first.ordered second.ordered fun k => (first.ties k).trans (second.ties k).symm

theorem eq_iff (sorted : StablySorted key ascending entries rows) :
    others = rows ↔ StablySorted key ascending entries others := by
  constructor
  · rintro rfl
    exact sorted
  · intro other
    exact other.unique sorted

/-- What a search finds in sorted rows is the sorted form of what it finds in the entries. -/
theorem filter (sorted : StablySorted key ascending entries rows) (found : α → Bool) :
    StablySorted key ascending (entries.filter found) (rows.filter found) where
  perm := sorted.perm.filter found
  ordered := sorted.ordered.filter found
  ties k := by
    rw [List.filter_comm, sorted.ties k, List.filter_comm]

/-- An order is kept where each entry is replaced by one of the same key. -/
theorem map {image : β → κ} {change : α → β} (sameKey : ∀ entry, image (change entry) = key entry)
    (sorted : StablySorted key ascending entries rows) :
    StablySorted image ascending (entries.map change) (rows.map change) where
  perm := sorted.perm.map change
  ordered := by
    refine List.pairwise_map.mpr (sorted.ordered.imp ?_)
    intro a b inOrder
    rwa [sameKey, sameKey]
  ties k := by
    have test : (fun b => decide (image b = k)) ∘ change = fun a => decide (key a = k) := by
      funext entry
      rw [Function.comp_apply, sameKey]
    rw [List.filter_map, List.filter_map, test, sorted.ties k]

/-- Where keys are distinct, at most one entry has a given key. -/
theorem length_filter_le_one (distinct : (entries.map key).Nodup) (k : κ) :
    (entries.filter (key · = k)).length ≤ 1 := by
  have keysDistinct : ((entries.filter (key · = k)).map key).Nodup :=
    distinct.sublist (List.filter_sublist.map key)
  have keysEqual : ∀ other ∈ (entries.filter (key · = k)).map key, other = k := by
    intro other member
    obtain ⟨entry, ofKey, rfl⟩ := List.mem_map.mp member
    exact of_decide_eq_true (List.mem_filter.mp ofKey).2
  rw [List.eq_replicate_of_mem keysEqual, List.nodup_replicate, List.length_map] at keysDistinct
  exact keysDistinct

/-- Where keys are distinct, the rows from the end are sorted in the other direction. -/
theorem reverse (distinct : (entries.map key).Nodup)
    (sorted : StablySorted key ascending entries rows) :
    StablySorted key (!ascending) entries rows.reverse where
  perm := rows.reverse_perm.trans sorted.perm
  ordered := by
    refine List.pairwise_reverse.mpr (sorted.ordered.imp ?_)
    intro a b inOrder
    exact InOrder.turned_iff.mpr inOrder
  ties k := by
    rw [List.filter_reverse, sorted.ties k]
    have short := length_filter_le_one distinct k
    cases shape : entries.filter (key · = k) with
    | nil => rfl
    | cons entry rest =>
      rw [shape, List.length_cons] at short
      have single : rest = [] := List.length_eq_zero_iff.mp (by omega)
      rw [single, List.reverse_singleton]

end StablySorted

end Coursework
