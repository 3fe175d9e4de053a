import Mathlib.Data.List.Induction
import Mathlib.Data.List.Nodup
import Coursework.Store.Upsert

/-!
# Runs over lists kept by key

What a list kept by key holds after entries have been taken in one after the other.

All inductions over a run are on its end, since the last entry with a key is the one that counts.
-/

namespace Coursework.Store

variable {α κ : Type}

theorem key_ne_of_not_mem {key : α → κ} {k : κ} {entries : List α} (fresh : k ∉ entries.map key)
    {entry : α} (member : entry ∈ entries) : key entry ≠ k := by
  rintro rfl
  exact fresh (List.mem_map_of_mem member)

variable [DecidableEq κ]

/-- Takes in entries one after the other. -/
def upsertAll (key : α → κ) (kept news : List α) : List α :=
  news.foldl (fun entries entry => upsert key entry entries) kept

/-- The last entry with that key. -/
def last? (key : α → κ) (k : κ) (entries : List α) : Option α :=
  find? key k entries.reverse

@[simp] theorem upsertAll_nil (key : α → κ) (kept : List α) : upsertAll key kept [] = kept := rfl

@[simp] theorem upsertAll_concat (key : α → κ) (kept news : List α) (entry : α) :
    upsertAll key kept (news ++ [entry]) = upsert key entry (upsertAll key kept news) := by
  simp [upsertAll]

@[simp] theorem last?_nil (key : α → κ) (k : κ) : last? key k ([] : List α) = none := rfl

theorem last?_concat (key : α → κ) (k : κ) (entries : List α) (entry : α) :
    last? key k (entries ++ [entry]) =
      if key entry = k then some entry else last? key k entries := by
  unfold last?
  rw [List.reverse_append, List.reverse_singleton, List.singleton_append, find?_cons]

/-- After a run, the last entry taken in under a key is found there, or else what was found
before. -/
theorem find?_upsertAll (key : α → κ) (k : κ) (kept news : List α) :
    find? key k (upsertAll key kept news) = (last? key k news).or (find? key k kept) := by
  induction news using List.reverseRecOn with
  | nil => simp
  | append_singleton news entry ih =>
    rw [upsertAll_concat, find?_upsert, last?_concat, ih]
    split <;> simp

theorem mem_map_upsert {key : α → κ} {entry : α} {k : κ} {entries : List α} :
    k ∈ (upsert key entry entries).map key ↔ k = key entry ∨ k ∈ entries.map key := by
  rw [map_upsert]
  split
  · rename_i present
    exact ⟨Or.inr, fun either => either.elim (fun same => same ▸ present) id⟩
  · rw [List.mem_append, List.mem_singleton, or_comm]

/-- Taking in an entry drops the one with its key and no other. -/
theorem mem_upsert {key : α → κ} {entry other : α} {entries : List α}
    (distinct : (entries.map key).Nodup) :
    other ∈ upsert key entry entries ↔ other = entry ∨ other ∈ entries ∧ key other ≠ key entry := by
  induction entries with
  | nil => simp [upsert]
  | cons head rest ih =>
    obtain ⟨fresh, restDistinct⟩ := List.nodup_cons.mp distinct
    unfold upsert
    split
    · rename_i same
      have restDiffers : ∀ later ∈ rest, key later ≠ key entry := by
        intro later member
        exact same ▸ key_ne_of_not_mem fresh member
      grind
    · rename_i differs
      rw [List.mem_cons, ih restDistinct]
      grind

theorem nodup_upsert {key : α → κ} {entries : List α} (entry : α)
    (distinct : (entries.map key).Nodup) : ((upsert key entry entries).map key).Nodup := by
  rw [map_upsert]
  split
  · exact distinct
  · rename_i fresh
    exact distinct.append (List.nodup_singleton _) (List.disjoint_singleton.mpr fresh)

theorem nodup_upsertAll {key : α → κ} {kept : List α} (news : List α)
    (distinct : (kept.map key).Nodup) : ((upsertAll key kept news).map key).Nodup := by
  induction news using List.reverseRecOn with
  | nil => exact distinct
  | append_singleton news entry ih =>
    rw [upsertAll_concat]
    exact nodup_upsert entry ih

/-- A run keeps the keys in their places, and puts new ones at the end. -/
theorem map_upsertAll (key : α → κ) (kept news : List α) :
    ∃ newcomers, (upsertAll key kept news).map key = kept.map key ++ newcomers ∧
      ∀ k ∈ newcomers, k ∈ news.map key := by
  induction news using List.reverseRecOn with
  | nil => exact ⟨[], by simp⟩
  | append_singleton news entry ih =>
    obtain ⟨newcomers, keys, fromNews⟩ := ih
    rw [upsertAll_concat, map_upsert, keys]
    split
    · refine ⟨newcomers, rfl, ?_⟩
      intro k member
      simp [fromNews k member]
    · refine ⟨newcomers ++ [key entry], List.append_assoc .., ?_⟩
      intro k member
      rcases List.mem_append.mp member with earlier | last
      · simp [fromNews k earlier]
      · simp [List.mem_singleton.mp last]

/-- Where keys are distinct, each entry is found under its own. -/
theorem find?_of_mem {key : α → κ} {entry : α} {entries : List α}
    (distinct : (entries.map key).Nodup) (member : entry ∈ entries) :
    find? key (key entry) entries = some entry := by
  induction entries with
  | nil => exact absurd member List.not_mem_nil
  | cons head rest ih =>
    obtain ⟨fresh, restDistinct⟩ := List.nodup_cons.mp distinct
    rw [find?_cons]
    rcases List.mem_cons.mp member with rfl | later
    · exact if_pos rfl
    · have differs : key head ≠ key entry := (key_ne_of_not_mem fresh later).symm
      rw [if_neg differs, ih restDistinct later]

/-- Where keys are distinct, an entry with a known key takes the place of the one with its key. -/
theorem upsert_eq_map {key : α → κ} {entry : α} {entries : List α}
    (distinct : (entries.map key).Nodup) (known : key entry ∈ entries.map key) :
    upsert key entry entries =
      entries.map fun other => if key other = key entry then entry else other := by
  induction entries with
  | nil => exact absurd known List.not_mem_nil
  | cons head rest ih =>
    obtain ⟨fresh, restDistinct⟩ := List.nodup_cons.mp distinct
    rw [List.map_cons, upsert]
    by_cases same : key head = key entry
    · have restDiffers : ∀ other ∈ rest, key other ≠ key entry := by
        intro other member
        exact same ▸ key_ne_of_not_mem fresh member
      have restStays : (rest.map fun other => if key other = key entry then entry else other) =
          rest.map id :=
        List.map_congr_left fun other member => if_neg (restDiffers other member)
      rw [if_pos same, if_pos same, restStays, List.map_id]
    · have knownLater : key entry ∈ rest.map key := by
        rcases List.mem_cons.mp known with here | later
        · exact absurd here.symm same
        · exact later
      rw [if_neg same, if_neg same, ih restDistinct knownLater]

theorem upsert_of_not_mem {key : α → κ} {entry : α} {entries : List α}
    (fresh : key entry ∉ entries.map key) : upsert key entry entries = entries ++ [entry] := by
  induction entries with
  | nil => rfl
  | cons other rest ih =>
    rw [List.map_cons, List.mem_cons, not_or] at fresh
    rw [upsert, if_neg (Ne.symm fresh.1), ih fresh.2, List.cons_append]

/-- An entry takes its place in a list: that of the first one with its key, or the last. -/
inductive TakesPlace (key : α → κ) (entry : α) : List α → List α → Prop where
  | replacing {before old after} (same : key old = key entry)
      (first : key entry ∉ before.map key) :
      TakesPlace key entry (before ++ old :: after) (before ++ entry :: after)
  | atEnd {entries} (fresh : key entry ∉ entries.map key) :
      TakesPlace key entry entries (entries ++ [entry])

theorem takesPlace_upsert (key : α → κ) (entry : α) (entries : List α) :
    TakesPlace key entry entries (upsert key entry entries) := by
  cases found : find? key (key entry) entries with
  | some old =>
    obtain ⟨_, before, after, split, others⟩ := List.find?_eq_some_iff_append.mp found
    have first : key entry ∉ before.map key := by
      intro member
      obtain ⟨other, earlier, same⟩ := List.mem_map.mp member
      simpa [same] using others other earlier
    rw [split, upsert_middle (key_of_find? found) first]
    exact .replacing (key_of_find? found) first
  | none =>
    have fresh : key entry ∉ entries.map key := by
      intro member
      obtain ⟨other, listed, same⟩ := List.mem_map.mp member
      simpa [same] using List.find?_eq_none.mp found other listed
    rw [upsert_of_not_mem fresh]
    exact .atEnd fresh

/-- Taking in an entry again changes nothing. -/
theorem upsert_upsert (key : α → κ) (entry : α) (entries : List α) :
    upsert key entry (upsert key entry entries) = upsert key entry entries := by
  induction entries with
  | nil => simp [upsert]
  | cons other rest ih =>
    by_cases same : key other = key entry
    · simp [upsert, same]
    · simp [upsert, same, ih]

theorem eq_or_mem_of_mem_upsert {key : α → κ} {entry other : α} {entries : List α}
    (member : other ∈ upsert key entry entries) : other = entry ∨ other ∈ entries := by
  have place := takesPlace_upsert key entry entries
  generalize upsert key entry entries = after at member place
  cases place with
  | replacing same first => grind
  | atEnd fresh => grind

/-- After a run there is nothing but what was there and what was taken in. -/
theorem mem_of_mem_upsertAll {key : α → κ} {other : α} {kept news : List α}
    (member : other ∈ upsertAll key kept news) : other ∈ kept ∨ other ∈ news := by
  induction news using List.reverseRecOn with
  | nil => exact .inl member
  | append_singleton news entry ih =>
    rw [upsertAll_concat] at member
    rcases eq_or_mem_of_mem_upsert member with last | earlier
    · exact .inr (by simp [last])
    · exact (ih earlier).imp_right fun sent => by simp [sent]

/-- Keys stay in their places through a run. -/
theorem prefix_map_upsertAll (key : α → κ) (kept news : List α) :
    kept.map key <+: (upsertAll key kept news).map key := by
  obtain ⟨newcomers, keys, _⟩ := map_upsertAll key kept news
  rw [keys]
  exact List.prefix_append _ _

/-- A change that keeps keys is seen in what is found. -/
theorem find?_map {key : α → κ} {change : α → α} (sameKey : ∀ entry, key (change entry) = key entry)
    (k : κ) (entries : List α) :
    find? key k (entries.map change) = (find? key k entries).map change := by
  induction entries with
  | nil => rfl
  | cons entry rest ih =>
    rw [List.map_cons, find?_cons, find?_cons, sameKey, ih]
    split <;> rfl

/-- Without the entries of one key, the others are found as before. -/
theorem find?_filter_ne (key : α → κ) (gone k : κ) (entries : List α) :
    find? key k (entries.filter (key · != gone)) =
      if k = gone then none else find? key k entries := by
  induction entries with
  | nil => simp
  | cons entry rest ih =>
    by_cases here : key entry = gone
    · rw [List.filter_cons_of_neg (by simp [here]), ih, find?_cons, here]
      split
      · rfl
      · rename_i other
        rw [if_neg (Ne.symm other)]
    · rw [List.filter_cons_of_pos (by simp [here]), find?_cons, find?_cons, ih]
      by_cases same : key entry = k
      · rw [if_pos same, if_pos same, if_neg (same ▸ here)]
      · rw [if_neg same, if_neg same]

end Coursework.Store
