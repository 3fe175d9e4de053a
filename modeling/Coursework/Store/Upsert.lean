/-!
# Lists kept by key

A list whose entries are found by a key takes in a new entry in the place of the first one with
that key, and at its end if there is none.
-/

namespace Coursework.Store

variable {α κ : Type} [DecidableEq κ]

/-- Puts an entry in the place of the first one with its key, or at the end. -/
def upsert (key : α → κ) (entry : α) : List α → List α
  | [] => [entry]
  | other :: rest =>
    if key other = key entry then entry :: rest else other :: upsert key entry rest

/-- The first entry with that key. -/
def find? (key : α → κ) (k : κ) (entries : List α) : Option α :=
  entries.find? fun entry => decide (key entry = k)

@[simp] theorem find?_nil (key : α → κ) (k : κ) : find? key k ([] : List α) = none := rfl

theorem find?_cons (key : α → κ) (k : κ) (entry : α) (rest : List α) :
    find? key k (entry :: rest) = if key entry = k then some entry else find? key k rest := by
  by_cases h : key entry = k <;> simp [find?, h]

/-- What is found under a key has that key. -/
theorem key_of_find? {key : α → κ} {k : κ} {entry : α} {entries : List α}
    (found : find? key k entries = some entry) : key entry = k := by
  have test := List.find?_some found
  exact of_decide_eq_true test

/-- An entry is found under its own key, and the others as before. -/
theorem find?_upsert (key : α → κ) (entry : α) (k : κ) (entries : List α) :
    find? key k (upsert key entry entries) =
      if key entry = k then some entry else find? key k entries := by
  induction entries with
  | nil => simp [upsert, find?_cons]
  | cons other rest ih =>
    unfold upsert
    by_cases same : key other = key entry
    · rw [if_pos same, find?_cons, find?_cons, same]
      split <;> rfl
    · rw [if_neg same, find?_cons, find?_cons, ih]
      by_cases here : key other = k
      · simp [here, show key entry ≠ k from fun h => same (here.trans h.symm)]
      · simp [here]

/-- Keys stay as they are, but for a new one at the end. -/
theorem map_upsert (key : α → κ) (entry : α) (entries : List α) :
    (upsert key entry entries).map key =
      if key entry ∈ entries.map key then entries.map key
      else entries.map key ++ [key entry] := by
  induction entries with
  | nil => simp [upsert]
  | cons other rest ih =>
    unfold upsert
    by_cases same : key other = key entry
    · simp [same]
    · simp only [if_neg same, List.map_cons, ih, List.mem_cons, Ne.symm same, false_or]
      split <;> simp

/-- An entry takes the place of the one with its key. -/
theorem upsert_middle {key : α → κ} {entry old : α} {before after : List α}
    (same : key old = key entry) (absent : key entry ∉ before.map key) :
    upsert key entry (before ++ old :: after) = before ++ entry :: after := by
  induction before with
  | nil => simp [upsert, same]
  | cons other rest ih =>
    rw [List.map_cons, List.mem_cons, not_or] at absent
    rw [List.cons_append, upsert, if_neg (Ne.symm absent.1), ih absent.2, List.cons_append]

end Coursework.Store
