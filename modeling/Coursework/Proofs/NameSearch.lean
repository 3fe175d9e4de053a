import Mathlib.Data.List.Infix
import Mathlib.Data.List.TakeWhile
import Mathlib.Tactic.ByContra
import Coursework.Text.Search

/-!
# Searching for a part of a name

Name and query are put into lowercase apart from each other, and the small form of a capital sigma
depends on the letters around it. So a part of a name may have a sigma in lowercase that the name
does not have there, and then the name is not found by it.

`search_finds_parts` says for which parts that cannot happen. Where a part stands in a name, it is
found if each of its sigmas ends a word there exactly if it ends one in the part alone. The parts
that are found in every name with them are those whose every sigma is settled by the part itself,
and so all parts without a capital sigma.
-/

namespace Coursework.Text

/-! ## Lowercase text between other text -/

/-- Lowercase form of the characters between those of `before`, which is in reverse order, and
those of `after`. -/
def lowercaseBetween (before after : List Char) : List Char → List Char
  | [] => []
  | c :: rest =>
    (if c = 'Σ' then [if endsWord before (rest ++ after) then 'ς' else 'σ'] else lowercaseChar c) ++
      lowercaseBetween (c :: before) after rest

/-- Each part of a text is put into lowercase between the others. -/
theorem lowercaseAfter_append (before part after : List Char) :
    lowercaseAfter before (part ++ after) =
      lowercaseBetween before after part ++ lowercaseAfter (part.reverse ++ before) after := by
  induction part generalizing before with
  | nil => rfl
  | cons c rest ih => simp [lowercaseAfter, lowercaseBetween, ih]

theorem lowercaseAfter_eq (before part : List Char) :
    lowercaseAfter before part = lowercaseBetween before [] part := by
  simpa using lowercaseAfter_append before part []

theorem length_lowercaseBetween (before after before' after' part : List Char) :
    (lowercaseBetween before after part).length = (lowercaseBetween before' after' part).length := by
  induction part generalizing before before' with
  | nil => rfl
  | cons c rest ih =>
    rw [lowercaseBetween, lowercaseBetween, List.length_append, List.length_append,
      ih (c :: before) (c :: before')]
    split <;> rfl

/-- Every sigma of the characters after `front` ends a word between `before` and `after` exactly
if it ends one there alone. What stands before is in reverse order. -/
def sigmasKept (before after front : List Char) : List Char → Bool
  | [] => true
  | c :: rest =>
    (c ≠ 'Σ' || endsWord (front ++ before) (rest ++ after) == endsWord front rest) &&
      sigmasKept before after (c :: front) rest

/-- Text around a part changes its lowercase form in the sigmas at most. -/
theorem lowercaseBetween_eq_iff (before after front part : List Char) :
    lowercaseBetween (front ++ before) after part = lowercaseBetween front [] part ↔
      sigmasKept before after front part = true := by
  induction part generalizing front with
  | nil => simp [lowercaseBetween, sigmasKept]
  | cons c rest ih =>
    have tails := ih (c :: front)
    rw [List.cons_append] at tails
    by_cases sigma : c = 'Σ'
    · simp only [lowercaseBetween, sigmasKept, sigma, if_true, List.append_nil] at tails ⊢
      cases endsWord (front ++ before) (rest ++ after) <;> cases endsWord front rest <;>
        simp [tails]
    · simp [lowercaseBetween, sigmasKept, sigma, tails]

/-! ## Sigmas that are settled -/

/-- The form of a sigma between these characters does not depend on more text around them: a cased
letter follows, or a character before it tells that no word ends there, or characters on both
sides tell that one does. -/
def settles (front rest : List Char) : Bool :=
  meetsCased rest ||
    (!front.all isCaseIgnorable && (!meetsCased front || !rest.all isCaseIgnorable))

theorem meetsCased_append_of_all {cs : List Char} (ignorable : cs.all isCaseIgnorable = true)
    (more : List Char) : meetsCased (cs ++ more) = meetsCased more := by
  rw [meetsCased, List.dropWhile_append_of_pos (List.all_eq_true.mp ignorable), meetsCased]

theorem meetsCased_append {cs : List Char} (told : cs.all isCaseIgnorable = false)
    (more : List Char) : meetsCased (cs ++ more) = meetsCased cs := by
  have some : cs.dropWhile isCaseIgnorable ≠ [] := by
    rw [ne_eq, List.dropWhile_eq_nil_iff, ← List.all_eq_true, told]
    exact Bool.false_ne_true
  rw [meetsCased, List.dropWhile_append, List.isEmpty_eq_false_iff.mpr some, meetsCased]
  cases rest : cs.dropWhile isCaseIgnorable with
  | nil => exact absurd rest some
  | cons c rest => rfl

theorem meetsCased_of_all {cs : List Char} (ignorable : cs.all isCaseIgnorable = true) :
    meetsCased cs = false := by
  have alone := meetsCased_append_of_all ignorable []
  rwa [List.append_nil] at alone

/-- What is settled stays as it is. -/
theorem endsWord_of_settles {front rest : List Char} (settled : settles front rest = true)
    (before after : List Char) :
    endsWord (front ++ before) (rest ++ after) = endsWord front rest := by
  unfold endsWord
  cases told : rest.all isCaseIgnorable with
  | true =>
    have noWord : front.all isCaseIgnorable = false ∧ meetsCased front = false := by
      simpa [settles, meetsCased_of_all told, told] using settled
    rw [meetsCased_append noWord.1, noWord.2, Bool.false_and, Bool.false_and]
  | false =>
    rw [meetsCased_append told]
    cases follows : meetsCased rest with
    | true => simp
    | false =>
      have toldBefore : front.all isCaseIgnorable = false := by
        simpa [settles, follows, told] using settled
      rw [meetsCased_append toldBefore]

/-- What is not settled changes if a cased letter is written at one of the ends. -/
theorem endsWord_ne_of_not_settles {front rest : List Char}
    (unsettled : settles front rest = false) {x : Char} (cased : meetsCased [x] = true) :
    endsWord (front ++ [x]) rest ≠ endsWord front rest ∨
      endsWord front (rest ++ [x]) ≠ endsWord front rest := by
  have follows : meetsCased rest = false := by
    simp [settles] at unsettled
    exact unsettled.1
  unfold endsWord
  cases toldBefore : front.all isCaseIgnorable with
  | true =>
    left
    rw [meetsCased_append_of_all toldBefore, cased, follows, meetsCased_of_all toldBefore]
    decide
  | false =>
    right
    have ends : meetsCased front = true ∧ rest.all isCaseIgnorable = true := by
      simpa [settles, follows, toldBefore] using unsettled
    rw [meetsCased_append_of_all ends.2, cased, follows, ends.1]
    decide

/-- Every sigma of the characters after `front` is settled by the characters around it. What
stands before is in reverse order. -/
def sigmasSettled (front : List Char) : List Char → Bool
  | [] => true
  | c :: rest => (c ≠ 'Σ' || settles front rest) && sigmasSettled (c :: front) rest

theorem sigmasSettled_of_not_mem {part : List Char} (noSigma : 'Σ' ∉ part) (front : List Char) :
    sigmasSettled front part = true := by
  induction part generalizing front with
  | nil => rfl
  | cons c rest ih =>
    obtain ⟨other, noSigma⟩ := List.ne_and_not_mem_of_not_mem_cons noSigma
    simp [sigmasSettled, other.symm, ih noSigma]

/-- Settled sigmas are kept between all other characters. -/
theorem sigmasKept_of_sigmasSettled {front part : List Char}
    (settled : sigmasSettled front part = true) (before after : List Char) :
    sigmasKept before after front part = true := by
  induction part generalizing front with
  | nil => rfl
  | cons c rest ih =>
    obtain ⟨here, later⟩ := Bool.and_eq_true_iff.mp settled
    refine Bool.and_eq_true_iff.mpr ⟨?_, ih later⟩
    rcases Bool.or_eq_true_iff.mp here with other | settles
    · rw [other, Bool.true_or]
    · rw [endsWord_of_settles settles, beq_self_eq_true, Bool.or_true]

/-- A sigma that is not settled is not kept beside a cased letter at one of the ends. -/
theorem not_sigmasKept_of_not_sigmasSettled {front part : List Char}
    (unsettled : sigmasSettled front part = false) {x : Char} (cased : meetsCased [x] = true) :
    sigmasKept [x] [] front part = false ∨ sigmasKept [] [x] front part = false := by
  induction part generalizing front with
  | nil => cases unsettled
  | cons c rest ih =>
    rcases Bool.and_eq_false_iff.mp unsettled with here | later
    · obtain ⟨sigma, notSettled⟩ := Bool.or_eq_false_iff.mp here
      rcases endsWord_ne_of_not_settles notSettled cased with changed | changed
      · left
        simp [sigmasKept, sigma, changed]
      · right
        simp [sigmasKept, sigma, changed]
    · rcases ih later with changed | changed
      · left
        rw [sigmasKept, changed, Bool.and_false]
      · right
        rw [sigmasKept, changed, Bool.and_false]

/-! ## Parts of a name -/

theorem found_iff (query name : String) :
    found query name = true ↔ (trim query).toList = [] ∨
      lowercaseAfter [] (trim query).toList <:+: lowercaseAfter [] name.toList := by
  rw [found, Bool.or_eq_true, occursIn_iff, toList_lowercase, toList_lowercase,
    String.isEmpty_iff, String.toList_eq_nil_iff]

/-- A part is found where its sigmas are kept. -/
theorem found_of_sigmasKept {query name : String} {before after : List Char}
    (stands : name.toList = before ++ ((trim query).toList ++ after))
    (kept : sigmasKept before.reverse after [] (trim query).toList = true) :
    found query name = true := by
  have same := (lowercaseBetween_eq_iff before.reverse after [] (trim query).toList).mpr kept
  refine (found_iff query name).mpr (.inr ?_)
  rw [stands, lowercaseAfter_append, lowercaseAfter_append, lowercaseAfter_eq [], ← same,
    List.append_nil, List.nil_append]
  exact List.infix_append' _ _ _

/-- A list of one element less stands in the list only at its end, or begins as it does. -/
theorem eq_of_infix_cons {l m : List Char} {x : Char} (same : l.length = m.length)
    (begins : l.head? ≠ some x) (stands : l <:+: x :: m) : l = m := by
  rcases List.infix_cons_iff.mp stands with prefixed | behind
  · cases l with
    | nil => exact (List.length_eq_zero_iff.mp same.symm).symm
    | cons y l =>
      obtain ⟨rfl, -⟩ := List.cons_prefix_cons.mp prefixed
      exact absurd rfl begins
  · exact behind.eq_of_length same

theorem eq_of_infix_concat {l m : List Char} {x : Char} (same : l.length = m.length)
    (ends : l.getLast? ≠ some x) (stands : l <:+: m ++ [x]) : l = m := by
  rw [← List.reverse_infix, List.reverse_append] at stands
  rw [List.getLast?_eq_head?_reverse] at ends
  exact List.reverse_injective (eq_of_infix_cons (by simpa using same) ends stands)

/-- There are three cased letters that lowercase leaves alone, so one of them is neither of two
others. -/
theorem exists_cased_ne (first last : Option Char) :
    ∃ x, meetsCased [x] = true ∧ lowercaseChar x = [x] ∧ x ≠ 'Σ' ∧
      first ≠ some x ∧ last ≠ some x := by
  have letters : ∀ x ∈ ['a', 'b', 'c'],
      meetsCased [x] = true ∧ lowercaseChar x = [x] ∧ x ≠ 'Σ' := by
    intro x listed
    rw [List.mem_cons, List.mem_cons, List.mem_singleton] at listed
    rcases listed with rfl | rfl | rfl
    · decide +kernel
    · decide +kernel
    · decide +kernel
  have other : ∃ x ∈ ['a', 'b', 'c'], first ≠ some x ∧ last ≠ some x := by
    by_contra none
    have taken : ∀ x ∈ ['a', 'b', 'c'], first = some x ∨ last = some x := by
      intro x listed
      by_contra free
      exact none ⟨x, listed, not_or.mp free⟩
    rcases taken 'a' (by decide) with a | a <;> rcases taken 'b' (by decide) with b | b <;>
      rcases taken 'c' (by decide) with c | c <;> simp_all
  obtain ⟨x, listed, isOther⟩ := other
  obtain ⟨cased, lower, noSigma⟩ := letters x listed
  exact ⟨x, cased, lower, noSigma, isOther⟩

/-- If some sigma is not settled, there is a name with one letter more in which the part is not
found. -/
theorem exists_not_found {query : String}
    (unsettled : sigmasSettled [] (trim query).toList = false) :
    ∃ name : String, (trim query).toList <:+: name.toList ∧ found query name = false := by
  set part := (trim query).toList with isPart
  have filled : part ≠ [] := by
    intro empty
    rw [empty] at unsettled
    cases unsettled
  obtain ⟨x, cased, lower, noSigma, begins, ends⟩ :=
    exists_cased_ne (lowercaseAfter [] part).head? (lowercaseAfter [] part).getLast?
  have alone (before after : List Char) : lowercaseBetween before after [x] = [x] := by
    simp [lowercaseBetween, noSigma, lower]
  have differs {before after : List Char} (changed : sigmasKept before after [] part = false) :
      lowercaseAfter [] part ≠ lowercaseBetween before after part := by
    intro same
    rw [lowercaseAfter_eq] at same
    rw [(lowercaseBetween_eq_iff before after [] part).mp same.symm] at changed
    cases changed
  have sameLength (before after : List Char) :
      (lowercaseAfter [] part).length = (lowercaseBetween before after part).length := by
    rw [lowercaseAfter_eq]
    exact length_lowercaseBetween [] [] before after part
  rcases not_sigmasKept_of_not_sigmasSettled unsettled cased with changed | changed
  · have lowerName : lowercaseAfter [] (x :: part) = x :: lowercaseBetween [x] [] part := by
      rw [← List.singleton_append, lowercaseAfter_append, alone, List.reverse_singleton,
        List.append_nil, lowercaseAfter_eq, List.singleton_append]
    refine ⟨String.ofList (x :: part), ?_, ?_⟩
    · rw [String.toList_ofList]
      exact List.infix_cons List.infix_rfl
    · rw [Bool.eq_false_iff, ne_eq, found_iff, ← isPart, String.toList_ofList, not_or, lowerName]
      exact ⟨filled, mt (eq_of_infix_cons (sameLength _ _) begins) (differs changed)⟩
  · have lowerName : lowercaseAfter [] (part ++ [x]) = lowercaseBetween [] [x] part ++ [x] := by
      rw [lowercaseAfter_append, lowercaseAfter_eq _ [x], alone]
    refine ⟨String.ofList (part ++ [x]), ?_, ?_⟩
    · rw [String.toList_ofList]
      exact (List.prefix_append part [x]).isInfix
    · rw [Bool.eq_false_iff, ne_eq, found_iff, ← isPart, String.toList_ofList, not_or, lowerName]
      exact ⟨filled, mt (eq_of_infix_concat (sameLength _ _) ends) (differs changed)⟩

/-- A part is found where its sigmas are kept. It is found in every name that it stands in exactly
if each of its capital sigmas is settled by the other characters of the part, as is the case if it
has none. -/
theorem search_finds_parts (query : String) :
    (∀ (name : String) (before after : List Char),
      name.toList = before ++ ((trim query).toList ++ after) →
      sigmasKept before.reverse after [] (trim query).toList = true →
      found query name = true) ∧
    ((∀ name : String, (trim query).toList <:+: name.toList → found query name = true) ↔
      sigmasSettled [] (trim query).toList = true) ∧
    ('Σ' ∉ (trim query).toList →
      ∀ name : String, (trim query).toList <:+: name.toList → found query name = true) := by
  have everywhere (settled : sigmasSettled [] (trim query).toList = true) (name : String)
      (stands : (trim query).toList <:+: name.toList) : found query name = true := by
    obtain ⟨before, after, text⟩ := stands
    rw [List.append_assoc] at text
    exact found_of_sigmasKept text.symm (sigmasKept_of_sigmasSettled settled _ _)
  refine ⟨fun name before after => found_of_sigmasKept, ⟨?_, everywhere⟩, ?_⟩
  · intro always
    by_contra unsettled
    obtain ⟨name, stands, missed⟩ := exists_not_found (Bool.eq_false_iff.mpr unsettled)
    rw [always name stands] at missed
    cases missed
  · intro noSigma
    exact everywhere (sigmasSettled_of_not_mem noSigma [])

/-- A name is found by its beginning if a letter settles the sigma in it. -/
theorem search_finds_parts_of_begun_name :
    sigmasSettled [] (trim " ΚΩΣΤ").toList = true ∧ found " ΚΩΣΤ" "ΚΩΣΤΑΣ" = true ∧
      sigmasSettled [] (trim "ΤΑΣ").toList = false ∧ found "ΤΑΣ" "ΚΩΣΤΑΣ" = true := by
  have settled : sigmasSettled [] (trim " ΚΩΣΤ").toList = true := by decide +kernel
  refine ⟨settled, ?_, by decide +kernel, ?_⟩
  · exact (search_finds_parts " ΚΩΣΤ").2.1.mpr settled "ΚΩΣΤΑΣ" ⟨[], ['Α', 'Σ'], by decide⟩
  · exact (search_finds_parts "ΤΑΣ").1 "ΚΩΣΤΑΣ" "ΚΩΣ".toList [] (by decide) (by decide +kernel)

/-- While a name is typed letter by letter, it is lost after the sigma: the beginning alone ends
a word there, and the name does not. -/
theorem not_found_of_begun_name :
    ¬ ∀ query name : String, (trim query).toList <:+: name.toList → found query name = true := by
  intro always
  have missed : found "ΚΩΣ" "ΚΩΣΤΑΣ" = false := by decide +kernel
  rw [always "ΚΩΣ" "ΚΩΣΤΑΣ" ⟨[], ['Τ', 'Α', 'Σ'], by decide⟩] at missed
  cases missed

end Coursework.Text
