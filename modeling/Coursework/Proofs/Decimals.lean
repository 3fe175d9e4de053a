import Mathlib.Algebra.Group.Nat.Defs
import Coursework.Numeral.Natural

/-!
# Decimals of natural numbers

A natural number is written in decimal with digits only, and without a zero in front. The reader
of identifiers takes back what is written, by `readUInt64?_toString`.

Digits with zeros in front are told apart by their number, where they are as many
(`eq_of_ofDigitChars_eq`).
-/

namespace Coursework.Numeral

theorem isDigit_of_mem_toDigits {n : Nat} {c : Char} (member : c ∈ Nat.toDigits 10 n) :
    c.isDigit = true :=
  Nat.isDigit_of_mem_toDigits (by decide) (by decide) member

/-- A decimal begins with a digit, which is zero for the number zero only. -/
theorem toDigits_eq_cons (n : Nat) :
    ∃ c cs, Nat.toDigits 10 n = c :: cs ∧ c.isDigit = true ∧ (0 < n → c ≠ '0') := by
  induction n using Nat.strongRecOn with
  | ind n ih =>
    by_cases small : n < 10
    · have digit : ∀ m < 10,
          (Nat.digitChar m).isDigit = true ∧ (0 < m → Nat.digitChar m ≠ '0') := by decide
      exact ⟨Nat.digitChar n, [], Nat.toDigits_of_lt_base small, digit n small⟩
    · obtain ⟨c, cs, leading, digit, nonzero⟩ := ih (n / 10) (by omega)
      have last := Nat.toDigits_of_base_le (by decide : 1 < 10) (Nat.le_of_not_lt small)
      refine ⟨c, cs ++ [Nat.digitChar (n % 10)], ?_, digit, fun _ => nonzero (by omega)⟩
      rw [last, leading, List.cons_append]

/-- What is no digit differs from every digit. -/
theorem ne_of_isDigit {c other : Char} (digit : c.isDigit = true)
    (noDigit : other.isDigit = false) : c ≠ other := by
  rintro rfl
  exact Bool.false_ne_true (noDigit.symm.trans digit)

theorem digit_lt {c : Char} (digit : c.isDigit = true) :
    '0'.toNat ≤ c.toNat ∧ c.toNat - '0'.toNat < 10 := by
  simp only [Char.isDigit, Bool.and_eq_true, decide_eq_true_eq, ge_iff_le,
    UInt32.le_iff_toNat_le] at digit
  obtain ⟨least, greatest⟩ := digit
  change '0'.toNat ≤ c.toNat at least
  change c.toNat ≤ '9'.toNat at greatest
  have nine : '9'.toNat = '0'.toNat + 9 := by decide
  omega

/-- Digits write a number that so many digits have room for. -/
theorem ofDigitChars_lt {cs : List Char} (digits : ∀ c ∈ cs, c.isDigit = true) (before : Nat) :
    Nat.ofDigitChars 10 cs before < (before + 1) * 10 ^ cs.length := by
  induction cs generalizing before with
  | nil => simp
  | cons c rest ih =>
    have digit := (digit_lt (digits c List.mem_cons_self)).2
    have later := ih (fun e member => digits e (List.mem_cons_of_mem c member))
      (10 * before + (c.toNat - '0'.toNat))
    rw [Nat.ofDigitChars_cons, List.length_cons, Nat.pow_succ']
    refine Nat.lt_of_lt_of_le later ?_
    rw [← Nat.mul_assoc]
    exact Nat.mul_le_mul_right _ (by omega)

/-- As many digits of one number are the same digits. -/
theorem eq_of_ofDigitChars_eq {cs ds : List Char} (sameLength : cs.length = ds.length)
    (digits : ∀ c ∈ cs, c.isDigit = true) (others : ∀ d ∈ ds, d.isDigit = true) {a b : Nat}
    (same : Nat.ofDigitChars 10 cs a = Nat.ofDigitChars 10 ds b) : a = b ∧ cs = ds := by
  induction cs generalizing ds a b with
  | nil =>
    obtain rfl : ds = [] := List.length_eq_zero_iff.mp sameLength.symm
    exact ⟨by simpa using same, rfl⟩
  | cons c rest ih =>
    obtain ⟨d, later, rfl⟩ := List.exists_cons_of_length_eq_add_one sameLength.symm
    obtain ⟨cLeast, cDigit⟩ := digit_lt (digits c List.mem_cons_self)
    obtain ⟨dLeast, dDigit⟩ := digit_lt (others d List.mem_cons_self)
    rw [Nat.ofDigitChars_cons, Nat.ofDigitChars_cons] at same
    obtain ⟨sums, rfl⟩ := ih (Nat.succ.inj sameLength)
      (fun e member => digits e (List.mem_cons_of_mem c member))
      (fun e member => others e (List.mem_cons_of_mem d member)) same
    have sameDigit : c = d := Char.toNat_inj.mp (by omega)
    exact ⟨by omega, by rw [sameDigit]⟩

section ZerosInFront

variable {width n : Nat}

theorem length_replicate_append_toDigits (fits : n < 10 ^ width) (positive : 0 < width) :
    (List.replicate (width - (Nat.toDigits 10 n).length) '0' ++ Nat.toDigits 10 n).length =
      width := by
  have short := (Nat.length_toDigits_le_iff (by decide : 1 < 10) positive).mpr fits
  rw [List.length_append, List.length_replicate, Nat.sub_add_cancel short]

theorem isDigit_of_mem_replicate_append_toDigits {c : Char} {zeros : Nat}
    (member : c ∈ List.replicate zeros '0' ++ Nat.toDigits 10 n) : c.isDigit = true := by
  rcases List.mem_append.mp member with zero | decimal
  · rw [List.eq_of_mem_replicate zero]
    decide
  · exact isDigit_of_mem_toDigits decimal

theorem ofDigitChars_replicate_append_toDigits (zeros n : Nat) :
    Nat.ofDigitChars 10 (List.replicate zeros '0' ++ Nat.toDigits 10 n) 0 = n := by
  rw [Nat.ofDigitChars_append, Nat.ofDigitChars_replicate_zero, Nat.mul_zero,
    Nat.ofDigitChars_ten_toDigits]

end ZerosInFront

theorem ofDigits?_toDigits (n : Nat) : ofDigits? (Nat.toDigits 10 n) = some n :=
  ofDigits?_eq_some_iff.mpr
    ⟨Nat.toDigits_ne_nil, fun _ => isDigit_of_mem_toDigits, Nat.ofDigitChars_ten_toDigits⟩

theorem unsigned_toDigits (n : Nat) : unsigned (Nat.toDigits 10 n) = Nat.toDigits 10 n := by
  obtain ⟨c, cs, decimal, digit, _⟩ := toDigits_eq_cons n
  have noSign : c ≠ '+' := ne_of_isDigit digit (by decide)
  rw [decimal]
  unfold unsigned
  split
  · rename_i same
    cases same
    exact absurd rfl noSign
  · rfl

theorem toList_toString_uint64 (id : UInt64) :
    (toString id).toList = Nat.toDigits 10 id.toNat :=
  Nat.toList_repr

/-- The text of an identifier has digits only. -/
theorem not_mem_toString_uint64 {c : Char} (noDigit : c.isDigit = false) (id : UInt64) :
    c ∉ (toString id).toList := by
  intro member
  rw [toList_toString_uint64] at member
  exact ne_of_isDigit (isDigit_of_mem_toDigits member) noDigit rfl

/-- The text of an identifier is no word with a letter in it. -/
theorem toString_uint64_ne {word : String} {c : Char} (member : c ∈ word.toList)
    (noDigit : c.isDigit = false) (id : UInt64) : toString id ≠ word := by
  rintro rfl
  exact not_mem_toString_uint64 noDigit id member

/-- The text of an identifier is read as that identifier. -/
theorem readUInt64?_toString (id : UInt64) : readUInt64? (toString id) = some id := by
  have within : id.toNat ≤ greatest64 := Nat.le_of_lt_succ id.toNat_lt
  have digits : ofDigits? (unsigned (toString id).toList) = some id.toNat := by
    rw [toList_toString_uint64, unsigned_toDigits, ofDigits?_toDigits]
  have read : readNat? greatest64 (toString id) = some id.toNat :=
    readNat?_eq_some_iff.mpr ⟨digits, within⟩
  rw [readUInt64?, read, Option.map_some, UInt64.ofNat_toNat]

end Coursework.Numeral
