import Coursework.Grading.Result
import Coursework.Proofs.Decimals
import Coursework.Proofs.ShortestDecimals
import Coursework.Proofs.TrimmedTexts

/-!
# Texts of execution times

The time that tests took is counted in milliseconds and shown in seconds. The quotient is rounded,
and so it is rarely the fraction that is shown. `execTimeText_eq_exactSeconds` says that up to
`10 ^ 15` milliseconds the text is that of the fraction nevertheless, and that different times have
different texts.

`Decimal.Denotes` is all that is used of the search for shortest decimals. The rest is about digits:
a decimal in positional notation is the text of its whole and of its fraction.
-/

namespace Coursework.Numeral

/-! ## Last digits -/

/-- The last digits of a number, with zeros in front where it has not so many. -/
def lastDigits : Nat → Nat → List Char
  | 0, _ => []
  | width + 1, n => lastDigits width (n / 10) ++ [Nat.digitChar (n % 10)]

theorem digitChar_of_lt {digit : Nat} (small : digit < 10) :
    (Nat.digitChar digit).isDigit = true ∧ (Nat.digitChar digit).toNat = '0'.toNat + digit := by
  have each : ∀ digit < 10,
      (Nat.digitChar digit).isDigit = true ∧ (Nat.digitChar digit).toNat = '0'.toNat + digit := by
    decide
  exact each digit small

@[simp] theorem length_lastDigits (width n : Nat) : (lastDigits width n).length = width := by
  induction width generalizing n with
  | zero => rfl
  | succ width ih => simp [lastDigits, ih]

theorem isDigit_of_mem_lastDigits {width n : Nat} {c : Char} (member : c ∈ lastDigits width n) :
    c.isDigit = true := by
  induction width generalizing n with
  | zero => cases member
  | succ width ih =>
    rcases List.mem_append.mp member with before | last
    · exact ih before
    · rw [List.mem_singleton.mp last]
      exact (digitChar_of_lt (Nat.mod_lt n (by decide))).1

theorem ofDigitChars_lastDigits (width n : Nat) :
    Nat.ofDigitChars 10 (lastDigits width n) 0 = n % 10 ^ width := by
  induction width generalizing n with
  | zero => simp [lastDigits, Nat.mod_one]
  | succ width ih =>
    have digit := (digitChar_of_lt (Nat.mod_lt n (by decide : 0 < 10))).2
    rw [lastDigits, Nat.ofDigitChars_append, ih, Nat.ofDigitChars_cons, Nat.ofDigitChars_nil, digit,
      Nat.add_sub_cancel_left, Nat.pow_succ', Nat.mod_mul, Nat.add_comm]

/-- Zeros at the end of a number are zeros at the end of its digits. -/
theorem lastDigits_mul_pow (width k n : Nat) :
    lastDigits (width + k) (n * 10 ^ k) = lastDigits width n ++ List.replicate k '0' := by
  induction k with
  | zero => simp
  | succ k ih =>
    have shifted : n * 10 ^ (k + 1) = n * 10 ^ k * 10 := by rw [Nat.pow_succ, Nat.mul_assoc]
    rw [← Nat.add_assoc, lastDigits, shifted, Nat.mul_div_cancel _ (by decide),
      Nat.mul_mod_left, ih, List.append_assoc, List.replicate_succ']
    rfl

/-- A long number is written as its whole part in front of its last digits. -/
theorem toDigits_eq_append_lastDigits {width n : Nat} (long : 10 ^ width ≤ n) :
    Nat.toDigits 10 n = Nat.toDigits 10 (n / 10 ^ width) ++ lastDigits width n := by
  induction width generalizing n with
  | zero => simp [lastDigits]
  | succ width ih =>
    have shorter : 10 ^ width ≤ n / 10 := by
      rw [Nat.le_div_iff_mul_le (by decide), ← Nat.pow_succ]
      exact long
    have tens : 10 ≤ n := le_trans (Nat.le_self_pow width.succ_ne_zero 10) long
    rw [Nat.toDigits_of_base_le (by decide) tens, ih shorter, Nat.div_div_eq_div_mul,
      ← Nat.pow_succ', lastDigits, List.append_assoc]

/-- A short number is written as its last digits without zeros in front. -/
theorem replicate_append_toDigits {width n : Nat} (short : n < 10 ^ width) (positive : 0 < width) :
    List.replicate (width - (Nat.toDigits 10 n).length) '0' ++ Nat.toDigits 10 n =
      lastDigits width n := by
  have sameLength := (length_replicate_append_toDigits short positive).trans
    (length_lastDigits width n).symm
  refine (eq_of_ofDigitChars_eq (a := 0) (b := 0) sameLength
    (fun c => isDigit_of_mem_replicate_append_toDigits) (fun c => isDigit_of_mem_lastDigits) ?_).2
  rw [ofDigitChars_replicate_append_toDigits, ofDigitChars_lastDigits, Nat.mod_eq_of_lt short]

theorem toDigits_mul_pow {n : Nat} (positive : 0 < n) (k : Nat) :
    Nat.toDigits 10 (n * 10 ^ k) = Nat.toDigits 10 n ++ List.replicate k '0' := by
  have zeros := lastDigits_mul_pow 0 k n
  rw [Nat.zero_add, lastDigits, List.nil_append] at zeros
  rw [toDigits_eq_append_lastDigits (Nat.le_mul_of_pos_left _ positive),
    Nat.mul_div_cancel _ (Nat.pow_pos (by decide)), zeros]

/-! ## Positional notation -/

/-- The fraction `n % 10 ^ width` as it stands behind a whole number: not at all if it is zero, and
without zeros at its end. -/
def fraction (width n : Nat) : List Char :=
  if n % 10 ^ width = 0 then []
  else '.' :: (lastDigits width n).rdropWhile (· == '0')

theorem rdropWhile_append_replicate (cs : List Char) (k : Nat) :
    (cs ++ List.replicate k '0').rdropWhile (· == '0') = cs.rdropWhile (· == '0') :=
  Text.dropEnd_append_of_all (by simp) cs

/-- A fraction in its lowest places is written with all of them. -/
theorem fraction_mul_pow {places c : Nat} (positive : 0 < places) (reduced : ¬10 ∣ c) (k : Nat) :
    fraction (places + k) (c * 10 ^ k) = '.' :: lastDigits places c := by
  obtain ⟨before, rfl⟩ : ∃ before, places = before + 1 := ⟨places - 1, by omega⟩
  have nonzero : c * 10 ^ k % 10 ^ (before + 1 + k) ≠ 0 := by
    rw [Nat.pow_add, Nat.mul_mod_mul_right]
    intro divided
    refine reduced (dvd_trans (dvd_pow_self 10 before.succ_ne_zero) ?_)
    have powers : 0 < 10 ^ k := Nat.pow_pos (by decide)
    exact Nat.dvd_of_mod_eq_zero ((Nat.mul_eq_zero.mp divided).resolve_right powers.ne')
  have last : (Nat.digitChar (c % 10) == '0') = false := by
    have code := (digitChar_of_lt (Nat.mod_lt c (by decide))).2
    rw [beq_eq_false_iff_ne]
    intro zero
    rw [zero] at code
    exact reduced (Nat.dvd_of_mod_eq_zero (by omega))
  rw [fraction, if_neg nonzero, lastDigits_mul_pow, rdropWhile_append_replicate, lastDigits,
    List.rdropWhile_concat_neg _ _ _ (by simp [last])]

/-- The digits of a decimal with a fraction, cut at its point. -/
theorem positional_of_places {c places : Nat} (positive : 0 < places) :
    Decimal.positional ⟨c, -places⟩ =
      Nat.toDigits 10 (c / 10 ^ places) ++ '.' :: lastDigits places c := by
  have placesIs : (- -(places : Int)).toNat = places := by omega
  unfold Decimal.positional
  dsimp only
  rw [placesIs, if_neg positive.ne']
  rcases Nat.lt_or_ge c (10 ^ places) with short | long
  · have few := (Nat.length_toDigits_le_iff (by decide : 1 < 10) positive).mpr short
    rw [if_pos few, ← replicate_append_toDigits short positive, Nat.div_eq_of_lt short]
    rfl
  · have many : ¬(Nat.toDigits 10 c).length ≤ places := fun few =>
      absurd long ((Nat.length_toDigits_le_iff (by decide) positive).mp few).not_ge
    rw [if_neg many, toDigits_eq_append_lastDigits long, List.length_append, length_lastDigits,
      Nat.add_sub_cancel, List.take_left, List.drop_left]

/-- A decimal without a fraction is written as a whole number. -/
theorem positional_of_whole {c k : Nat} (positive : 0 < c) :
    Decimal.positional ⟨c, k⟩ = Nat.toDigits 10 (c * 10 ^ k) := by
  have none : (-(k : Int)).toNat = 0 := by omega
  unfold Decimal.positional
  dsimp only
  rw [none, if_pos rfl, Int.toNat_natCast, toDigits_mul_pow positive]

/-- A decimal that denotes a fraction is written as its whole, and behind it as its fraction. -/
theorem positional_of_denotes {width n : Nat} {d : Decimal} (denotes : d.Denotes width n)
    (positive : 0 < n) :
    d.positional = Nat.toDigits 10 (n / 10 ^ width) ++ fraction width n := by
  obtain ⟨c, exponent⟩ := d
  obtain ⟨places, same, reduced⟩ := denotes
  dsimp only at places same reduced
  have powers (k : Nat) : 0 < 10 ^ k := Nat.pow_pos (by decide)
  rcases Int.lt_or_le exponent 0 with negative | nonneg
  · obtain ⟨p, rfl⟩ := Int.exists_eq_neg_ofNat negative.le
    obtain ⟨k, rfl⟩ : ∃ k, width = p + k := ⟨width - p, by omega⟩
    have shifted : (-(p : Int) + (p + k : Nat)).toNat = k := by omega
    rw [shifted] at same
    rw [← same, positional_of_places (by omega), fraction_mul_pow (by omega) (reduced negative),
      Nat.pow_add, Nat.mul_div_mul_right _ _ (powers k)]
  · obtain ⟨k, rfl⟩ := Int.eq_ofNat_of_zero_le nonneg
    have shifted : ((k : Int) + width).toNat = k + width := by omega
    rw [shifted, Nat.pow_add, ← Nat.mul_assoc] at same
    have coefficient : 0 < c := by
      rcases Nat.eq_zero_or_pos c with rfl | coefficient
      · rw [Nat.zero_mul, Nat.zero_mul] at same
        exact absurd positive same.not_lt
      · exact coefficient
    rw [← same, positional_of_whole coefficient, Nat.mul_div_cancel _ (powers width), fraction,
      if_pos (Nat.mul_mod_left _ _), List.append_nil]

/-! ## Different numbers -/

/-- Texts of one length are told apart by what is left of them without the zeros at their ends. -/
theorem eq_of_rdropWhile_eq {cs ds : List Char} (sameLength : cs.length = ds.length)
    (same : cs.rdropWhile (· == '0') = ds.rdropWhile (· == '0')) : cs = ds := by
  have split (es : List Char) := List.rdropWhile_append_rtakeWhile (p := (· == '0')) (l := es)
  have zeros (es : List Char) := List.eq_replicate_of_mem fun c member =>
    beq_iff_eq.mp (List.mem_rtakeWhile_imp (p := (· == '0')) (l := es) member)
  have lengths := (congrArg List.length (split cs)).trans
    (sameLength.trans (congrArg List.length (split ds)).symm)
  rw [List.length_append, List.length_append, same, Nat.add_left_cancel_iff] at lengths
  rw [← split cs, ← split ds, same, zeros cs, zeros ds, lengths]

theorem mod_eq_of_fraction_eq {width n m : Nat} (same : fraction width n = fraction width m) :
    n % 10 ^ width = m % 10 ^ width := by
  unfold fraction at same
  split_ifs at same with nothing others others
  · rw [nothing, others]
  · have digits := eq_of_rdropWhile_eq (by simp) (List.cons.inj same).2
    rw [← ofDigitChars_lastDigits, ← ofDigitChars_lastDigits, digits]

/-- The digits in front of a fraction end where it begins. -/
theorem takeWhile_toDigits_append_fraction (whole width n : Nat) :
    (Nat.toDigits 10 whole ++ fraction width n).takeWhile Char.isDigit =
      Nat.toDigits 10 whole := by
  have stops : (fraction width n).takeWhile Char.isDigit = [] := by
    unfold fraction
    split_ifs <;> rfl
  rw [List.takeWhile_append_of_pos fun c => isDigit_of_mem_toDigits, stops, List.append_nil]

/-- Different numbers have different texts. -/
theorem eq_of_toDigits_append_fraction_eq (width : Nat) {n m : Nat}
    (same : Nat.toDigits 10 (n / 10 ^ width) ++ fraction width n =
      Nat.toDigits 10 (m / 10 ^ width) ++ fraction width m) : n = m := by
  have digits := congrArg (List.takeWhile Char.isDigit) same
  rw [takeWhile_toDigits_append_fraction, takeWhile_toDigits_append_fraction] at digits
  have whole := congrArg (Nat.ofDigitChars 10 · 0) digits
  simp only [Nat.ofDigitChars_ten_toDigits] at whole
  rw [whole] at same
  have rest := mod_eq_of_fraction_eq (List.append_cancel_left same)
  rw [← Nat.div_add_mod n (10 ^ width), whole, rest, Nat.div_add_mod]

/-! ## Thousandths -/

/-- The text of thousandths is that of the fraction, although the number is rounded. -/
theorem text_thousandths {n : Nat} (few : n < 10 ^ 15) :
    (Binary64.ofNat n / .ofNat 1000).text =
      String.ofList (Nat.toDigits 10 (n / 1000) ++ fraction 3 n) := by
  obtain ⟨num, den, denPositive, same, quotient⟩ :=
    Binary64.exists_div_eq_ofRatio (Binary64.value_ofNat (few.trans (by decide)))
      (Binary64.value_ofNat (n := 1000) (by decide)) (by decide)
  rw [Binary64.text, quotient]
  congr 1
  rcases Nat.eq_zero_or_pos n with rfl | positive
  · have denNonzero : (den : ℚ) ≠ 0 := by exact_mod_cast denPositive.ne'
    rw [Nat.cast_zero, zero_div, div_eq_zero_iff, or_iff_left denNonzero, Nat.cast_eq_zero] at same
    rw [same, Binary64.ofRatio_zero]
    rfl
  · exact positional_of_denotes
      (Binary64.denotes_shortest_ofRatio denPositive positive (by exact_mod_cast same) few) positive

end Coursework.Numeral

namespace Coursework.Grading

/-- A time in seconds, with all of its milliseconds. -/
def exactSeconds (milliseconds : Nat) : String :=
  toString (milliseconds / 1000) ++ String.ofList (Numeral.fraction 3 milliseconds) ++ " seconds"

theorem toList_exactSeconds (milliseconds : Nat) :
    (exactSeconds milliseconds).toList =
      Nat.toDigits 10 (milliseconds / 1000) ++ Numeral.fraction 3 milliseconds ++
        " seconds".toList := by
  rw [exactSeconds, String.toList_append, String.toList_append, String.toList_ofList]
  congr 2
  exact Nat.toList_repr

theorem exactSeconds_injective : Function.Injective exactSeconds := by
  intro first second same
  have texts := congrArg String.toList same
  rw [toList_exactSeconds, toList_exactSeconds] at texts
  exact Numeral.eq_of_toDigits_append_fraction_eq 3 (List.append_cancel_right texts)

/-- Up to `10 ^ 15` milliseconds the text of a time has the whole seconds and all of the
milliseconds, and different times have different texts. -/
theorem execTimeText_eq_exactSeconds (milliseconds : UInt64)
    (below : milliseconds.toNat < 10 ^ 15) :
    execTimeText milliseconds = exactSeconds milliseconds.toNat ∧
      ∀ other : UInt64, other.toNat < 10 ^ 15 →
        execTimeText milliseconds = execTimeText other → milliseconds = other := by
  have exact (time : UInt64) (few : time.toNat < 10 ^ 15) :
      execTimeText time = exactSeconds time.toNat := by
    apply String.toList_injective
    rw [execTimeText, Numeral.text_thousandths few, toList_exactSeconds, String.toList_append,
      String.toList_ofList]
  refine ⟨exact milliseconds below, fun other otherBelow same => ?_⟩
  rw [exact milliseconds below, exact other otherBelow] at same
  exact UInt64.toNat_inj.mp (exactSeconds_injective same)

theorem execTimeText_of_fifteen_digits :
    (999999999999990 : UInt64).toNat < 10 ^ 15 ∧
      execTimeText 999999999999990 = "999999999999.99 seconds" ∧
      execTimeText 999999999999990 ≠ execTimeText 999999999999999 := by
  have below : (999999999999990 : UInt64).toNat < 10 ^ 15 := by decide
  obtain ⟨exact, different⟩ := execTimeText_eq_exactSeconds 999999999999990 below
  refine ⟨below, exact.trans (by decide), fun same => ?_⟩
  exact absurd (different 999999999999999 (by decide) same) (by decide)

end Coursework.Grading
