/-!
# Reading natural numbers

A natural number is written as one or more ASCII digits, with leading zeros allowed. The reader
of settings and of route parameters also admits a plus sign in front, and both admit the numbers
up to some greatest one only.
-/

namespace Coursework.Numeral

/-- The number written by a nonempty list of decimal digits. -/
def ofDigits? (cs : List Char) : Option Nat :=
  if cs.isEmpty || !cs.all Char.isDigit then none else some (Nat.ofDigitChars 10 cs 0)

/-- The digits after an optional plus sign. -/
def unsigned (cs : List Char) : List Char :=
  match cs with
  | '+' :: rest => rest
  | _ => cs

/-- The number that the text writes, if that is at most `greatest`. -/
def readNat? (greatest : Nat) (s : String) : Option Nat :=
  (ofDigits? (unsigned s.toList)).filter (· ≤ greatest)

theorem ofDigits?_eq_some_iff {cs : List Char} {n : Nat} :
    ofDigits? cs = some n ↔
      cs ≠ [] ∧ (∀ c ∈ cs, c.isDigit = true) ∧ Nat.ofDigitChars 10 cs 0 = n := by
  by_cases written : cs = [] ∨ ∃ c ∈ cs, c.isDigit = false
  · rcases written with rfl | ⟨c, mem, notDigit⟩
    · simp [ofDigits?]
    · have : cs.all Char.isDigit = false := by simpa using ⟨c, mem, notDigit⟩
      simpa [ofDigits?, this] using fun _ digits => absurd (digits c mem) (by simp [notDigit])
  · simp only [not_or, not_exists, not_and, Bool.not_eq_false] at written
    simp only [ofDigits?, List.all_eq_true.2 written.2, written.1, List.isEmpty_iff,
      Bool.not_true, Bool.or_false, if_false, Option.some.injEq]
    exact ⟨fun value => ⟨written.1, written.2, value⟩, fun h => h.2.2⟩

theorem readNat?_eq_some_iff {greatest : Nat} {s : String} {n : Nat} :
    readNat? greatest s = some n ↔ ofDigits? (unsigned s.toList) = some n ∧ n ≤ greatest := by
  simp [readNat?, Option.filter_eq_some_iff]

/-- The greatest numbers of 16, 32 and 64 bits. -/
def greatest16 : Nat := 0xFFFF
def greatest32 : Nat := 0xFFFFFFFF
def greatest64 : Nat := 0xFFFFFFFFFFFFFFFF

/-- The identifier that the text writes. -/
def readUInt64? (s : String) : Option UInt64 :=
  (readNat? greatest64 s).map UInt64.ofNat

end Coursework.Numeral
