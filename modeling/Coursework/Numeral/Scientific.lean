import Coursework.Numeral.Binary64
import Coursework.Numeral.Natural

/-!
# Scientific notation

The binary number that a text in scientific notation stands for, found in steps each of which
rounds: the leading digits that fit into 64 bits are a whole number, which is multiplied or
divided by a power of ten. So the result may differ in the last bits from the nearest number.
-/

namespace Coursework.Numeral

/-- Appends digits to a number for as long as it has 64 bits. The second part of the result is
how many of the digits were appended; those after the first that does not fit are left out. -/
def appendDigits (n : Nat) : List Char → Nat × Nat
  | [] => (n, 0)
  | c :: rest =>
    let next := 10 * n + (c.toNat - '0'.toNat)
    if next ≤ greatest64 then
      let (total, count) := appendDigits next rest
      (total, count + 1)
    else (n, 0)

namespace Binary64

/-- The greatest power of ten by which a number is multiplied or divided at once. -/
def greatestPower : Nat := 308

/-- The number nearest to a power of ten. -/
def powerOfTen (n : Nat) : Binary64 := ofNat (Nat.pow 10 n)

/-- The number, if the format holds it. -/
def finite? (x : Binary64) : Option Binary64 := if x.isFinite then some x else none

/-- The number multiplied by a power of ten, if the format holds the result. A division by more
than the greatest power takes several steps. -/
def scaled? (x : Binary64) (exponent : Int) : Option Binary64 :=
  if x.mantissa = 0 then some x
  else if greatestPower < exponent then none
  else if 0 ≤ exponent then (x * powerOfTen exponent.toNat).finite?
  else if -greatestPower ≤ exponent then some (x / powerOfTen (-exponent).toNat)
  else scaled? (x / powerOfTen greatestPower) (exponent + greatestPower)
termination_by (-exponent).toNat
decreasing_by simp only [greatestPower] at *; omega

/-- The number with these digits before and after the point and this exponent. -/
def ofScientific? (whole fraction : List Char) (exponent : Int) : Option Binary64 :=
  let (front, kept) := appendDigits 0 whole
  let (digits, places) := appendDigits front fraction
  (ofNat digits).scaled? (exponent + (whole.length - kept : Nat) - places)

end Binary64

end Coursework.Numeral
