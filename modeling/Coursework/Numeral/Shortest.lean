import Coursework.Numeral.Binary64

/-!
# Shortest decimals

The decimal number that stands for a binary one in text. Every decimal in the interval of a
binary number (the decimals nearer to it than to its neighbours, the ends belonging to even
mantissas) reads back as that number. `shortest` takes the coarsest decimal grid with a point in
the interval, and on it the point nearest to the number. Of two equally near points a `Tie` decides.
-/

namespace Coursework.Numeral

/-- The number `coefficient · 10 ^ exponent`. -/
structure Decimal where
  coefficient : Nat
  exponent : Int
  deriving DecidableEq, Repr

/-- Which of two equally near points stands for a number. -/
inductive Tie where
  | greater
  | even
  deriving DecidableEq, Repr

/-- The upper of two neighbouring points is taken, `below` being the lower one. -/
def Tie.takesUpper (tie : Tie) (below : Nat) : Bool :=
  match tie with
  | greater => true
  | even => below % 2 = 1

namespace Binary64

/-- Lower end of the interval, in quarters of `2 ^ exponent`. Just above a power of two the
neighbour below is nearer. -/
def lowerQuarters (x : Binary64) : Nat :=
  if x.mantissa = leastFull ∧ leastExponent < x.exponent then 4 * x.mantissa - 1
  else 4 * x.mantissa - 2

/-- Upper end of the interval, in quarters of `2 ^ exponent`. -/
def upperQuarters (x : Binary64) : Nat :=
  4 * x.mantissa + 2

/-- The grid of multiples of `10 ^ k` beside the interval of a number: `point` is the size of
one step of the grid and `quarter` that of a quarter of `2 ^ exponent`, both as multiples of one
common unit. -/
structure Grid where
  point : Nat
  quarter : Nat

/-- The grid of multiples of `10 ^ k` at the scale of a number. -/
def grid (x : Binary64) (k : Int) : Grid where
  point := Nat.pow 10 k.toNat <<< (2 - x.exponent).toNat
  quarter := Nat.pow 10 (-k).toNat <<< (x.exponent - 2).toNat

/-- The `d`-th grid point lies in the interval of the number. -/
def admits (x : Binary64) (g : Grid) (d : Nat) : Bool :=
  let low := x.lowerQuarters * g.quarter
  let high := x.upperQuarters * g.quarter
  if x.mantissa % 2 = 0 then low ≤ d * g.point && d * g.point ≤ high
  else low < d * g.point && d * g.point < high

/-- The point of the grid of multiples of `10 ^ k` that lies in the interval and is nearest to
the number. -/
def gridPoint? (tie : Tie) (x : Binary64) (k : Int) : Option Nat :=
  let g := x.grid k
  let value := 4 * x.mantissa * g.quarter
  let below := value / g.point
  match x.admits g below, x.admits g (below + 1) with
  | true, true =>
    let twice := 2 * (value % g.point)
    some (if g.point < twice ∨ twice = g.point ∧ tie.takesUpper below then below + 1 else below)
  | true, false => some below
  | false, true => some (below + 1)
  | false, false => none

/-- The first grid with a point in the interval, from `10 ^ k` towards finer ones. -/
def coarsest (tie : Tie) (x : Binary64) : Nat → Int → Decimal
  | 0, k => ⟨4 * x.mantissa * (x.grid k).quarter / (x.grid k).point, k⟩
  | tries + 1, k =>
    match x.gridPoint? tie k with
    | some d => ⟨d, k⟩
    | none => coarsest tie x tries (k - 1)

/-- A grid on which the number lies before the first point. -/
def coarseExponent (x : Binary64) : Int :=
  ((x.mantissa.log2 : Int) + 1 + x.exponent) * 30103 / 100000 + 2

/-- The shortest decimal that reads back as the number. Seventeen digits always suffice, and the
search begins at most four grids above the first digit. -/
def shortest (tie : Tie) (x : Binary64) : Decimal :=
  if x.mantissa = 0 then ⟨0, 0⟩ else x.coarsest tie 21 (coarseExponent x)

end Binary64

namespace Decimal

/-- The number in positional notation: no exponent, no zero at the end of a fraction. -/
def positional (d : Decimal) : List Char :=
  let digits := Nat.toDigits 10 d.coefficient
  let places := (-d.exponent).toNat
  if places = 0 then digits ++ List.replicate d.exponent.toNat '0'
  else if digits.length ≤ places then
    '0' :: '.' :: List.replicate (places - digits.length) '0' ++ digits
  else digits.take (digits.length - places) ++ '.' :: digits.drop (digits.length - places)

end Decimal

/-- The text of a binary number: its shortest decimal in positional notation, the greater of two
equally near ones. -/
def Binary64.text (x : Binary64) : String :=
  String.ofList (x.shortest .greater).positional

end Coursework.Numeral
