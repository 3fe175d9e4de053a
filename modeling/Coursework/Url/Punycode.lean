/-!
# Punycode

The ASCII form of a label of a host name: its ASCII characters, then for every other character
how many steps lie between it and the one before, in the order of code points. A step is one
position further, or the next code point after the last position. The counts are numbers of
variable length in base 36 whose digits adapt to the counts so far. Reading takes the counts again
and inserts the characters where they say.
-/

namespace Coursework.Url.Punycode

/-- The digit of a number below 36. -/
def digit (n : Nat) : Char :=
  if n < 26 then Char.ofNat ('a'.toNat + n) else Char.ofNat ('0'.toNat + (n - 26))

/-- The number that a digit stands for. -/
def digitValue? (c : Char) : Option Nat :=
  if c.isLower then some (c.toNat - 'a'.toNat)
  else if c.isDigit then some (c.toNat - '0'.toNat + 26)
  else none

/-- The least digit that does not end a number at this place. -/
def threshold (place bias : Nat) : Nat := max 1 (min 26 (place - bias))

theorem threshold_pos (place bias : Nat) : 0 < threshold place bias := by
  unfold threshold; omega

/-- The digits of a count from a place on. -/
def digits (bias place count : Nat) : List Char :=
  let least := threshold place bias
  if count < least then [digit count]
  else
    digit (least + (count - least) % (36 - least)) ::
      digits bias (place + 36) ((count - least) / (36 - least))
termination_by count
decreasing_by
  have positive := threshold_pos place bias
  exact Nat.lt_of_le_of_lt (Nat.div_le_self ..) (by omega)

/-- The number of digits that a count of this size saves, and the count that is left. -/
def reduced (delta places : Nat) : Nat × Nat :=
  if 455 < delta then reduced (delta / 35) (places + 36) else (delta, places)
termination_by delta
decreasing_by exact Nat.div_lt_self (by omega) (by omega)

/-- The bias after a count, of which so many characters have been written. -/
def adapted (count written : Nat) (isFirst : Bool) : Nat :=
  let damped := if isFirst then count / 700 else count / 2
  let (delta, places) := reduced (damped + damped / written) 0
  places + 36 * delta / (delta + 38)

/-! ## Writing -/

/-- The state of writing: the digits so far, the steps since the last character written, the
bias, and the number of characters written. -/
structure State where
  output : List Char
  steps : Nat
  bias : Nat
  written : Nat
  isFirst : Bool

/-- One position of the label on the way through one code point. -/
def State.pass (codePoint : Nat) (state : State) (c : Char) : State :=
  if c.toNat < codePoint then { state with steps := state.steps + 1 }
  else if c.toNat = codePoint then
    { output := state.output ++ digits state.bias 36 state.steps
      steps := 0
      bias := adapted state.steps (state.written + 1) state.isFirst
      written := state.written + 1
      isFirst := false }
  else state

/-- The way through the code points of the label, in order, from the given one on. -/
def passes (label : List Char) (start : Nat) (state : State) : List Nat → State
  | [] => state
  | codePoint :: rest =>
    let skipped := { state with steps := state.steps + (codePoint - start) * (state.written + 1) }
    let passed := label.foldl (State.pass codePoint) skipped
    passes label (codePoint + 1) { passed with steps := passed.steps + 1 } rest

/-- The ASCII form of a label. -/
def encode (label : List Char) : List Char :=
  let basic := label.filter (·.toNat < 0x80)
  let others := ((label.map Char.toNat).filter (0x80 ≤ ·)).mergeSort.eraseDups
  let front := if basic.isEmpty then [] else basic ++ ['-']
  (passes label 0x80 ⟨front, 0, 72, basic.length, true⟩ others).output

/-! ## Reading -/

/-- The state of reading: the characters so far, the last of them that was inserted and the
position after it, the bias, and of the count that is being read the steps, the place of the next
digit and its weight. -/
structure Reading where
  output : List Char
  codePoint : Nat
  position : Nat
  bias : Nat
  isFirst : Bool
  steps : Nat
  place : Nat
  weight : Nat

/-- The state before any count, with the ASCII characters of the label. -/
def Reading.start (basic : List Char) : Reading := ⟨basic, 0x80, 0, 72, true, 0, 36, 1⟩

/-- The character that so many steps lead to, inserted. -/
def Reading.insert? (reading : Reading) (steps : Nat) : Option Reading :=
  let places := reading.output.length + 1
  let whole := reading.position + steps
  let codePoint := reading.codePoint + whole / places
  let position := whole % places
  if codePoint.isValidChar then
    some {
      output :=
        reading.output.take position ++ Char.ofNat codePoint :: reading.output.drop position
      codePoint
      position := position + 1
      bias := adapted steps places reading.isFirst
      isFirst := false
      steps := 0
      place := 36
      weight := 1 }
  else none

/-- One digit more. A digit below the threshold ends its count. -/
def Reading.digit? (reading : Reading) (c : Char) : Option Reading := do
  let number ← digitValue? c
  let steps := reading.steps + number * reading.weight
  let least := threshold reading.place reading.bias
  if number < least then reading.insert? steps
  else
    return { reading with
      steps
      place := reading.place + 36
      weight := reading.weight * (36 - least) }

/-- The ASCII characters of a label and the digits of its counts. Between them stands the last
hyphen. -/
def splitBasic (cs : List Char) : List Char × List Char :=
  let digits := (cs.reverse.takeWhile (· ≠ '-')).reverse
  if cs.length ≤ digits.length + 1 then ([], cs)
  else (cs.take (cs.length - digits.length - 1), digits)

/-- The label of an ASCII form. -/
def decode? (cs : List Char) : Option (List Char) := do
  let (basic, digits) := splitBasic cs
  let reading ← digits.foldlM Reading.digit? (.start basic)
  if reading.place = 36 then return reading.output else none

end Coursework.Url.Punycode
