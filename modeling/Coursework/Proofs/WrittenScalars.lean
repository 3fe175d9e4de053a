import Coursework.Json.Printer
import Coursework.Json.Reader
import Coursework.Proofs.Decimals

/-!
# Written strings and numbers are read back

`stringRest?_string` is about every string, whatever its characters: the printer escapes some of
them and the reader undoes each escape by itself, so the induction is on the characters.
`number?_natural` is about whole numbers of 64 bits. A number has no end of its own and is read as
far as it goes, so it needs `EndsValue` of what follows.
-/

namespace Coursework.Json

open Numeral

/-! ## Strings -/

/-- Two zeros and the two digits of a control character are its code. -/
theorem hex4?_hexDigits {code : Nat} (control : code < 0x20) :
    hex4? '0' '0' (hexDigit (code / 16)) (hexDigit (code % 16)) = some code := by
  have zero : hexValue? '0' = some 0 := by decide
  have highDigit : hexValue? (hexDigit (code / 16)) = some (code / 16) :=
    hexValue?_hexDigit (by omega)
  have lowDigit : hexValue? (hexDigit (code % 16)) = some (code % 16) :=
    hexValue?_hexDigit (by omega)
  simp only [hex4?, zero, highDigit, lowDigit, Option.bind_eq_bind, Option.bind_some,
    Option.pure_def, Option.some.injEq]
  omega

/-- A code outside the surrogates is read alone, whether another code follows it or not. -/
theorem stringRest?_code {a b c d : Char} {code : Nat} (reversed rest : List Char)
    (value : hex4? a b c d = some code) (low : code < 0xD800) :
    stringRest? reversed ('\\' :: 'u' :: a :: b :: c :: d :: rest) =
      stringRest? (Char.ofNat code :: reversed) rest := by
  have single : code < 0xD800 ∨ 0xE000 ≤ code := .inl low
  rw [stringRest?.eq_def]
  split <;> rename_i same <;> cases same
  · rw [value]
    exact if_pos single
  · rw [value]
    exact if_pos single
  · rename_i noCode
    exact absurd rfl (noCode _ _ _ _ _ rfl)
  · rename_i noEscape
    exact absurd rfl (noEscape _ _ rfl)

/-- Each character is read back from its escaped form. -/
theorem stringRest?_escapedChar (c : Char) (reversed rest : List Char) :
    stringRest? reversed (escapedChar c ++ rest) = stringRest? (c :: reversed) rest := by
  unfold escapedChar
  split
  -- The quote, the backslash and the controls with a letter of their own.
  · rfl
  · rfl
  · rfl
  · rfl
  · rfl
  · rfl
  · rfl
  · split
    · rename_i control
      have code := stringRest?_code reversed rest (hex4?_hexDigits control) (by omega)
      rwa [Char.ofNat_toNat] at code
    · rename_i backslash _ _ _ _ _ noControl
      have plain : ¬ (c.toNat < 0x20 ∨ c = '\\') := not_or.mpr ⟨noControl, backslash⟩
      rw [List.singleton_append, stringRest?.eq_def]
      split <;> rename_i same <;> cases same <;> try contradiction
      exact if_neg plain

theorem stringRest?_escaped (s reversed rest : List Char) :
    stringRest? reversed (s.flatMap escapedChar ++ '\"' :: rest) =
      some (String.ofList (reversed.reverse ++ s), rest) := by
  induction s generalizing reversed with
  | nil => simp [stringRest?]
  | cons c s ih =>
    rw [List.flatMap_cons, List.append_assoc, stringRest?_escapedChar, ih]
    simp

/-- A written string is read back. -/
theorem stringRest?_string (s : String) (rest : List Char) :
    stringRest? [] (s.toList.flatMap escapedChar ++ '\"' :: rest) = some (s, rest) := by
  rw [stringRest?_escaped, List.reverse_nil, List.nil_append, String.ofList_toList]

theorem stringChars_append (s : String) (rest : List Char) :
    stringChars s ++ rest = '\"' :: (s.toList.flatMap escapedChar ++ '\"' :: rest) := by
  simp [stringChars]

/-! ## Numbers -/

/-- What may stand after a value: nothing, or what goes on with an array or object or closes it. -/
def EndsValue (rest : List Char) : Prop :=
  ∀ c ∈ rest.head?, c = ',' ∨ c = ']' ∨ c = '\x7d'

theorem endsValue_nil : EndsValue [] := by
  intro c first
  cases first

theorem endsValue_cons {c : Char} (closes : c = ',' ∨ c = ']' ∨ c = '\x7d') (rest : List Char) :
    EndsValue (c :: rest) := by
  rintro _ ⟨⟩
  exact closes

section

variable {rest : List Char}

theorem digits?_of_endsValue {digits : List Char} (written : digits ≠ [])
    (decimal : ∀ c ∈ digits, c.isDigit = true) (ends : EndsValue rest) :
    digits? (digits ++ rest) = some (digits, rest) := by
  have stops : rest.takeWhile Char.isDigit = [] ∧ rest.dropWhile Char.isDigit = rest := by
    cases rest with
    | nil => exact ⟨rfl, rfl⟩
    | cons c rest => rcases ends c rfl with rfl | rfl | rfl <;> exact ⟨rfl, rfl⟩
  have taken : (digits ++ rest).takeWhile Char.isDigit = digits := by
    rw [List.takeWhile_append_of_pos decimal, stops.1, List.append_nil]
  have dropped : (digits ++ rest).dropWhile Char.isDigit = rest := by
    rw [List.dropWhile_append_of_pos decimal, stops.2]
  unfold digits?
  rw [taken, dropped]
  simp [written]

theorem wholePart?_toDigits (n : Nat) (ends : EndsValue rest) :
    wholePart? (Nat.toDigits 10 n ++ rest) = some (Nat.toDigits 10 n, rest) := by
  by_cases zero : n = 0
  · subst zero
    rfl
  · obtain ⟨c, cs, decimal, _, nonzero⟩ := toDigits_eq_cons n
    unfold wholePart?
    split
    · rename_i begins
      rw [decimal] at begins
      cases begins
      exact absurd rfl (nonzero (Nat.pos_of_ne_zero zero))
    · exact digits?_of_endsValue Nat.toDigits_ne_nil (fun _ => isDigit_of_mem_toDigits) ends

theorem fractionPart?_of_endsValue (ends : EndsValue rest) :
    fractionPart? rest = some (none, rest) := by
  cases rest with
  | nil => rfl
  | cons c rest => rcases ends c rfl with rfl | rfl | rfl <;> rfl

theorem exponentPart?_of_endsValue (ends : EndsValue rest) :
    exponentPart? rest = some (none, rest) := by
  cases rest with
  | nil => rfl
  | cons c rest => rcases ends c rfl with rfl | rfl | rfl <;> rfl

theorem numberOf?_toDigits {n : Nat} (within : n ≤ greatest64) :
    numberOf? false (Nat.toDigits 10 n) none none = some (.integer n) := by
  simp [numberOf?, Nat.ofDigitChars_ten_toDigits, within]

/-- A written whole number is read back. -/
theorem number?_natural {n : Nat} (within : n ≤ greatest64) (ends : EndsValue rest) :
    number? (Nat.toDigits 10 n ++ rest) = some (natural n, rest) := by
  have unsigned : ∀ cs, Nat.toDigits 10 n ++ rest ≠ '-' :: cs := by
    intro cs begins
    obtain ⟨c, more, decimal, digit, _⟩ := toDigits_eq_cons n
    rw [decimal] at begins
    cases begins
    exact absurd digit (by decide)
  unfold number?
  split
  rename_i negative cs signed
  split at signed
  · rename_i begins
    exact absurd begins (unsigned _)
  · cases signed
    rw [wholePart?_toDigits n ends]
    simp [fractionPart?_of_endsValue ends, exponentPart?_of_endsValue ends,
      numberOf?_toDigits within, natural, integer]

end

end Coursework.Json
