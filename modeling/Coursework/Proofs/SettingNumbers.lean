import Coursework.Proofs.BackendUrls
import Coursework.Proofs.Decimals

/-!
# Numbers among the settings

`settings_read_exactly` says what the variables give, for every text in each of them: the settings,
or the first fault in the order backend, port, timeout. A number is what stands between blanks, in
digits, with a plus sign in front or not. It is at fault if nothing of that form stands there, or if
it is greater than its setting has room for.

What the variables give is told by the relation `Gives`. It does not mention how texts are trimmed
and read: what is left of a text is described by what stood around it (`Text.TrimsTo`), and a number
by its digits (`Numeral.Writes`).
-/

namespace Coursework

namespace Numeral

/-- The characters write the number: at least one digit, behind a plus sign or not. -/
inductive Writes : List Char → Nat → Prop where
  | digits {cs : List Char} (filled : cs ≠ []) (all : ∀ c ∈ cs, c.isDigit = true) :
      Writes cs (Nat.ofDigitChars 10 cs 0)
  | signed {cs : List Char} (filled : cs ≠ []) (all : ∀ c ∈ cs, c.isDigit = true) :
      Writes ('+' :: cs) (Nat.ofDigitChars 10 cs 0)

theorem ofDigits?_unsigned_eq_some_iff {cs : List Char} {n : Nat} :
    ofDigits? (unsigned cs) = some n ↔ Writes cs n := by
  rw [ofDigits?_eq_some_iff]
  unfold unsigned
  split
  case h_1 rest =>
    constructor
    · rintro ⟨filled, all, rfl⟩
      exact .signed filled all
    · intro writes
      cases writes with
      | digits _ all => exact absurd (all '+' List.mem_cons_self) (by decide)
      | signed filled all => exact ⟨filled, all, rfl⟩
  case h_2 noSign =>
    constructor
    · rintro ⟨filled, all, rfl⟩
      exact .digits filled all
    · intro writes
      cases writes with
      | digits filled all => exact ⟨filled, all, rfl⟩
      | signed => exact absurd rfl (noSign _)

/-- No digit is a blank. -/
theorem isBlank_of_isDigit {c : Char} (digit : c.isDigit = true) : Text.isBlank c = false := by
  obtain ⟨least, greatest⟩ := digit_lt digit
  have zero : '0'.toNat = 0x30 := by decide
  simp only [Text.isBlank, Bool.or_eq_false_iff, Bool.and_eq_false_iff, decide_eq_false_iff_not,
    beq_eq_false_iff_ne]
  omega

end Numeral

namespace Server

/-- The number that a variable gives: the default if it is not set, and else the number that is
written between blanks, up to the greatest. -/
inductive GivesNumber (greatest absent : Nat) : Option String → Nat → Prop where
  | absent : GivesNumber greatest absent none absent
  | written {value text : String} {n : Nat} (trimmed : Text.TrimsTo value text)
      (writes : Numeral.Writes text.toList n) (fits : n ≤ greatest) :
      GivesNumber greatest absent (some value) n

/-- The number is the greatest or a smaller one, as is the default. -/
theorem GivesNumber.le {greatest absent n : Nat} {given : Option String}
    (gives : GivesNumber greatest absent given n) (fits : absent ≤ greatest) : n ≤ greatest := by
  cases gives with
  | absent => exact fits
  | written _ _ fits => exact fits

section Number

variable {setting : Setting} {greatest absent n : Nat}

theorem readNat?_trim_eq_some_iff {value : String} :
    Numeral.readNat? greatest (Text.trim value) = some n ↔
      GivesNumber greatest absent (some value) n := by
  rw [Numeral.readNat?_eq_some_iff, Numeral.ofDigits?_unsigned_eq_some_iff]
  constructor
  · rintro ⟨writes, fits⟩
    exact .written (Text.trim_eq_iff.mp rfl) writes fits
  · intro given
    cases given with
    | written trimmed writes fits =>
      rw [Text.trim_eq_iff.mpr trimmed]
      exact ⟨writes, fits⟩

theorem number_eq_ok_iff {given : Option String} :
    Settings.number setting greatest absent given = .ok n ↔
      GivesNumber greatest absent given n := by
  unfold Settings.number
  cases given with
  | none =>
    dsimp only
    rw [Except.ok.injEq]
    constructor
    · rintro rfl
      exact .absent
    · intro default
      cases default
      rfl
  | some value =>
    rw [← readNat?_trim_eq_some_iff]
    dsimp only
    cases Numeral.readNat? greatest (Text.trim value) with
    | none => simp
    | some number => simp

/-- A fault quotes the whole value. -/
theorem number_eq_error_iff {given : Option String} {fault : SettingsFault} :
    Settings.number setting greatest absent given = .error fault ↔
      ∃ value, given = some value ∧ fault = .invalid setting value ∧
        ∀ n, ¬ GivesNumber greatest absent (some value) n := by
  unfold Settings.number
  cases given with
  | none => simp
  | some value =>
    have unread : (∀ n, ¬ GivesNumber greatest absent (some value) n) ↔
        Numeral.readNat? greatest (Text.trim value) = none := by
      simp only [← readNat?_trim_eq_some_iff, Option.eq_none_iff_forall_ne_some, ne_eq]
    simp only [unread, Option.some.injEq, exists_eq_left']
    cases Numeral.readNat? greatest (Text.trim value) with
    | none => simp [eq_comm]
    | some number => simp

end Number

/-- What the variables give. Faults come in the order backend, port, timeout. -/
inductive Gives (environment : Environment) : Except SettingsFault Settings → Prop where
  | missingBackend
      (missing : ∀ value, environment.backendUrl = some value → KeptAs value "") :
      Gives environment (.error (.missing .backendUrl))
  | invalidPort {backend url value : String}
      (given : environment.backendUrl = some backend) (kept : KeptAs backend url)
      (filled : url ≠ "") (port : environment.port = some value)
      (invalid : ∀ n, ¬ GivesNumber 65535 3000 (some value) n) :
      Gives environment (.error (.invalid .port value))
  | invalidProxyTimeout {backend url value : String} {n : Nat}
      (given : environment.backendUrl = some backend) (kept : KeptAs backend url)
      (filled : url ≠ "") (port : GivesNumber 65535 3000 environment.port n)
      (proxyTimeout : environment.proxyTimeout = some value)
      (invalid : ∀ n, ¬ GivesNumber (2 ^ 64 - 1) 30 (some value) n) :
      Gives environment (.error (.invalid .proxyTimeout value))
  | settings {backend : String} {settings : Settings}
      (given : environment.backendUrl = some backend) (kept : KeptAs backend settings.backendUrl)
      (filled : settings.backendUrl ≠ "")
      (port : GivesNumber 65535 3000 environment.port settings.port.toNat)
      (proxyTimeout :
        GivesNumber (2 ^ 64 - 1) 30 environment.proxyTimeout settings.proxyTimeout.toNat) :
      Gives environment (.ok settings)

theorem backend_eq_error_iff {given : Option String} {fault : SettingsFault} :
    Settings.backend given = .error fault ↔
      fault = .missing .backendUrl ∧ ∀ value, given = some value → KeptAs value "" := by
  have unset : (∀ value, given = some value → KeptAs value "") ↔
      (given.map Settings.normalBackendUrl).filter (· ≠ "") = none := by
    cases given with
    | none => simp
    | some value => simp [Option.filter_eq_none_iff, ← normalBackendUrl_eq_iff]
  rw [unset, Settings.backend]
  cases (given.map Settings.normalBackendUrl).filter (· ≠ "") with
  | none =>
    rw [Except.error.injEq, eq_comm]
    exact (and_iff_left rfl).symm
  | some url => simp

theorem gives_ofEnvironment (environment : Environment) :
    Gives environment (Settings.ofEnvironment environment) := by
  unfold Settings.ofEnvironment
  -- One variable after the other: what is read later matters only if no fault came before it.
  cases backend : Settings.backend environment.backendUrl with
  | error fault =>
    obtain ⟨rfl, missing⟩ := backend_eq_error_iff.mp backend
    exact .missingBackend missing
  | ok url =>
    obtain ⟨value, given, kept, filled⟩ := backend_eq_ok_iff_keptAs.mp backend
    cases port : Settings.number .port Numeral.greatest16 Settings.defaultPort
        environment.port with
    | error fault =>
      obtain ⟨text, set, rfl, invalid⟩ := number_eq_error_iff.mp port
      exact .invalidPort given kept filled set invalid
    | ok n =>
      have portGiven := number_eq_ok_iff.mp port
      cases timeout : Settings.number .proxyTimeout Numeral.greatest64
          Settings.defaultProxyTimeout environment.proxyTimeout with
      | error fault =>
        obtain ⟨text, set, rfl, invalid⟩ := number_eq_error_iff.mp timeout
        exact .invalidProxyTimeout given kept filled portGiven set invalid
      | ok m =>
        have timeoutGiven := number_eq_ok_iff.mp timeout
        have portFits : (UInt16.ofNat n).toNat = n :=
          UInt16.toNat_ofNat_of_lt' (Nat.lt_succ_of_le (portGiven.le (by decide)))
        have timeoutFits : (UInt64.ofNat m).toNat = m :=
          UInt64.toNat_ofNat_of_lt' (Nat.lt_succ_of_le (timeoutGiven.le (by decide)))
        refine .settings given kept filled ?_ ?_
        · rwa [portFits]
        · rwa [timeoutFits]

/-- The variables give one result only, which is what is read from them. -/
theorem ofEnvironment_eq_iff_gives {environment : Environment}
    {result : Except SettingsFault Settings} :
    Settings.ofEnvironment environment = result ↔ Gives environment result := by
  constructor
  · rintro rfl
    exact gives_ofEnvironment environment
  · intro gives
    cases gives with
    | missingBackend missing =>
      rw [Settings.ofEnvironment, backend_eq_error_iff.mpr ⟨rfl, missing⟩]
      rfl
    | invalidPort given kept filled port invalid =>
      have portRead : Settings.number .port Numeral.greatest16 Settings.defaultPort
          environment.port = .error _ := number_eq_error_iff.mpr ⟨_, port, rfl, invalid⟩
      rw [Settings.ofEnvironment, backend_eq_ok_iff_keptAs.mpr ⟨_, given, kept, filled⟩,
        portRead]
      rfl
    | invalidProxyTimeout given kept filled port proxyTimeout invalid =>
      have portRead : Settings.number .port Numeral.greatest16 Settings.defaultPort
          environment.port = .ok _ := number_eq_ok_iff.mpr port
      have timeoutRead : Settings.number .proxyTimeout Numeral.greatest64
          Settings.defaultProxyTimeout environment.proxyTimeout = .error _ :=
        number_eq_error_iff.mpr ⟨_, proxyTimeout, rfl, invalid⟩
      rw [Settings.ofEnvironment, backend_eq_ok_iff_keptAs.mpr ⟨_, given, kept, filled⟩,
        portRead, timeoutRead]
      rfl
    | @settings backend settings given kept filled port proxyTimeout =>
      refine Settings.ofEnvironment_eq_ok_iff.mpr
        ⟨settings.backendUrl, settings.port.toNat, settings.proxyTimeout.toNat, ?_,
          number_eq_ok_iff.mpr port, number_eq_ok_iff.mpr proxyTimeout, ?_⟩
      · exact backend_eq_ok_iff_keptAs.mpr ⟨backend, given, kept, filled⟩
      · rw [UInt16.ofNat_toNat, UInt64.ofNat_toNat]

/-! ## Decimals -/

/-- The value is the decimal of the number, with zeros in front of it or not, between blanks. -/
def SaysInDecimal (n : Nat) (value : String) : Prop :=
  ∃ before zeros after,
    value.toList = before ++ (List.replicate zeros '0' ++ (toString n).toList ++ after) ∧
      (∀ c ∈ before, Text.isBlank c = true) ∧ ∀ c ∈ after, Text.isBlank c = true

/-- The variable says the number in decimal, or is not set where that is the default. -/
def TellsNumber (absent n : Nat) : Option String → Prop
  | none => n = absent
  | some value => SaysInDecimal n value

theorem SaysInDecimal.givesNumber {greatest absent n : Nat} {value : String}
    (decimal : SaysInDecimal n value) (fits : n ≤ greatest) :
    GivesNumber greatest absent (some value) n := by
  obtain ⟨before, zeros, after, split, blankBefore, blankAfter⟩ := decimal
  have digits : (toString n).toList = Nat.toDigits 10 n := Nat.toList_repr
  rw [digits] at split
  have all : ∀ c ∈ List.replicate zeros '0' ++ Nat.toDigits 10 n, c.isDigit = true :=
    fun _ => Numeral.isDigit_of_mem_replicate_append_toDigits
  have trimmed : Text.TrimsTo value
      (String.ofList (List.replicate zeros '0' ++ Nat.toDigits 10 n)) := by
    refine ⟨⟨before, after, ?_, blankBefore, blankAfter⟩, ?_, ?_⟩
    · rw [String.toList_ofList]
      exact split
    · rw [String.toList_ofList]
      exact fun c first => Numeral.isBlank_of_isDigit (all c (List.mem_of_head? first))
    · rw [String.toList_ofList]
      exact fun c last => Numeral.isBlank_of_isDigit (all c (List.mem_of_getLast? last))
  have writes := Numeral.Writes.digits
    (List.append_ne_nil_of_right_ne_nil _ Nat.toDigits_ne_nil) all
  rw [Numeral.ofDigitChars_replicate_append_toDigits] at writes
  refine .written trimmed ?_ fits
  rw [String.toList_ofList]
  exact writes

theorem TellsNumber.givesNumber {greatest absent n : Nat} {given : Option String}
    (tells : TellsNumber absent n given) (fits : n ≤ greatest) :
    GivesNumber greatest absent given n := by
  cases given with
  | none =>
    obtain rfl : n = absent := tells
    exact .absent
  | some value => exact SaysInDecimal.givesNumber tells fits

/-- For every text in each of the variables, the result is the one that `Gives` tells. So each port
of 16 bits and each timeout of 64 bits is read back from its decimal, with zeros in front and blanks
around it or not. -/
theorem settings_read_exactly :
    (∀ environment result,
      Settings.ofEnvironment environment = result ↔ Gives environment result) ∧
    ∀ (environment : Environment) (backend : String) (settings : Settings),
      environment.backendUrl = some backend → KeptAs backend settings.backendUrl →
      settings.backendUrl ≠ "" → TellsNumber 3000 settings.port.toNat environment.port →
      TellsNumber 30 settings.proxyTimeout.toNat environment.proxyTimeout →
      Settings.ofEnvironment environment = .ok settings := by
  refine ⟨fun _ _ => ofEnvironment_eq_iff_gives, ?_⟩
  intro environment backend settings given kept filled port proxyTimeout
  refine ofEnvironment_eq_iff_gives.mpr (.settings given kept filled ?_ ?_)
  · exact port.givesNumber (Nat.le_of_lt_succ settings.port.toNat_lt)
  · exact proxyTimeout.givesNumber (Nat.le_of_lt_succ settings.proxyTimeout.toNat_lt)

/-- The greatest port, with zeros in front, and the greatest timeout, with blanks around it. -/
def greatestNumbers : Environment where
  backendUrl := some "http://backend/"
  port := some "0065535"
  proxyTimeout := some "\t18446744073709551615\u3000"

/-- The greatest numbers are read, and of two faults the first is reported. -/
theorem settings_read_exactly_of_greatest :
    greatestNumbers.backendUrl = some "http://backend/" ∧
      KeptAs "http://backend/" "http://backend" ∧ "http://backend" ≠ "" ∧
      TellsNumber 3000 65535 greatestNumbers.port ∧
      TellsNumber 30 18446744073709551615 greatestNumbers.proxyTimeout ∧
      Settings.ofEnvironment greatestNumbers =
        .ok ⟨65535, "http://backend", 18446744073709551615⟩ ∧
      Gives { greatestNumbers with port := some " 65536", proxyTimeout := some "+" }
        (.error (.invalid .port " 65536")) := by
  have kept : KeptAs "http://backend/" "http://backend" :=
    normalBackendUrl_eq_iff.mp (by decide +kernel)
  have port : TellsNumber 3000 65535 greatestNumbers.port :=
    ⟨[], 2, [], by decide +kernel, by simp, by simp⟩
  have proxyTimeout : TellsNumber 30 18446744073709551615 greatestNumbers.proxyTimeout :=
    ⟨['\t'], 0, ['\u3000'], by decide +kernel, List.forall_mem_singleton.mpr (by decide),
      List.forall_mem_singleton.mpr (by decide)⟩
  refine ⟨rfl, kept, by decide, port, proxyTimeout, ?_, ?_⟩
  · exact settings_read_exactly.2 greatestNumbers _ ⟨65535, "http://backend", 18446744073709551615⟩
      rfl kept (by decide) port proxyTimeout
  · exact (settings_read_exactly.1 _ _).mp (by decide +kernel)

end Server

end Coursework
