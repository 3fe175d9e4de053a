import Coursework.Calendar.Display
import Coursework.Proofs.Decimals
import Coursework.Proofs.WrittenTimes

/-!
# What is shown of a time

`ShownAs` says what a text is shown as: a timestamp as its day and its clock, a plain date as its
day, and any other text as it is. `display_recognises_times` says that this is what is shown.

Nothing that is shown of a time is a time again, because a blank follows the one or two digits of
the day, where a year has four. So showing what is shown changes nothing.
-/

namespace Coursework.Calendar

/-! ## Digits -/

namespace Digits

variable {width n : Nat} {cs ds : List Char}

theorem lt (digits : Digits width n cs) : n < 10 ^ width := by
  have bound := Numeral.ofDigitChars_lt digits.digits 0
  rwa [digits.value, digits.length, Nat.zero_add, Nat.one_mul] at bound

theorem unique (first : Digits width n cs) (second : Digits width n ds) : cs = ds :=
  (Numeral.eq_of_ofDigitChars_eq (first.length.trans second.length.symm) first.digits second.digits
    (first.value.trans second.value.symm)).2

theorem padded (fits : n < 10 ^ width) (positive : 0 < width) :
    Digits width n (padded width n).toList := by
  rw [Calendar.padded, String.toList_ofList]
  exact ⟨Numeral.length_replicate_append_toDigits fits positive,
    fun c => Numeral.isDigit_of_mem_replicate_append_toDigits,
    Numeral.ofDigitChars_replicate_append_toDigits _ _⟩

end Digits

/-! ## Shown forms -/

/-- A day as it is shown: without padding, with the name of the month, and with a year of four
digits that has a sign if it is negative. -/
inductive ShownDate (date : Date) : List Char → Prop where
  | mk {ys} (years : Digits 4 date.year.natAbs ys) :
      ShownDate date
        (Nat.toDigits 10 date.day ++ ' ' :: ((monthName date.month).toList ++
          ' ' :: ((if date.year < 0 then ['-'] else []) ++ ys)))

/-- A moment as it is shown: its day, and the hour and minute of its own clock. -/
inductive ShownMoment (moment : Moment) : List Char → Prop where
  | mk {ds hs ms} (date : ShownDate moment.date ds) (hours : Digits 2 moment.hour hs)
      (minutes : Digits 2 moment.minute ms) : ShownMoment moment (ds ++ ' ' :: (hs ++ ':' :: ms))

/-- What a text is shown as. -/
inductive ShownAs (raw : String) : String → Prop where
  | moment {moment text} (written : IsTimestamp moment raw.toList)
      (shown : ShownMoment moment text.toList) : ShownAs raw text
  | date {date text} (noTimestamp : ∀ moment, ¬IsTimestamp moment raw.toList)
      (written : IsPlainDate date raw.toList) (shown : ShownDate date text.toList) :
      ShownAs raw text
  | other (noTimestamp : ∀ moment, ¬IsTimestamp moment raw.toList)
      (noDate : ∀ date, ¬IsPlainDate date raw.toList) : ShownAs raw raw

variable {date : Date} {moment : Moment} {cs ds : List Char}

theorem ShownDate.unique (first : ShownDate date cs) (second : ShownDate date ds) : cs = ds := by
  obtain ⟨years⟩ := first
  obtain ⟨years'⟩ := second
  rw [years.unique years']

theorem ShownMoment.unique (first : ShownMoment moment cs) (second : ShownMoment moment ds) :
    cs = ds := by
  obtain ⟨date, hours, minutes⟩ := first
  obtain ⟨date', hours', minutes'⟩ := second
  rw [date.unique date', hours.unique hours', minutes.unique minutes']

theorem shownDate_text (fourDigits : date.year.natAbs < 10 ^ 4) :
    ShownDate date date.text.toList := by
  have sign : (if date.year < 0 then "-" else "").toList =
      if date.year < 0 then ['-'] else [] := by
    split <;> rfl
  have text : date.text.toList =
      Nat.toDigits 10 date.day ++ ' ' :: ((monthName date.month).toList ++
        ' ' :: ((if date.year < 0 then ['-'] else []) ++ (padded 4 date.year.natAbs).toList)) := by
    simp [Date.text, yearText, sign]
  rw [text]
  exact .mk (.padded fourDigits (by decide))

theorem shownMoment_text (fourDigits : moment.date.year.natAbs < 10 ^ 4)
    (withinDay : moment.hour ≤ 23) (withinHour : moment.minute ≤ 59) :
    ShownMoment moment moment.text.toList := by
  have text : moment.text.toList = moment.date.text.toList ++
      ' ' :: ((padded 2 moment.hour).toList ++ ':' :: (padded 2 moment.minute).toList) := by
    simp [Moment.text]
  rw [text]
  exact .mk (shownDate_text fourDigits) (.padded (by omega) (by decide))
    (.padded (by omega) (by decide))

theorem IsDay.year_lt {year month day : Nat} (isDay : IsDay year month day cs) :
    year < 10 ^ 4 := by
  obtain ⟨years, _, _⟩ := isDay
  exact years.lt

theorem IsTimestamp.shown_text (written : IsTimestamp moment cs) :
    ShownMoment moment moment.text.toList := by
  obtain ⟨day, same, _, _, withinDay, _, withinHour, _, _, _, _⟩ := written
  refine shownMoment_text ?_ withinDay withinHour
  rw [same]
  exact day.year_lt

theorem IsPlainDate.shown_text (written : IsPlainDate date cs) :
    ShownDate date date.text.toList := by
  refine shownDate_text ?_
  cases written with
  | unsigned day same => rw [same, Int.natAbs_natCast]; exact day.year_lt
  | plus day same => rw [same, Int.natAbs_natCast]; exact day.year_lt
  | minus day same => rw [same, Int.natAbs_neg, Int.natAbs_natCast]; exact day.year_lt

/-! ## What is shown -/

variable {raw text : String}

theorem readTimestamp?_eq_none_iff :
    readTimestamp? cs = none ↔ ∀ moment, ¬IsTimestamp moment cs := by
  rw [Option.eq_none_iff_forall_ne_some]
  exact forall_congr' fun moment => not_congr readTimestamp?_eq_some_iff

theorem readDate?_eq_none_iff : readDate? cs = none ↔ ∀ date, ¬IsPlainDate date cs := by
  rw [Option.eq_none_iff_forall_ne_some]
  exact forall_congr' fun date => not_congr readDate?_eq_some_iff

theorem display_of_timestamp (written : IsTimestamp moment raw.toList) :
    display raw = moment.text := by
  rw [display, readTimestamp?_eq_some_iff.mpr written]

theorem display_of_date (noTimestamp : ∀ moment, ¬IsTimestamp moment raw.toList)
    (written : IsPlainDate date raw.toList) : display raw = date.text := by
  rw [display, readTimestamp?_eq_none_iff.mpr noTimestamp]
  dsimp only
  rw [readDate?_eq_some_iff.mpr written]

theorem display_of_other (noTimestamp : ∀ moment, ¬IsTimestamp moment raw.toList)
    (noDate : ∀ date, ¬IsPlainDate date raw.toList) : display raw = raw := by
  rw [display, readTimestamp?_eq_none_iff.mpr noTimestamp]
  dsimp only
  rw [readDate?_eq_none_iff.mpr noDate]

theorem shownAs_display (raw : String) : ShownAs raw (display raw) := by
  by_cases timestamp : ∃ moment, IsTimestamp moment raw.toList
  · obtain ⟨moment, written⟩ := timestamp
    rw [display_of_timestamp written]
    exact .moment written written.shown_text
  · rw [not_exists] at timestamp
    by_cases plain : ∃ date, IsPlainDate date raw.toList
    · obtain ⟨date, written⟩ := plain
      rw [display_of_date timestamp written]
      exact .date timestamp written written.shown_text
    · rw [not_exists] at plain
      rw [display_of_other timestamp plain]
      exact .other timestamp plain

theorem ShownAs.display_eq (shown : ShownAs raw text) : display raw = text := by
  cases shown with
  | moment written shown =>
    rw [display_of_timestamp written]
    exact String.toList_inj.mp (written.shown_text.unique shown)
  | date noTimestamp written shown =>
    rw [display_of_date noTimestamp written]
    exact String.toList_inj.mp (written.shown_text.unique shown)
  | other noTimestamp noDate => exact display_of_other noTimestamp noDate

/-! ## What is shown is no time -/

/-- Four digits stand at the beginning of a day. -/
theorem IsDay.isDigit_of_mem_take {year month day : Nat} (isDay : IsDay year month day cs)
    {c : Char} (member : c ∈ (cs ++ ds).take 4) : c.isDigit = true := by
  obtain ⟨years, _, _⟩ := isDay
  rw [List.append_assoc, List.take_left' years.length] at member
  exact years.digits c member

/-- A blank after one or two digits. -/
inductive BeginsShort : List Char → Prop where
  | mk {day rest} (some : day ≠ []) (few : day.length ≤ 2) (digits : ∀ c ∈ day, c.isDigit = true) :
      BeginsShort (day ++ ' ' :: rest)

namespace BeginsShort

theorem blank_mem_take (short : BeginsShort cs) : ' ' ∈ cs.take 4 := by
  obtain @⟨day, rest, _, few, _⟩ := short
  obtain ⟨more, room⟩ : ∃ more, 4 - day.length = more + 1 := ⟨3 - day.length, by omega⟩
  rw [List.take_append, room, List.take_succ_cons]
  exact List.mem_append_right _ List.mem_cons_self

theorem not_isDay {year month day : Nat} (short : BeginsShort (cs ++ ds)) :
    ¬IsDay year month day cs := by
  intro isDay
  exact absurd (isDay.isDigit_of_mem_take short.blank_mem_take) (by decide)

theorem not_isTimestamp (short : BeginsShort cs) (moment : Moment) : ¬IsTimestamp moment cs := by
  rintro ⟨day, _, _, _, _, _, _, _, _, _, _⟩
  exact short.not_isDay day

/-- A sign would be no digit. -/
theorem not_isPlainDate (short : BeginsShort cs) (date : Date) : ¬IsPlainDate date cs := by
  have unsigned : ∀ sign rest, sign.isDigit = false → cs ≠ sign :: rest := by
    rintro sign rest noDigit same
    obtain @⟨day, _, some, _, digits⟩ := short
    obtain ⟨c, tail, rfl⟩ := List.exists_cons_of_ne_nil some
    rw [List.cons_append] at same
    obtain ⟨rfl, _⟩ := List.cons.inj same
    exact absurd ((digits c List.mem_cons_self).symm.trans noDigit) (by decide)
  intro written
  cases written with
  | unsigned day _ =>
    rw [← List.append_nil cs] at short
    exact short.not_isDay day
  | plus => exact unsigned _ _ (by decide) rfl
  | minus => exact unsigned _ _ (by decide) rfl

theorem display_eq (short : BeginsShort raw.toList) : display raw = raw :=
  display_of_other short.not_isTimestamp short.not_isPlainDate

end BeginsShort

theorem ShownDate.beginsShort (shown : ShownDate date cs) : BeginsShort (cs ++ ds) := by
  obtain ⟨_⟩ := shown
  have fewDays : date.day < 10 ^ 2 := by
    have bound := date.day_bounds.2
    have most := daysIn_le date.year date.month
    omega
  rw [List.append_assoc, List.cons_append]
  exact .mk Nat.toDigits_ne_nil ((Nat.length_toDigits_le_iff (by decide) (by decide)).mpr fewDays)
    fun _ => Numeral.isDigit_of_mem_toDigits

theorem ShownMoment.beginsShort (shown : ShownMoment moment cs) : BeginsShort cs := by
  obtain ⟨date, _, _⟩ := shown
  exact date.beginsShort

/-- A text is shown as `ShownAs` says, and as nothing else. What is shown is shown as itself. -/
theorem display_recognises_times (raw : String) :
    (∀ text, display raw = text ↔ ShownAs raw text) ∧ display (display raw) = display raw := by
  constructor
  · intro text
    constructor
    · rintro rfl
      exact shownAs_display raw
    · exact ShownAs.display_eq
  · have shown := shownAs_display raw
    generalize display raw = text at shown
    cases shown with
    | moment _ shown => exact shown.beginsShort.display_eq
    | date _ _ shown =>
      have short : BeginsShort (text.toList ++ []) := shown.beginsShort
      rw [List.append_nil] at short
      exact short.display_eq
    | other noTimestamp noDate => exact display_of_other noTimestamp noDate

/-- The last second of a leap year, an hour later by its own clock. -/
example : display "2017-01-01T00:59:60.5+01:00" = "1 January 2017 00:59" := by decide +kernel

/-- There is no such second an hour later by universal time. -/
example : display "2017-01-01T00:59:60Z" = "2017-01-01T00:59:60Z" := by decide +kernel

end Coursework.Calendar
