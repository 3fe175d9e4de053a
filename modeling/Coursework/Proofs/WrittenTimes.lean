import Mathlib.Data.List.TakeWhile
import Mathlib.Data.Option.Basic
import Mathlib.Tactic.SplitIfs
import Coursework.Calendar.Timestamp

/-!
# The written forms of times

`IsTimestamp` and `IsPlainDate` say which texts name a moment or a day, by the parts that stand in
them one after the other. The readers go from left to right and cut off one part at a time. Each of
them is met by a lemma that says what it cuts off, and from these `readTimestamp?_eq_some_iff` and
`readDate?_eq_some_iff` follow: the readers accept the written forms and nothing else.

Whether there is a sixtieth second is a matter of universal time, which may be on another day than
the local time. `endsMonth_iff` says that the reader finds the end of a month there.
-/

namespace Coursework.Calendar

/-! ## Written forms -/

/-- So many digits, and the number that they write. -/
structure Digits (width n : Nat) (cs : List Char) : Prop where
  length : cs.length = width
  digits : ∀ c ∈ cs, c.isDigit = true
  value : Nat.ofDigitChars 10 cs 0 = n

/-- The numbers of a year, a month and a day: `YYYY-MM-DD`. -/
inductive IsDay : (year month day : Nat) → List Char → Prop where
  | mk {year month day ys ms ds} (years : Digits 4 year ys) (months : Digits 2 month ms)
      (days : Digits 2 day ds) : IsDay year month day (ys ++ '-' :: (ms ++ '-' :: ds))

/-- A plain date: a day of the calendar whose year may have a sign. -/
inductive IsPlainDate (date : Date) : List Char → Prop where
  | unsigned {year cs} (day : IsDay year date.month date.day cs) (same : date.year = year) :
      IsPlainDate date cs
  | plus {year cs} (day : IsDay year date.month date.day cs) (same : date.year = year) :
      IsPlainDate date ('+' :: cs)
  | minus {year cs} (day : IsDay year date.month date.day cs) (same : date.year = -year) :
      IsPlainDate date ('-' :: cs)

/-- A fraction of a second: nothing, or a point and digits. -/
inductive IsFraction : List Char → Prop where
  | absent : IsFraction []
  | digits {cs} (some : cs ≠ []) (digits : ∀ c ∈ cs, c.isDigit = true) : IsFraction ('.' :: cs)

/-- An offset from universal time, in minutes: none, or one of less than a day. -/
inductive IsOffset : Int → List Char → Prop where
  | upper : IsOffset 0 ['Z']
  | lower : IsOffset 0 ['z']
  | ahead {hours minutes hs ms} (hour : Digits 2 hours hs) (within : hours ≤ 23)
      (minute : Digits 2 minutes ms) (withinHour : minutes ≤ 59) :
      IsOffset (hours * 60 + minutes) ('+' :: (hs ++ ':' :: ms))
  | behind {hours minutes hs ms} (hour : Digits 2 hours hs) (within : hours ≤ 23)
      (minute : Digits 2 minutes ms) (withinHour : minutes ≤ 59) :
      IsOffset (-(hours * 60 + minutes)) ('-' :: (hs ++ ':' :: ms))

namespace Date

/-- One day is the day after another one. -/
inductive Follows : (next date : Date) → Prop where
  | nextDay {next date} (year : next.year = date.year) (month : next.month = date.month)
      (day : next.day = date.day + 1) : Follows next date
  | nextMonth {next date} (last : date.day = daysIn date.year date.month)
      (year : next.year = date.year) (month : next.month = date.month + 1) (first : next.day = 1) :
      Follows next date
  | nextYear {next date} (december : date.month = 12) (last : date.day = 31)
      (year : next.year = date.year + 1) (january : next.month = 1) (first : next.day = 1) :
      Follows next date

end Date

namespace Moment

/-- The minute of the day by the clock of the moment. -/
def minuteOfDay (moment : Moment) : Int := moment.hour * 60 + moment.minute

/-- The day by universal time, and its minute of the day. The day is that of the moment or one
beside it. -/
inductive ByUniversalTime (moment : Moment) (offset : Int) : Date → Int → Prop where
  | sameDay {minute} (within : 0 ≤ minute ∧ minute < 24 * 60)
      (shifted : moment.minuteOfDay - offset = minute) :
      ByUniversalTime moment offset moment.date minute
  | dayBefore {date minute} (before : moment.date.Follows date)
      (within : 0 ≤ minute ∧ minute < 24 * 60)
      (shifted : moment.minuteOfDay - offset = minute - 24 * 60) :
      ByUniversalTime moment offset date minute
  | dayAfter {date minute} (after : date.Follows moment.date)
      (within : 0 ≤ minute ∧ minute < 24 * 60)
      (shifted : moment.minuteOfDay - offset = minute + 24 * 60) :
      ByUniversalTime moment offset date minute

/-- By universal time it is 23:59 on the last day of a month. -/
def IsLastOfMonth (moment : Moment) (offset : Int) : Prop :=
  ∃ date, moment.ByUniversalTime offset date (23 * 60 + 59) ∧
    date.day = daysIn date.year date.month

end Moment

/-- A timestamp: a day, any character of one byte, a time of day, and its offset. There is a
sixtieth second at the end of months only. -/
inductive IsTimestamp (moment : Moment) : List Char → Prop where
  | mk {year second offset ds separator hs ms ss fs zs}
      (day : IsDay year moment.date.month moment.date.day ds) (same : moment.date.year = year)
      (oneByte : separator.utf8Size = 1)
      (hours : Digits 2 moment.hour hs) (withinDay : moment.hour ≤ 23)
      (minutes : Digits 2 moment.minute ms) (withinHour : moment.minute ≤ 59)
      (seconds : Digits 2 second ss)
      (withinMinute : second ≤ 59 ∨ second = 60 ∧ moment.IsLastOfMonth offset)
      (fraction : IsFraction fs) (zone : IsOffset offset zs) :
      IsTimestamp moment
        (ds ++ separator :: (hs ++ ':' :: (ms ++ ':' :: (ss ++ (fs ++ zs)))))

/-! ## The end of a month by universal time -/

theorem one_le_daysIn {year : Int} {month : Nat} (within : 1 ≤ month ∧ month ≤ 12) :
    1 ≤ daysIn year month := by
  unfold daysIn
  split_ifs <;> omega

theorem daysIn_le (year : Int) (month : Nat) : daysIn year month ≤ 31 := by
  unfold daysIn
  split_ifs <;> omega

namespace Date

/-- Before the first of a month comes the last of a month. -/
theorem exists_follows {date : Date} (first : date.day = 1) :
    ∃ before : Date, date.Follows before ∧
      before.day = daysIn before.year before.month := by
  obtain ⟨year, month, day, monthBounds, dayBounds⟩ := date
  obtain rfl : day = 1 := first
  by_cases january : month = 1
  · refine ⟨⟨year - 1, 12, 31, by omega, by simp [daysIn]⟩, ?_, by simp [daysIn]⟩
    exact .nextYear rfl rfl (by simp) january rfl
  · have within : 1 ≤ month - 1 ∧ month - 1 ≤ 12 := by omega
    refine ⟨⟨year, month - 1, daysIn year (month - 1), within, one_le_daysIn within, Nat.le_refl _⟩,
      ?_, rfl⟩
    exact .nextMonth rfl rfl (by simp; omega) rfl

/-- After the last of a month comes the first of a month. -/
theorem Follows.first_of_last {next date : Date} (follows : next.Follows date)
    (last : date.day = daysIn date.year date.month) : next.day = 1 := by
  cases follows with
  | nextDay year month day =>
    have within := next.day_bounds.2
    rw [year, month] at within
    omega
  | nextMonth _ _ _ first => exact first
  | nextYear _ _ _ _ first => exact first

end Date

theorem endsMonth_iff {moment : Moment} {offset : Int} (withinDay : moment.hour ≤ 23)
    (withinHour : moment.minute ≤ 59) (lessThanDay : -(24 * 60) < offset ∧ offset < 24 * 60) :
    moment.endsMonth offset = true ↔ moment.IsLastOfMonth offset := by
  have minutes : moment.minuteOfDay = moment.hour * 60 + moment.minute := rfl
  have local_iff : moment.endsMonth offset = true ↔
      (moment.minuteOfDay - offset = 24 * 60 - 1 ∧
        moment.date.day = daysIn moment.date.year moment.date.month) ∨
      (moment.minuteOfDay - offset = -1 ∧ moment.date.day = 1) := by
    simp [Moment.endsMonth, Moment.minuteOfDay, Date.isMonthEnd]
  rw [local_iff]
  constructor
  · rintro (⟨shifted, last⟩ | ⟨shifted, first⟩)
    · exact ⟨moment.date, .sameDay (by omega) (by omega), last⟩
    · obtain ⟨before, follows, last⟩ := Date.exists_follows first
      exact ⟨before, .dayBefore follows (by omega) (by omega), last⟩
  · rintro ⟨date, universal, last⟩
    cases universal with
    | sameDay _ shifted => exact .inl ⟨by omega, last⟩
    | dayBefore before _ shifted => exact .inr ⟨by omega, before.first_of_last last⟩
    | dayAfter _ _ shifted => omega

/-! ## What the readers cut off -/

variable {cs rest : List Char} {n : Nat}

theorem readDigits?_eq_some_iff {width : Nat} (positive : 0 < width) :
    readDigits? width cs = some (n, rest) ↔ ∃ ds, Digits width n ds ∧ cs = ds ++ rest := by
  unfold readDigits?
  constructor
  · intro read
    split at read
    · rename_i length
      obtain ⟨value, digits, same⟩ := Option.map_eq_some_iff.mp read
      obtain ⟨rfl, rfl⟩ := Prod.mk.inj same
      obtain ⟨_, allDigits, isValue⟩ := Numeral.ofDigits?_eq_some_iff.mp digits
      exact ⟨cs.take width, ⟨length, allDigits, isValue⟩, (List.take_append_drop width cs).symm⟩
    · cases read
  · rintro ⟨ds, ⟨length, digits, value⟩, rfl⟩
    have nonempty : ds ≠ [] := List.ne_nil_of_length_pos (length ▸ positive)
    rw [List.take_left' length, List.drop_left' length, if_pos length,
      Numeral.ofDigits?_eq_some_iff.mpr ⟨nonempty, digits, value⟩, Option.map_some]

theorem twoDigits?_eq_some_iff {greatest : Nat} :
    twoDigits? greatest cs = some (n, rest) ↔
      (∃ ds, Digits 2 n ds ∧ cs = ds ++ rest) ∧ n ≤ greatest := by
  rw [twoDigits?, Option.filter_eq_some_iff, readDigits?_eq_some_iff (by decide),
    decide_eq_true_iff]

theorem expect?_eq_some_iff {c : Char} : expect? c cs = some rest ↔ cs = c :: rest := by
  cases cs with
  | nil => simp [expect?]
  | cons d tail => simp [expect?]

theorem separator?_eq_some_iff :
    separator? cs = some rest ↔ ∃ c : Char, c.utf8Size = 1 ∧ cs = c :: rest := by
  cases cs with
  | nil => simp [separator?]
  | cons d tail =>
    have byte : d.toNat < 128 ↔ d.utf8Size = 1 := by
      rw [Char.utf8Size_eq_one_iff, UInt32.le_iff_toNat_le]
      exact Nat.lt_succ_iff
    rw [separator?, Option.ite_none_right_eq_some, byte, Option.some_inj]
    constructor
    · rintro ⟨size, rfl⟩
      exact ⟨d, size, rfl⟩
    · rintro ⟨c, size, same⟩
      obtain ⟨rfl, rfl⟩ := List.cons.inj same
      exact ⟨size, rfl⟩

/-- The numbers of a day are read in this way, both in timestamps and in plain dates. -/
theorem exists_isDay_iff {year month day : Nat} :
    (∃ ds, IsDay year month day ds ∧ cs = ds ++ rest) ↔
      ∃ afterYear, readDigits? 4 cs = some (year, afterYear) ∧
        ∃ months, expect? '-' afterYear = some months ∧
        ∃ afterMonth, readDigits? 2 months = some (month, afterMonth) ∧
        ∃ days, expect? '-' afterMonth = some days ∧
          readDigits? 2 days = some (day, rest) := by
  simp only [readDigits?_eq_some_iff (show 0 < 4 by decide),
    readDigits?_eq_some_iff (show 0 < 2 by decide), expect?_eq_some_iff]
  constructor
  · rintro ⟨_, ⟨years, months, days⟩, rfl⟩
    exact ⟨_, ⟨_, years, by simp⟩, _, rfl, _, ⟨_, months, rfl⟩, _, rfl, _, days, rfl⟩
  · rintro ⟨_, ⟨ys, years, rfl⟩, _, rfl, _, ⟨ms, months, rfl⟩, _, rfl, ds, days, rfl⟩
    exact ⟨_, ⟨years, months, days⟩, by simp⟩

theorem date?_eq_some_iff {date : Date} :
    date? cs = some (date, rest) ↔
      ∃ year ds, IsDay year date.month date.day ds ∧ date.year = year ∧ cs = ds ++ rest := by
  unfold date?
  simp only [bind, Option.bind_eq_some_iff, Prod.exists, pure, Option.some.injEq, Prod.mk.injEq]
  constructor
  · rintro ⟨year, _, years, _, hyphen, month, _, months, _, hyphen', day, _, days, made, isDate,
      rfl, rfl⟩
    obtain ⟨sameYear, sameMonth, sameDay⟩ := Date.make?_eq_some_iff.mp isDate
    obtain ⟨ds, isDay, same⟩ :=
      exists_isDay_iff.mpr ⟨_, years, _, hyphen, _, months, _, hyphen', days⟩
    exact ⟨year, ds, sameMonth ▸ sameDay ▸ isDay, sameYear, same⟩
  · rintro ⟨year, ds, isDay, sameYear, same⟩
    obtain ⟨_, years, _, hyphen, _, months, _, hyphen', days⟩ :=
      exists_isDay_iff.mp ⟨ds, isDay, same⟩
    exact ⟨year, _, years, _, hyphen, _, _, months, _, hyphen', _, _, days, date,
      Date.make?_eq_some_iff.mpr ⟨sameYear, rfl, rfl⟩, rfl, rfl⟩

theorem IsDay.exists_cons {year month day : Nat} (isDay : IsDay year month day cs) :
    ∃ c rest, cs = c :: rest ∧ c.isDigit = true := by
  obtain ⟨years, _, _⟩ := isDay
  obtain ⟨c, rest, rfl⟩ := List.exists_cons_of_length_eq_add_one years.length
  exact ⟨c, _, rfl, years.digits c List.mem_cons_self⟩

/-- A sign is none of the digits of a year. -/
theorem isPlainDate_cons_iff {date : Date} {sign : Char} (noDigit : sign.isDigit = false) :
    IsPlainDate date (sign :: cs) ↔
      (sign = '+' ∧ ∃ year : Nat, IsDay year date.month date.day cs ∧ date.year = year) ∨
      (sign = '-' ∧ ∃ year : Nat, IsDay year date.month date.day cs ∧ date.year = -year) := by
  constructor
  · intro written
    cases written with
    | unsigned day _ =>
      obtain ⟨c, _, same, digit⟩ := day.exists_cons
      obtain ⟨rfl, _⟩ := List.cons.inj same
      exact absurd (noDigit.symm.trans digit) Bool.false_ne_true
    | @plus year _ day same => exact .inl ⟨rfl, year, day, same⟩
    | @minus year _ day same => exact .inr ⟨rfl, year, day, same⟩
  · rintro (⟨rfl, year, day, same⟩ | ⟨rfl, year, day, same⟩)
    · exact .plus day same
    · exact .minus day same

theorem readDate?_eq_some_iff {date : Date} :
    readDate? cs = some date ↔ IsPlainDate date cs := by
  unfold readDate?
  split
  rename_i negative digits signed
  -- The text after the sign is read first.
  refine Iff.trans (b := ∃ year : Nat, IsDay year date.month date.day digits ∧
    date.year = if negative then -(year : Int) else year) ?_ ?_
  · simp only [bind, Option.bind_eq_some_iff, Prod.exists, Option.guard_eq_some',
      Date.make?_eq_some_iff]
    constructor
    · rintro ⟨year, _, years, _, hyphen, month, _, months, _, hyphen', day, _, days, _, rfl,
        sameYear, rfl, rfl⟩
      obtain ⟨ds, isDay, same⟩ :=
        exists_isDay_iff.mpr ⟨_, years, _, hyphen, _, months, _, hyphen', days⟩
      rw [List.append_nil] at same
      exact ⟨year, same ▸ isDay, sameYear⟩
    · rintro ⟨year, isDay, sameYear⟩
      obtain ⟨_, years, _, hyphen, _, months, _, hyphen', days⟩ :=
        exists_isDay_iff.mp ⟨digits, isDay, (List.append_nil digits).symm⟩
      exact ⟨year, _, years, _, hyphen, _, _, months, _, hyphen', _, _, days, (), rfl,
        sameYear, rfl, rfl⟩
  · split at signed
    · obtain ⟨rfl, rfl⟩ := Prod.mk.inj signed
      rw [isPlainDate_cons_iff (by decide)]
      simp
    · obtain ⟨rfl, rfl⟩ := Prod.mk.inj signed
      rw [isPlainDate_cons_iff (by decide)]
      simp
    · rename_i noMinus noPlus
      obtain ⟨rfl, rfl⟩ := Prod.mk.inj signed
      constructor
      · rintro ⟨year, isDay, sameYear⟩
        exact .unsigned isDay sameYear
      · intro written
        cases written with
        | @unsigned year _ day same => exact ⟨year, day, same⟩
        | plus => exact absurd rfl (noPlus _)
        | minus => exact absurd rfl (noMinus _)

/-- Hours and minutes of an offset are read in this way. -/
theorem exists_clock_iff {hours minutes : Nat} :
    (∃ hs ms, Digits 2 hours hs ∧ hours ≤ 23 ∧ Digits 2 minutes ms ∧ minutes ≤ 59 ∧
        cs = hs ++ ':' :: (ms ++ rest)) ↔
      ∃ afterHour, twoDigits? 23 cs = some (hours, afterHour) ∧
        ∃ clock, expect? ':' afterHour = some clock ∧
          twoDigits? 59 clock = some (minutes, rest) := by
  simp only [twoDigits?_eq_some_iff, expect?_eq_some_iff]
  constructor
  · rintro ⟨hs, ms, hour, within, minute, withinHour, rfl⟩
    exact ⟨_, ⟨⟨hs, hour, rfl⟩, within⟩, _, rfl, ⟨ms, minute, rfl⟩, withinHour⟩
  · rintro ⟨_, ⟨⟨hs, hour, rfl⟩, within⟩, _, rfl, ⟨ms, minute, rfl⟩, withinHour⟩
    exact ⟨hs, ms, hour, within, minute, withinHour, rfl⟩

theorem offset?_eq_some_iff {offset : Int} : offset? cs = some offset ↔ IsOffset offset cs := by
  unfold offset?
  split
  · constructor
    · rintro ⟨⟩
      exact .upper
    · rintro ⟨⟩
      rfl
  · constructor
    · rintro ⟨⟩
      exact .lower
    · rintro ⟨⟩
      rfl
  · rename_i sign clock notUpper notLower
    simp only [bind, Option.bind_eq_some_iff, Prod.exists, pure, Option.some.injEq,
      Option.guard_eq_some']
    constructor
    · rintro ⟨_, signed, hours, _, hour, _, colon, minutes, _, minute, _, rfl, rfl⟩
      obtain ⟨hs, ms, isHour, within, isMinute, withinHour, rfl⟩ :=
        exists_clock_iff.mpr ⟨_, hour, _, colon, minute⟩
      rw [List.append_nil]
      rcases signed with rfl | rfl
      · exact .ahead isHour within isMinute withinHour
      · exact .behind isHour within isMinute withinHour
    · intro written
      cases written with
      | upper => exact absurd rfl (notUpper rfl)
      | lower => exact absurd rfl (notLower rfl)
      | @ahead hours minutes hs ms hour within minute withinHour =>
        obtain ⟨_, readHour, _, colon, readMinute⟩ := exists_clock_iff.mp
          ⟨hs, ms, hour, within, minute, withinHour, by rw [List.append_nil]⟩
        exact ⟨(), .inl rfl, _, _, readHour, _, colon, _, _, readMinute, (), rfl, rfl⟩
      | @behind hours minutes hs ms hour within minute withinHour =>
        obtain ⟨_, readHour, _, colon, readMinute⟩ := exists_clock_iff.mp
          ⟨hs, ms, hour, within, minute, withinHour, by rw [List.append_nil]⟩
        exact ⟨(), .inr rfl, _, _, readHour, _, colon, _, _, readMinute, (), rfl, rfl⟩
  · constructor
    · rintro ⟨⟩
    · rintro ⟨⟩

/-- An offset begins with a character that no fraction has. -/
theorem IsOffset.exists_cons {offset : Int} (zone : IsOffset offset cs) :
    ∃ c rest, cs = c :: rest ∧ c.isDigit = false ∧ c ≠ '.' := by
  cases zone with
  | upper => exact ⟨_, _, rfl, by decide, by decide⟩
  | lower => exact ⟨_, _, rfl, by decide, by decide⟩
  | ahead => exact ⟨_, _, rfl, by decide, by decide⟩
  | behind => exact ⟨_, _, rfl, by decide, by decide⟩

theorem IsOffset.less_than_day {offset : Int} (zone : IsOffset offset cs) :
    -(24 * 60) < offset ∧ offset < 24 * 60 := by
  cases zone with
  | upper => decide
  | lower => decide
  | ahead => omega
  | behind => omega

theorem isFraction_of_fraction? (read : fraction? cs = some rest) :
    ∃ fs, IsFraction fs ∧ cs = fs ++ rest := by
  unfold fraction? at read
  split at read
  · rename_i d tail
    split at read
    · rename_i digit
      cases read
      refine ⟨'.' :: d :: tail.takeWhile Char.isDigit, .digits (List.cons_ne_nil _ _) ?_, by simp⟩
      intro c member
      rcases List.mem_cons.mp member with rfl | later
      · exact digit
      · exact List.mem_takeWhile_imp later
    · cases read
  · cases read
  · cases read
    exact ⟨[], .absent, rfl⟩

/-- A fraction is taken whole, as no digit follows it. -/
theorem fraction?_append {fs : List Char} {c : Char} (fraction : IsFraction fs)
    (noDigit : c.isDigit = false) (noPoint : c ≠ '.') :
    fraction? (fs ++ c :: rest) = some (c :: rest) := by
  cases fraction with
  | absent =>
    unfold fraction?
    split
    · rename_i same
      exact absurd (List.cons.inj same).1 noPoint
    · rename_i same
      exact absurd (List.cons.inj same).1 noPoint
    · rfl
  | @digits cs some digits =>
    obtain ⟨d, tail, rfl⟩ := List.exists_cons_of_ne_nil some
    have digit : d.isDigit = true := digits d List.mem_cons_self
    have others : ∀ e ∈ tail, e.isDigit = true := fun e later =>
      digits e (List.mem_cons_of_mem d later)
    rw [List.cons_append, List.cons_append, fraction?, if_pos digit,
      List.dropWhile_append_of_pos others, List.dropWhile_cons_of_neg (by simp [noDigit])]

theorem readTimestamp?_eq_some_iff {moment : Moment} :
    readTimestamp? cs = some moment ↔ IsTimestamp moment cs := by
  unfold readTimestamp?
  simp only [bind, Option.bind_eq_some_iff, Prod.exists, pure, Option.some.injEq,
    Option.guard_eq_some']
  constructor
  · rintro ⟨date, _, readDay, _, readSeparator, hour, _, readHour, _, colon, minute, _, readMinute,
      _, colon', second, _, readSecond, _, readFraction, offset, readOffset, _, inMinute, rfl⟩
    obtain ⟨year, ds, day, sameYear, rfl⟩ := date?_eq_some_iff.mp readDay
    obtain ⟨separator, oneByte, rfl⟩ := separator?_eq_some_iff.mp readSeparator
    obtain ⟨hs, ms, hours, withinDay, minutes, withinHour, rfl⟩ :=
      exists_clock_iff.mpr ⟨_, readHour, _, colon, readMinute⟩
    obtain rfl := expect?_eq_some_iff.mp colon'
    obtain ⟨⟨ss, seconds, rfl⟩, atMost⟩ := twoDigits?_eq_some_iff.mp readSecond
    obtain ⟨fs, fraction, rfl⟩ := isFraction_of_fraction? readFraction
    have zone := offset?_eq_some_iff.mp readOffset
    refine .mk day sameYear oneByte hours withinDay minutes withinHour seconds ?_ fraction zone
    rw [endsMonth_iff withinDay withinHour zone.less_than_day] at inMinute
    rcases inMinute with below | last
    · exact .inl (Nat.lt_succ_iff.mp below)
    · by_cases below : second ≤ 59
      · exact .inl below
      · exact .inr ⟨by omega, last⟩
  · intro written
    cases written with
    | @mk year second offset ds separator hs ms ss fs zs day sameYear oneByte hours withinDay
        minutes withinHour seconds withinMinute fraction zone =>
      obtain ⟨c, tail, rfl, noDigit, noPoint⟩ := zone.exists_cons
      have clock : hs ++ ':' :: (ms ++ ':' :: (ss ++ (fs ++ c :: tail))) = _ := rfl
      obtain ⟨_, readHour, _, colon, readMinute⟩ := exists_clock_iff.mp
        ⟨hs, ms, hours, withinDay, minutes, withinHour, clock⟩
      refine ⟨moment.date, _, date?_eq_some_iff.mpr ⟨year, ds, day, sameYear, rfl⟩,
        _, separator?_eq_some_iff.mpr ⟨separator, oneByte, rfl⟩,
        moment.hour, _, readHour, _, colon, moment.minute, _, readMinute,
        _, expect?_eq_some_iff.mpr rfl,
        second, _, twoDigits?_eq_some_iff.mpr ⟨⟨ss, seconds, rfl⟩, by omega⟩,
        c :: tail, fraction?_append fraction noDigit noPoint,
        offset, offset?_eq_some_iff.mpr zone, (), ?_, rfl⟩
      rw [endsMonth_iff withinDay withinHour zone.less_than_day]
      rcases withinMinute with below | ⟨_, last⟩
      · exact .inl (by omega)
      · exact .inr last

end Coursework.Calendar
