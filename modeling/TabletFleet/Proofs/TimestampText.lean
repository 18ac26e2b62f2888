import Mathlib.Data.List.TakeWhile
import TabletFleet.Proofs.Calendar
import TabletFleet.Proofs.Text.Numeral

set_option autoImplicit false

/-! # Texts of points in time are read back

The text of a point in time whose day lies in the calendar is read as this point without its fraction of a
second (`Timestamp.parse?_text`). That covers every point that was ever read from a text
(`Timestamp.inCalendar_of_parse?`), since what lies outside of the calendar is refused. Reading is loose in
places where writing is strict: blanks may stand in front of every part, and numbers may be short. What is
written has no blanks, and every number in it but the year fills its width. The year ends before the first
character that is no digit. -/

namespace TabletFleet.Timestamp

open Numeral (padded)

/-- The day lies in the calendar. -/
def InCalendar (t : Timestamp) : Prop := firstDay ≤ t.day ∧ t.day ≤ lastDay

/-! ## What is read lies in the calendar -/

theorem day_of_at? {day : Int} {second nano : Nat} {t : Timestamp} (h : at? day second nano = some t) :
    t.day = day := by
  unfold at? at h
  split at h
  · rw [← Option.some.inj h]
  · cases h

theorem inCalendar_of_ofParts? {year : Int} {month day hour minute second nano : Nat} {offset : Int}
    {t : Timestamp} (h : ofParts? year month day hour minute second nano offset = some t) :
    t.InCalendar := by
  have hguarded : ∃ day second nano,
      (if firstDay ≤ day && day ≤ lastDay then at? day second nano else none) = some t := by
    unfold ofParts? at h
    dsimp only at h
    split at h
    · exact ⟨_, _, _, h⟩
    · cases h
  obtain ⟨day, second, nano, hguarded⟩ := hguarded
  split at hguarded
  · next hday =>
      rw [InCalendar, day_of_at? hguarded]
      simpa using hday
  · cases hguarded

/-- The time of day and the offset that follow a date, and the point that they make of it. -/
def clock? (year : Int) (month day : Nat) (rest : List Char) : Option Timestamp := do
  let (hour, rest) ← numeral? 2 rest
  let (minute, rest) ← numeral? 2 (← mark? ':' rest)
  let (second, rest) ← numeral? 2 (← mark? ':' rest)
  let (nano, rest) ← fraction? rest
  let (offset, rest) ← offset? (rest.dropWhile Text.isBlank)
  if (rest.dropWhile Text.isBlank).isEmpty then
    ofParts? year month day hour minute second nano offset
  else none

theorem inCalendar_of_clock? {year : Int} {month day : Nat} {rest : List Char} {t : Timestamp}
    (h : clock? year month day rest = some t) : t.InCalendar := by
  unfold clock? at h
  obtain ⟨⟨hour, rest⟩, -, h⟩ := Option.bind_eq_some_iff.1 h
  obtain ⟨rest, -, h⟩ := Option.bind_eq_some_iff.1 h
  obtain ⟨⟨minute, rest⟩, -, h⟩ := Option.bind_eq_some_iff.1 h
  obtain ⟨rest, -, h⟩ := Option.bind_eq_some_iff.1 h
  obtain ⟨⟨second, rest⟩, -, h⟩ := Option.bind_eq_some_iff.1 h
  obtain ⟨⟨nano, rest⟩, -, h⟩ := Option.bind_eq_some_iff.1 h
  obtain ⟨⟨offset, rest⟩, -, h⟩ := Option.bind_eq_some_iff.1 h
  dsimp only at h
  split at h
  · exact inCalendar_of_ofParts? h
  · cases h

theorem inCalendar_of_parse? {s : String} {t : Timestamp} (h : parse? s = some t) : t.InCalendar := by
  unfold parse? at h
  obtain ⟨⟨year, rest⟩, -, h⟩ := Option.bind_eq_some_iff.1 h
  obtain ⟨rest, -, h⟩ := Option.bind_eq_some_iff.1 h
  obtain ⟨⟨month, rest⟩, -, h⟩ := Option.bind_eq_some_iff.1 h
  obtain ⟨rest, -, h⟩ := Option.bind_eq_some_iff.1 h
  obtain ⟨⟨day, rest⟩, -, h⟩ := Option.bind_eq_some_iff.1 h
  dsimp only at h
  split at h
  · exact inCalendar_of_clock? h
  · exact inCalendar_of_clock? h
  · exact inCalendar_of_clock? h
  · cases h

/-! ## What is written is read -/

theorem exists_digit_padded (width n : Nat) :
    ∃ c cs, (padded width n).toList = c :: cs ∧ c.isDigit = true := by
  obtain ⟨hne, hdigits, -⟩ := Numeral.natural?_eq_some_iff.1 (Numeral.natural?_padded width n)
  obtain ⟨c, cs, hcs⟩ := List.exists_cons_of_ne_nil hne
  exact ⟨c, cs, hcs, hdigits c (hcs ▸ List.mem_cons_self)⟩

/-- No blanks stand in front of a number. -/
theorem dropWhile_padded (width n : Nat) (rest : List Char) :
    ((padded width n).toList ++ rest).dropWhile Text.isBlank = (padded width n).toList ++ rest := by
  obtain ⟨c, cs, hcs, hdigit⟩ := exists_digit_padded width n
  rw [hcs]
  exact List.dropWhile_cons_of_neg (by rw [Text.isBlank_eq_false_of_isDigit hdigit]; decide)

/-- A number that fills its width is read, whatever follows. -/
theorem numeral?_padded {width n : Nat} (hwidth : 0 < width) (hn : n < 10 ^ width)
    (rest : List Char) : numeral? width ((padded width n).toList ++ rest) = some (n, rest) := by
  have hblank := dropWhile_padded width n rest
  obtain ⟨hne, hdigits, hvalue⟩ := Numeral.natural?_eq_some_iff.1 (Numeral.natural?_padded width n)
  have hlength : (padded width n).toList.length = width := by
    rw [String.length_toList, Numeral.length_padded hwidth hn]
  generalize (padded width n).toList = digits at *
  have htake : ((digits ++ rest).take width).takeWhile Char.isDigit = digits := by
    rw [← hlength, List.take_left, List.takeWhile_eq_self_iff.2 hdigits]
  unfold numeral?
  simp only [hblank, htake, hvalue, List.drop_left]
  rw [if_neg (by simpa using hne)]

theorem mark?_cons {c : Char} (hc : Text.isBlank c = false) (rest : List Char) :
    mark? c (c :: rest) = some rest := by
  rw [mark?, List.dropWhile_cons_of_neg (by rw [hc]; decide)]
  exact if_pos rfl

/-- A year of four digits has no sign. -/
theorem year?_padded {year : Nat} (hyear : year < 10 ^ 4) (rest : List Char) :
    year? ((padded 4 year).toList ++ rest) = some ((year : Int), rest) := by
  have hnumber := numeral?_padded (by decide) hyear rest
  obtain ⟨c, cs, hcs, hdigit⟩ := exists_digit_padded 4 year
  rw [year?, dropWhile_padded]
  rw [hcs, List.cons_append] at hnumber ⊢
  split
  · next heq =>
      rw [(List.cons.inj heq).1] at hdigit
      exact absurd hdigit (by decide)
  · next heq =>
      rw [(List.cons.inj heq).1] at hdigit
      exact absurd hdigit (by decide)
  · rw [hnumber, Option.map_some]

/-- The digits of a year with a sign go up to the mark behind them. -/
theorem year?_signed (n : Nat) (rest : List Char) :
    year? ('-' :: ((padded 4 n).toList ++ '-' :: rest)) = some (-(n : Int), '-' :: rest) ∧
      year? ('+' :: ((padded 4 n).toList ++ '-' :: rest)) = some ((n : Int), '-' :: rest) := by
  obtain ⟨hne, hdigits, hvalue⟩ := Numeral.natural?_eq_some_iff.1 (Numeral.natural?_padded 4 n)
  generalize (padded 4 n).toList = digits at *
  have htake : (digits ++ '-' :: rest).takeWhile Char.isDigit = digits := by
    rw [List.takeWhile_append_of_pos hdigits, List.takeWhile_cons_of_neg (by decide),
      List.append_nil]
  have hempty : ¬ digits.isEmpty = true := by simpa using hne
  constructor
  · rw [year?, List.dropWhile_cons_of_neg (by decide)]
    simp only [htake, if_neg hempty, hvalue, List.drop_left, Option.map_some]
  · rw [year?, List.dropWhile_cons_of_neg (by decide)]
    simp only [htake, if_neg hempty, hvalue, List.drop_left, Option.map_some]

theorem year?_yearText (year : Int) (rest : List Char) :
    year? ((yearText year).toList ++ '-' :: rest) = some (year, '-' :: rest) := by
  unfold yearText
  split
  · next hplain =>
      obtain ⟨h0, h9999⟩ : 0 ≤ year ∧ year ≤ 9999 := by simpa using hplain
      rw [year?_padded (by omega), Int.toNat_of_nonneg h0]
  · obtain ⟨hminus, hplus⟩ := year?_signed year.natAbs rest
    rw [String.toList_append]
    generalize (padded 4 year.natAbs).toList = digits at *
    split
    · next hneg =>
        have habs : -(year.natAbs : Int) = year := by omega
        rw [habs] at hminus
        exact hminus
    · next hpos =>
        have habs : (year.natAbs : Int) = year := by omega
        rw [habs] at hplus
        exact hplus

/-! ## The text as a whole -/

/-- A date is read up to the time of day. -/
theorem parse?_date {s : String} {year : Int} {month day : Nat} {rest : List Char}
    (hmonth : month < 10 ^ 2) (hday : day < 10 ^ 2)
    (hs : s.toList = (yearText year).toList ++ '-' ::
      ((padded 2 month).toList ++ '-' :: ((padded 2 day).toList ++ 'T' :: rest))) :
    parse? s = clock? year month day rest := by
  rw [parse?, hs, year?_yearText]
  refine (Option.bind_some _ _).trans ?_
  dsimp only
  rw [mark?_cons (by decide)]
  refine (Option.bind_some _ _).trans ?_
  rw [numeral?_padded (by decide) hmonth]
  refine (Option.bind_some _ _).trans ?_
  dsimp only
  rw [mark?_cons (by decide)]
  refine (Option.bind_some _ _).trans ?_
  rw [numeral?_padded (by decide) hday]
  rfl

theorem clock?_eq {year : Int} {month day hour minute second : Nat} (hhour : hour < 10 ^ 2)
    (hminute : minute < 10 ^ 2) (hsecond : second < 10 ^ 2) :
    clock? year month day ((padded 2 hour).toList ++ ':' ::
      ((padded 2 minute).toList ++ ':' :: ((padded 2 second).toList ++ ['Z'])))
      = ofParts? year month day hour minute second 0 0 := by
  rw [clock?, numeral?_padded (by decide) hhour]
  simp only [Option.bind_eq_bind, Option.bind_some]
  rw [mark?_cons (by decide), Option.bind_some, numeral?_padded (by decide) hminute, Option.bind_some]
  dsimp only
  rw [mark?_cons (by decide), Option.bind_some, numeral?_padded (by decide) hsecond, Option.bind_some]
  rfl

/-- A date and a time of day in UTC are a second of the day; the second 60 is one that goes on. -/
theorem ofParts?_utc {year : Int} {month day hour minute second nano s n : Nat}
    (hyear : -262143 ≤ year ∧ year ≤ 262142) (hdate : IsDate year month day)
    (hday : firstDay ≤ dayOfDate year month day ∧ dayOfDate year month day ≤ lastDay)
    (hhour : hour < 24) (hminute : minute < 60) (hsecond : second ≤ 60)
    (hleap : (if second = 60 then (59, nano + nanosPerSecond) else (second, nano)) = (s, n)) :
    ofParts? year month day hour minute second nano 0
      = at? (dayOfDate year month day) (hour * 3600 + minute * 60 + s) n := by
  have hs : s < 60 := by
    split at hleap
    · rw [← (Prod.mk.inj hleap).1]
      decide
    · rw [← (Prod.mk.inj hleap).1]
      omega
  have hvalid : (-262143 ≤ year && year ≤ 262142 && 1 ≤ month && month ≤ 12 && 1 ≤ day
      && day ≤ daysInMonth year month && hour < 24 && minute < 60 && second ≤ 60) = true := by
    obtain ⟨h1, h2, h3, h4⟩ := hdate
    simp [*]
  unfold ofParts?
  dsimp only
  rw [if_pos hvalid, hleap]
  generalize dayOfDate year month day = d at *
  have hdiv : (d * 86400 + ((hour * 3600 + minute * 60 + s : Nat) : Int) - 0) / 86400 = d := by omega
  have hmod : ((d * 86400 + ((hour * 3600 + minute * 60 + s : Nat) : Int) - 0) % 86400).toNat
      = hour * 3600 + minute * 60 + s := by omega
  dsimp only
  rw [hdiv, hmod, if_pos (by simpa using hday)]

theorem ofParts?_wholeSeconds {t : Timestamp} (h : t.InCalendar) {year : Int} {month day : Nat}
    (hyear : -262143 ≤ year ∧ year ≤ 262142) (hdate : IsDate year month day)
    (hday : dayOfDate year month day = t.day) :
    ofParts? year month day (t.second / 3600) (t.second / 60 % 60)
      (t.second % 60 + if t.nano ≥ nanosPerSecond then 1 else 0) 0 0 = some t.wholeSeconds := by
  have hsecond := t.second_lt
  have hpoint : at? t.day t.second (wholeNano t.nano) = some t.wholeSeconds :=
    dif_pos ⟨hsecond, t.wholeSeconds.nano_lt, t.wholeSeconds.minute_end⟩
  have hleap : (if t.second % 60 + (if t.nano ≥ nanosPerSecond then 1 else 0) = 60 then
      (59, 0 + nanosPerSecond) else (t.second % 60 + (if t.nano ≥ nanosPerSecond then 1 else 0), 0))
      = (t.second % 60, wholeNano t.nano) := by
    unfold wholeNano
    by_cases hnano : t.nano ≥ nanosPerSecond
    · simp [if_pos hnano, t.minute_end hnano]
    · rw [if_neg hnano, if_neg hnano, if_neg (by omega), Nat.add_zero]
  rw [ofParts?_utc hyear hdate (hday ▸ h) (by omega) (by omega) (by split <;> omega) hleap, hday,
    ← hpoint]
  congr 1
  omega

theorem parse?_text {t : Timestamp} (h : t.InCalendar) : parse? t.text = some t.wholeSeconds := by
  have hdate := isDate_dateOfDay t.day
  have hmonth := hdate.month_le
  have hday := Nat.le_trans hdate.day_le (daysInMonth_le _ _)
  have hsecond := t.second_lt
  rw [← ofParts?_wholeSeconds h (year_range h.1 h.2) hdate (dayOfDate_dateOfDay t.day),
    ← clock?_eq (by omega) (by omega) (by split <;> omega)]
  refine parse?_date (by omega) (by omega) ?_
  simp [text]

theorem text_wholeSeconds (t : Timestamp) : t.wholeSeconds.text = t.text := by
  have hleap : wholeNano t.nano ≥ nanosPerSecond ↔ t.nano ≥ nanosPerSecond := by
    unfold wholeNano
    split
    · next h => exact ⟨fun _ => h, fun _ => Nat.le_refl _⟩
    · next h => exact ⟨fun hzero => absurd hzero (by decide), fun hnano => absurd hnano h⟩
  unfold text
  simp only [wholeSeconds, hleap]

end TabletFleet.Timestamp
