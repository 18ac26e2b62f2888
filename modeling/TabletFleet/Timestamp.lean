import TabletFleet.Text.Numeral

set_option autoImplicit false

/-! # Points in time

A point in time is a day, a second of that day and a fraction of that second. A leap second is the
last second of a minute going on for a second more, so its fraction runs from one second to two. Times
are read from and written as RFC 3339 text; reading allows blanks around the parts and numbers without
leading zeros, writing drops the fraction. Spans of time are counted in nanoseconds. -/

namespace TabletFleet

/-- The nanoseconds of a second. -/
def Timestamp.nanosPerSecond : Nat := 1000000000

/-- A point in time, in UTC: days since 1970-01-01, seconds since midnight, nanoseconds. Only the last
second of a minute can be a leap second. -/
structure Timestamp where
  day : Int
  second : Nat
  nano : Nat
  second_lt : second < 86400
  nano_lt : nano < 2 * Timestamp.nanosPerSecond
  minute_end : Timestamp.nanosPerSecond ≤ nano → second % 60 = 59
deriving DecidableEq

namespace Timestamp

/-- The point at the given place of a day, if there is one. -/
def at? (day : Int) (second nano : Nat) : Option Timestamp :=
  if h : second < 86400 ∧ nano < 2 * nanosPerSecond ∧ (nanosPerSecond ≤ nano → second % 60 = 59) then
    some ⟨day, second, nano, h.1, h.2.1, h.2.2⟩
  else none

/-- The first second of 1970. -/
def epoch : Timestamp := ⟨0, 0, 0, by decide, by decide, by decide⟩

instance : Inhabited Timestamp := ⟨epoch⟩

/-- The nanoseconds from `t` to `now`, negative if `t` is later. A leap second counts only when the
earlier of the two times of day lies in one. -/
def since (now t : Timestamp) : Int :=
  let leap : Int :=
    if t.second < now.second then if t.nano ≥ nanosPerSecond then 1 else 0
    else if now.second < t.second then if now.nano ≥ nanosPerSecond then -1 else 0
    else 0
  ((now.day - t.day) * 86400 + ((now.second : Int) - t.second) + leap) * nanosPerSecond
    + ((now.nano : Int) - t.nano)

/-- The nanoseconds at which a second begins that has got as far as `nano`: a leap second goes on from
the whole second before it. -/
def wholeNano (nano : Nat) : Nat := if nanosPerSecond ≤ nano then nanosPerSecond else 0

theorem wholeNano_wholeNano (nano : Nat) : wholeNano (wholeNano nano) = wholeNano nano := by
  unfold wholeNano
  split
  · exact if_pos (Nat.le_refl _)
  · rfl

/-- The same point without its fraction of a second. -/
def wholeSeconds (t : Timestamp) : Timestamp where
  day := t.day
  second := t.second
  nano := wholeNano t.nano
  second_lt := t.second_lt
  nano_lt := by
    unfold wholeNano
    split <;> decide
  minute_end h := by
    unfold wholeNano at h
    split at h
    · next hleap => exact t.minute_end hleap
    · exact absurd h (by decide)

theorem wholeSeconds_wholeSeconds (t : Timestamp) :
    t.wholeSeconds.wholeSeconds = t.wholeSeconds := by
  simp only [wholeSeconds, wholeNano_wholeNano]

/-! ## The calendar -/

def isLeapYear (year : Int) : Bool := year % 4 = 0 && (year % 100 ≠ 0 || year % 400 = 0)

def daysInMonth (year : Int) (month : Nat) : Nat :=
  if month = 2 then if isLeapYear year then 29 else 28
  else if month = 4 || month = 6 || month = 9 || month = 11 then 30
  else 31

/-- Days since 1970-01-01. Years are counted from March, so that the leap day ends a year, and in
eras of 400 years, which all have the same number of days. -/
def dayOfDate (year : Int) (month day : Nat) : Int :=
  let y := if month ≤ 2 then year - 1 else year
  let era := y / 400
  let yearOfEra := y - era * 400
  let monthFromMarch : Int := if month > 2 then month - 3 else month + 9
  let dayOfYear := (153 * monthFromMarch + 2) / 5 + day - 1
  let dayOfEra := yearOfEra * 365 + yearOfEra / 4 - yearOfEra / 100 + dayOfYear
  era * 146097 + dayOfEra - 719468

/-- Year, month and day of a number of days since 1970-01-01. -/
def dateOfDay (days : Int) : Int × Nat × Nat :=
  let z := days + 719468
  let era := z / 146097
  let dayOfEra := z - era * 146097
  let yearOfEra := (dayOfEra - dayOfEra / 1460 + dayOfEra / 36524 - dayOfEra / 146096) / 365
  let dayOfYear := dayOfEra - (365 * yearOfEra + yearOfEra / 4 - yearOfEra / 100)
  let monthFromMarch := (5 * dayOfYear + 2) / 153
  let day := dayOfYear - (153 * monthFromMarch + 2) / 5 + 1
  let month := if monthFromMarch < 10 then monthFromMarch + 3 else monthFromMarch - 9
  let year := yearOfEra + era * 400 + (if month ≤ 2 then 1 else 0)
  (year, month.toNat, day.toNat)

/-! ## Writing -/

/-- At least four digits; years outside 0 to 9999 carry their sign. -/
def yearText (year : Int) : String :=
  if 0 ≤ year && year ≤ 9999 then Numeral.padded 4 year.toNat
  else (if year < 0 then "-" else "+") ++ Numeral.padded 4 year.natAbs

/-- `YYYY-MM-DDTHH:MM:SSZ`, the fraction of a second cut off. A leap second is second 60. -/
def text (t : Timestamp) : String :=
  let (year, month, day) := dateOfDay t.day
  let leap := if t.nano ≥ nanosPerSecond then 1 else 0
  yearText year ++ "-" ++ Numeral.padded 2 month ++ "-" ++ Numeral.padded 2 day
    ++ "T" ++ Numeral.padded 2 (t.second / 3600) ++ ":" ++ Numeral.padded 2 (t.second / 60 % 60)
    ++ ":" ++ Numeral.padded 2 (t.second % 60 + leap) ++ "Z"

/-! ## Reading -/

/-- A number of at most `width` digits after blanks, and the text after it. -/
def numeral? (width : Nat) (cs : List Char) : Option (Nat × List Char) :=
  let cs := cs.dropWhile Text.isBlank
  let ds := (cs.take width).takeWhile Char.isDigit
  if ds.isEmpty then none else some (Numeral.value ds, cs.drop ds.length)

/-- A character after blanks: the text after it. -/
def mark? (c : Char) (cs : List Char) : Option (List Char) :=
  match cs.dropWhile Text.isBlank with
  | c' :: rest => if c' = c then some rest else none
  | [] => none

/-- A year: four digits, or a sign and any number of them. -/
def year? (cs : List Char) : Option (Int × List Char) :=
  let signed (rest : List Char) : Option (Nat × List Char) :=
    let ds := rest.takeWhile Char.isDigit
    if ds.isEmpty then none else some (Numeral.value ds, rest.drop ds.length)
  match cs.dropWhile Text.isBlank with
  | '-' :: rest => (signed rest).map fun (n, rest) => (-(n : Int), rest)
  | '+' :: rest => (signed rest).map fun (n, rest) => ((n : Int), rest)
  | cs => (numeral? 4 cs).map fun (n, rest) => ((n : Int), rest)

/-- The nanoseconds of a fraction, of which nine digits count, and the text after it. -/
def fraction? (cs : List Char) : Option (Nat × List Char) :=
  match cs with
  | '.' :: rest =>
    let ds := rest.takeWhile Char.isDigit
    let used := ds.take 9
    if ds.isEmpty then none
    else some (Numeral.value used * Nat.pow 10 (9 - used.length), rest.drop ds.length)
  | cs => some (0, cs)

/-- The seconds east of UTC that an offset denotes, and the text after it. -/
def offset? (cs : List Char) : Option (Int × List Char) :=
  let hoursAndMinutes (cs : List Char) : Option (Nat × List Char) :=
    match cs with
    | h :: h' :: rest =>
      match rest.dropWhile fun c => c == ':' || Text.isBlank c with
      | m :: m' :: rest => do
        let hours ← Numeral.natural? [h, h']
        let minutes ← Numeral.natural? [m, m']
        if minutes < 60 && hours < 24 then some (hours * 3600 + minutes * 60, rest) else none
      | _ => none
    | _ => none
  match cs with
  | 'Z' :: rest | 'z' :: rest => some (0, rest)
  | '+' :: rest => (hoursAndMinutes rest).map fun (n, rest) => ((n : Int), rest)
  | '-' :: rest | '\u2212' :: rest => (hoursAndMinutes rest).map fun (n, rest) => (-(n : Int), rest)
  | a :: b :: c :: rest =>
    if [a, b, c].map Char.toUpper = ['U', 'T', 'C'] then some (0, rest) else none
  | _ => none

/-- The first and the last day of the calendar. -/
def firstDay : Int := dayOfDate (-262143) 1 1

def lastDay : Int := dayOfDate 262142 12 31

/-- The point in time that a date, a time of day and an offset from UTC denote. The day belongs to the
calendar both where it is written and in UTC. -/
def ofParts? (year : Int) (month day hour minute second nano : Nat) (offset : Int) :
    Option Timestamp :=
  let valid := -262143 ≤ year && year ≤ 262142 && 1 ≤ month && month ≤ 12 && 1 ≤ day
    && day ≤ daysInMonth year month && hour < 24 && minute < 60 && second ≤ 60
  if valid then
    let (second, nano) := if second = 60 then (59, nano + nanosPerSecond) else (second, nano)
    let total : Int := dayOfDate year month day * 86400
      + ((hour * 3600 + minute * 60 + second : Nat) : Int) - offset
    let day := total / 86400
    -- offsets are whole minutes, so a leap second stays at the end of its minute
    if firstDay ≤ day && day ≤ lastDay then at? day (total % 86400).toNat nano else none
  else none

/-- Read an RFC 3339 text; the offset may not be missing. -/
def parse? (s : String) : Option Timestamp := do
  let (year, rest) ← year? s.toList
  let (month, rest) ← numeral? 2 (← mark? '-' rest)
  let (day, rest) ← numeral? 2 (← mark? '-' rest)
  let rest ← match rest with
    | 'T' :: rest | 't' :: rest | ' ' :: rest => some rest
    | _ => none
  let (hour, rest) ← numeral? 2 rest
  let (minute, rest) ← numeral? 2 (← mark? ':' rest)
  let (second, rest) ← numeral? 2 (← mark? ':' rest)
  let (nano, rest) ← fraction? rest
  let (offset, rest) ← offset? (rest.dropWhile Text.isBlank)
  if (rest.dropWhile Text.isBlank).isEmpty then
    ofParts? year month day hour minute second nano offset
  else none

end Timestamp

/-! ## Spans of time -/

/-- A span of time in nanoseconds. -/
structure Duration where
  nanos : Nat
deriving DecidableEq, Inhabited

namespace Duration

def zero : Duration := ⟨0⟩

def ofSeconds (n : Nat) : Duration := ⟨n * 1000000000⟩

def ofMillis (n : Nat) : Duration := ⟨n * 1000000⟩

/-- The whole milliseconds of a span. -/
def millis (d : Duration) : Nat := d.nanos / 1000000

/-- The shorter of two spans. -/
def shorter (a b : Duration) : Duration := if a.nanos ≤ b.nanos then a else b

/-- A quarter of a span, rounded down. -/
def quarter (d : Duration) : Duration := ⟨d.nanos / 4⟩

end Duration

end TabletFleet
