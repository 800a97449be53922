import Gamebook.Toml.Text

/-!
# Dates and times of day

A moment is a date, a time of day, or both with a `T` or a blank between them.  Behind both may stand
how far the clock is from universal time.  A date is a day that there is in the calendar, and a minute
may have a second more than sixty.

No setting is a moment, but a moment may stand where a value is not looked at.
-/

namespace Gamebook.Toml

/-! ### The calendar -/

/-- A year has a day more than usual. -/
def isLeapYear (year : Nat) : Bool := year % 4 == 0 && (year % 100 != 0 || year % 400 == 0)

/-- The number of days of a month. -/
def daysOfMonth (year : Nat) : (month : Nat) → Nat
  | 2 => if isLeapYear year then 29 else 28
  | 4 | 6 | 9 | 11 => 30
  | _ => 31

/-- A day. -/
structure Date where
  year : Nat
  month : Nat
  day : Nat
  deriving DecidableEq, Repr

/-- The day is in the calendar. -/
def Date.isValid (date : Date) : Bool :=
  1 ≤ date.month && date.month ≤ 12 && 1 ≤ date.day && date.day ≤ daysOfMonth date.year date.month

/-- A time of day. -/
structure Clock where
  hour : Nat
  minute : Nat
  second : Nat
  /-- The digits of the part of a second. -/
  fraction : List Char
  deriving DecidableEq, Repr

/-- The time is one of a day. -/
def Clock.isValid (clock : Clock) : Bool :=
  clock.hour ≤ 23 && clock.minute ≤ 59 && clock.second ≤ 60

/-- A date, a time of day, or both with the minutes that the clock is ahead of universal time. -/
inductive Moment where
  | date (date : Date)
  | clock (clock : Clock)
  | both (date : Date) (clock : Clock) (ahead? : Option Int)
  deriving DecidableEq, Repr

/-! ### Reading -/

/-- A number of so many digits. -/
def digitNumber? (count : Nat) : Reader Nat := fun s =>
  let digits := s.take count
  if digits.length = count then
    if digits.all Char.isDigit then
      (Numeral.read 10 digits).map fun n => (n, s.drop count)
    else none
  else none

/-- The text behind a character that it starts with. -/
def after? (c : Char) : List Char → Option (List Char)
  | d :: rest => if d = c then some rest else none
  | [] => none

/-- A date. -/
def date? : Reader Date := fun s => do
  let (year, s) ← digitNumber? 4 s
  let (month, s) ← digitNumber? 2 (← after? '-' s)
  let (day, s) ← digitNumber? 2 (← after? '-' s)
  let date : Date := ⟨year, month, day⟩
  if date.isValid then some (date, s) else none

/-- A date that is read is in the calendar. -/
theorem isValid_of_date? {s rest : List Char} {date : Date} (h : date? s = some (date, rest)) :
    date.isValid = true := by
  simp only [date?, Option.bind_eq_bind, Option.bind_eq_some_iff] at h
  obtain ⟨_, _, _, _, _, _, _, _, _, _, h⟩ := h
  split at h
  · next valid => cases h; exact valid
  · cases h

/-- The digits behind a point, none if there is no point with digits behind it. -/
def fraction (s : List Char) : List Char × List Char :=
  match s with
  | '.' :: rest =>
    match rest.takeWhile Char.isDigit with
    | [] => ([], s)
    | digits => (digits, rest.dropWhile Char.isDigit)
  | _ => ([], s)

/-- A time of day. -/
def clock? : Reader Clock := fun s => do
  let (hour, s) ← digitNumber? 2 s
  let (minute, s) ← digitNumber? 2 (← after? ':' s)
  let (second, s) ← digitNumber? 2 (← after? ':' s)
  let (digits, s) := fraction s
  let clock : Clock := ⟨hour, minute, second, digits⟩
  if clock.isValid then some (clock, s) else none

/-- A time that is read is one of a day. -/
theorem isValid_of_clock? {s rest : List Char} {clock : Clock}
    (h : clock? s = some (clock, rest)) : clock.isValid = true := by
  simp only [clock?, Option.bind_eq_bind, Option.bind_eq_some_iff] at h
  obtain ⟨_, _, _, _, _, _, _, _, _, _, h⟩ := h
  split at h
  · next valid => cases h; exact valid
  · cases h

/-- An hour and a minute behind a sign. -/
def shift? (sign : Int) : Reader Int := fun s => do
  let (hour, s) ← digitNumber? 2 s
  let (minute, s) ← digitNumber? 2 (← after? ':' s)
  if hour ≤ 23 ∧ minute ≤ 59 then some (sign * (60 * hour + minute), s) else none

/-- How far a clock is ahead of universal time, if that is said. -/
def ahead? (s : List Char) : Option Int × List Char :=
  let read? := match s with
    | 'Z' :: rest | 'z' :: rest => some (0, rest)
    | '+' :: rest => shift? 1 rest
    | '-' :: rest => shift? (-1) rest
    | _ => none
  match read? with
  | some (minutes, rest) => (some minutes, rest)
  | none => (none, s)

/-- A time of day behind what may stand between it and the date. -/
def clockAfterDate? : Reader Clock
  | 'T' :: rest | 't' :: rest | ' ' :: rest => clock? rest
  | _ => none

/-- A moment. -/
def moment? : Reader Moment := fun s =>
  match date? s with
  | some (date, rest) =>
    match clockAfterDate? rest with
    | some (clock, rest) =>
      let (ahead?, rest) := ahead? rest
      some (.both date clock ahead?, rest)
    | none => some (.date date, rest)
  | none => (clock? s).map fun (clock, rest) => (.clock clock, rest)

end Gamebook.Toml
