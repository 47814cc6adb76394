import BuildingModel.Number.Decimal

/-!
# Dates and times

Reading the lexical forms of dates, times of day and their parts, and writing each in its one
canonical form: midnight at the end of a day is the start of the next, seconds have no trailing
zeros, and the time zone of no offset is `Z`.
-/
namespace BuildingModel.Calendar

open BuildingModel.Number

/-- A reader of one part of a text: its value and what follows. -/
abbrev Part (α : Type) := List Char → Option (α × List Char)

/-- One given character. -/
def mark (c : Char) : Part Unit
  | d :: cs => if d = c then some ((), cs) else none
  | [] => none

/-- Exactly two digits with a value from `low` to `high`. -/
def twoDigits (low high : Nat) : Part Nat
  | a :: b :: cs =>
    if a.isDigit && b.isDigit then
      let n := digitsValue [a, b]
      if low ≤ n ∧ n ≤ high then some (n, cs) else none
    else none
  | _ => none

/-- The greatest year that is read. -/
def maxYear : Nat := 5000000000000

/-- A year of four digits or more, without a needless zero in front. -/
def year : Part Int := fun cs =>
  let (negative, body) :=
    match cs with
    | '-' :: rest => (true, rest)
    | _ => (false, cs)
  let (ds, rest) := spanDigits body
  if ds.length < 4 || (4 < ds.length && ds.head? == some '0') then none
  else
    let n := digitsValue ds
    if maxYear < n then none else some (if negative then -(n : Int) else (n : Int), rest)

/-- Seconds below sixty as a multiple of `10 ^ -18`. -/
def seconds : Part Int := fun cs =>
  let (whole, rest) := spanDigits cs
  if whole.length ≠ 2 then none
  else
    let (body, rest) :=
      match rest with
      | '.' :: more => (whole ++ '.' :: (spanDigits more).1, (spanDigits more).2)
      | _ => (whole, rest)
    if body.getLast? == some '.' then none
    else
      match readDecimal? (String.ofList body) with
      | some n => if n < 60 * Nat.pow 10 decimalPlaces then some (n, rest) else none
      | none => none

/-- A time zone as an offset in minutes; it ends the text, and may be absent. -/
def zone : List Char → Option (Option Int)
  | [] => some none
  | ['Z'] => some (some 0)
  | c :: cs =>
    if c = '+' ∨ c = '-' then
      match twoDigits 0 14 cs with
      | some (h, ':' :: rest) =>
        match twoDigits 0 59 rest with
        | some (m, []) =>
          let n : Int := h * 60 + m
          if 840 < n then none else some (some (if c = '-' then -n else n))
        | _ => none
      | _ => none
    else none

/-- Whether a year has a twenty-ninth of February. -/
def isLeap (y : Int) : Bool :=
  y % 400 == 0 || (y % 4 == 0 && y % 100 != 0)

/-- The days of a month; a February of no year has twenty-nine. -/
def daysInMonth (y : Option Int) (m : Nat) : Nat :=
  if m = 2 then (if y.all isLeap then 29 else 28)
  else if m = 4 ∨ m = 6 ∨ m = 9 ∨ m = 11 then 30
  else 31

/-- A time of day. -/
structure Clock where
  hour : Nat
  minute : Nat
  second : Int

/-- A time of day; hour twenty-four has only its first instant. -/
def clock : Part Clock := fun cs => do
  let (h, cs) ← twoDigits 0 24 cs
  let ((), cs) ← mark ':' cs
  let (m, cs) ← twoDigits 0 59 cs
  let ((), cs) ← mark ':' cs
  let (s, cs) ← seconds cs
  if h = 24 ∧ (m ≠ 0 ∨ s ≠ 0) then none else some (⟨h, m, s⟩, cs)

structure Day where
  year : Int
  month : Nat
  day : Nat

/-- A day that its month has. -/
def day : Part Day := fun cs => do
  let (y, cs) ← year cs
  let ((), cs) ← mark '-' cs
  let (m, cs) ← twoDigits 1 12 cs
  let ((), cs) ← mark '-' cs
  let (d, cs) ← twoDigits 1 31 cs
  if d ≤ daysInMonth (some y) m then some (⟨y, m, d⟩, cs) else none

def Day.next (d : Day) : Day :=
  if d.day < daysInMonth (some d.year) d.month then { d with day := d.day + 1 }
  else if d.month < 12 then ⟨d.year, d.month + 1, 1⟩
  else ⟨d.year + 1, 1, 1⟩

/-- A number padded with zeros to a width. -/
def padded (width n : Nat) : String :=
  let ds := Nat.toDigits 10 n
  String.ofList (List.replicate (width - ds.length) '0' ++ ds)

/-- A year in at least four digits. -/
def yearText (y : Int) : String :=
  (if y < 0 then "-" else "") ++ padded 4 y.natAbs

/-- An offset in canonical form. -/
def zoneText : Option Int → String
  | none => ""
  | some n =>
    if n = 0 then "Z"
    else (if n < 0 then "-" else "+") ++ padded 2 (n.natAbs / 60) ++ ":" ++
      padded 2 (n.natAbs % 60)

/-- A time of day in canonical form, at hour zero for the end of a day. -/
def Clock.text (c : Clock) : String :=
  padded 2 (c.hour % 24) ++ ":" ++ padded 2 c.minute ++ ":" ++
    (if c.second < 10 * Nat.pow 10 decimalPlaces then "0" else "") ++ decimalText c.second

/-- A day in canonical form. -/
def Day.text (d : Day) : String :=
  yearText d.year ++ "-" ++ padded 2 d.month ++ "-" ++ padded 2 d.day

def canonicalDateTime? (s : String) : Option String := do
  let (d, cs) ← day s.toList
  let ((), cs) ← mark 'T' cs
  let (c, cs) ← clock cs
  let z ← zone cs
  let d := if c.hour = 24 then d.next else d
  some (d.text ++ "T" ++ c.text ++ zoneText z)

def canonicalTime? (s : String) : Option String := do
  let (c, cs) ← clock s.toList
  let z ← zone cs
  some (c.text ++ zoneText z)

def canonicalDate? (s : String) : Option String := do
  let (d, cs) ← day s.toList
  let z ← zone cs
  some (d.text ++ zoneText z)

def canonicalYearMonth? (s : String) : Option String := do
  let (y, cs) ← year s.toList
  let ((), cs) ← mark '-' cs
  let (m, cs) ← twoDigits 1 12 cs
  let z ← zone cs
  some (yearText y ++ "-" ++ padded 2 m ++ zoneText z)

def canonicalYear? (s : String) : Option String := do
  let (y, cs) ← year s.toList
  let z ← zone cs
  some (yearText y ++ zoneText z)

/-- The canonical form of a day of a month of any year. -/
def canonicalMonthDay? (s : String) : Option String := do
  let ((), cs) ← mark '-' s.toList
  let ((), cs) ← mark '-' cs
  let (m, cs) ← twoDigits 1 12 cs
  let ((), cs) ← mark '-' cs
  let (d, cs) ← twoDigits 1 31 cs
  let z ← zone cs
  if d ≤ daysInMonth none m then
    some ("--" ++ padded 2 m ++ "-" ++ padded 2 d ++ zoneText z)
  else none

/-- The canonical form of a month of any year. -/
def canonicalMonth? (s : String) : Option String := do
  let ((), cs) ← mark '-' s.toList
  let ((), cs) ← mark '-' cs
  let (m, cs) ← twoDigits 1 12 cs
  let z ← zone cs
  some ("--" ++ padded 2 m ++ zoneText z)

/-- The canonical form of a day of any month. -/
def canonicalDay? (s : String) : Option String := do
  let ((), cs) ← mark '-' s.toList
  let ((), cs) ← mark '-' cs
  let ((), cs) ← mark '-' cs
  let (d, cs) ← twoDigits 1 31 cs
  let z ← zone cs
  some ("---" ++ padded 2 d ++ zoneText z)

end BuildingModel.Calendar
