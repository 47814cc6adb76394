import BuildingModel.Number.Decimal

/-!
# Durations

A duration is a number of months and a number of seconds of one sign. Its canonical form carries
months into years, and seconds into minutes, hours and days.
-/
namespace BuildingModel.Calendar

open BuildingModel.Number

/-- A duration: months, and seconds as a multiple of `10 ^ -18`; absent parts were not written. -/
structure Span where
  negative : Bool
  months : Option Nat
  seconds : Option Nat

/-- The designators of a duration in the order in which they may come. -/
inductive Designator
  | year
  | month
  | day
  | timeMark
  | hour
  | minute
  | second

/-- The rank of a designator in the order of a duration. -/
def Designator.rank : Designator → Nat
  | .year => 1
  | .month => 2
  | .day => 3
  | .timeMark => 4
  | .hour => 5
  | .minute => 6
  | .second => 7

/-- One second as a multiple of `10 ^ -18`. -/
def oneSecond : Nat := Nat.pow 10 decimalPlaces

/-- The designator that a letter stands for after a given rank. -/
def designator? (rank : Nat) (c : Char) : Option Designator :=
  if rank < 4 then
    if c = 'Y' ∧ rank < 1 then some .year
    else if c = 'M' ∧ rank < 2 then some .month
    else if c = 'D' ∧ rank < 3 then some .day
    else none
  else if c = 'H' ∧ rank < 5 then some .hour
  else if c = 'M' ∧ rank < 6 then some .minute
  else if c = 'S' ∧ rank < 7 then some .second
  else none

/-- Adds a number of a designator's units to a duration. -/
def Span.add (span : Span) (d : Designator) (whole fraction : List Char) : Option Span :=
  let n := digitsValue whole
  let more (factor : Nat) : Span :=
    { span with seconds := some (span.seconds.getD 0 + n * factor * oneSecond) }
  match d with
  | .second =>
    match readDecimal? (String.ofList (if fraction.isEmpty then whole else whole ++ fraction)) with
    | some s => some { span with seconds := some (span.seconds.getD 0 + s.natAbs) }
    | none => none
  | d =>
    if !fraction.isEmpty || whole.isEmpty then none
    else
      match d with
      | .year => some { span with months := some (span.months.getD 0 + 12 * n) }
      | .month => some { span with months := some (span.months.getD 0 + n) }
      | .day => some (more 86400)
      | .hour => some (more 3600)
      | _ => some (more 60)

/-- The parts of a duration after its `P`; `steps` bounds their number. -/
def readParts : Nat → Nat → Span → List Char → Option Span
  | 0, _, _, _ => none
  | _ + 1, rank, span, [] => if rank = 4 then none else some span
  | steps + 1, rank, span, c :: cs =>
    if c = 'T' then
      if 4 ≤ rank then none else readParts steps 4 span cs
    else
      let (whole, rest) := spanDigits (c :: cs)
      let (fraction, rest) :=
        match rest with
        | '.' :: more => ('.' :: (spanDigits more).1, (spanDigits more).2)
        | _ => ([], rest)
      match rest with
      | [] => none
      | l :: rest =>
        match designator? rank l with
        | none => none
        | some d =>
          match span.add d whole fraction with
          | none => none
          | some span => readParts steps d.rank span rest

/-- The bounds of the months and the seconds of a duration. -/
def Span.fits (span : Span) : Bool :=
  span.months.getD 0 ≤ maxSigned64 && span.seconds.getD 0 < Nat.pow 2 127

/-- A duration with at least one part. -/
def readSpan? (s : String) : Option Span :=
  let (negative, body) :=
    match s.toList with
    | '-' :: cs => (true, cs)
    | cs => (false, cs)
  match body with
  | 'P' :: cs =>
    match readParts (cs.length + 1) 0 ⟨negative, none, none⟩ cs with
    | some span =>
      if (span.months.isNone && span.seconds.isNone) || !span.fits then none else some span
    | none => none
  | _ => none

/-- A count with its designator, or nothing for none. -/
def counted (n : Nat) (letter : String) : String :=
  if n = 0 then "" else integerText n ++ letter

/-- Years and months of a number of months. -/
def monthsText (n : Nat) : String :=
  counted (n / 12) "Y" ++ counted (n % 12) "M"

/-- Days, hours, minutes and seconds of a number of seconds. -/
def secondsText (n : Nat) : String :=
  let whole := n / oneSecond
  let rest := n % (60 * oneSecond)
  let time :=
    counted (whole / 3600 % 24) "H" ++ counted (whole / 60 % 60) "M" ++
      (if rest = 0 then "" else decimalText rest ++ "S")
  counted (whole / 86400) "D" ++ (if time.isEmpty then "" else "T" ++ time)

def canonicalDuration? (s : String) : Option String :=
  (readSpan? s).map fun span =>
    let months := span.months.getD 0
    let seconds := span.seconds.getD 0
    if months = 0 ∧ seconds = 0 then "PT0S"
    else (if span.negative then "-" else "") ++ "P" ++ monthsText months ++ secondsText seconds

def canonicalMonths? (s : String) : Option String :=
  (readSpan? s).bind fun span =>
    match span.seconds with
    | some _ => none
    | none =>
      let months := span.months.getD 0
      some (if months = 0 then "P0M"
        else (if span.negative then "-" else "") ++ "P" ++ monthsText months)

def canonicalSeconds? (s : String) : Option String :=
  (readSpan? s).bind fun span =>
    match span.months with
    | some _ => none
    | none =>
      let seconds := span.seconds.getD 0
      some (if seconds = 0 then "PT0S"
        else (if span.negative then "-" else "") ++ "P" ++ secondsText seconds)

end BuildingModel.Calendar
