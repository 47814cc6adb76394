import BuildingModel.Number.Binary

/-!
# Shortest decimals

The text of a binary number has the fewest digits that read back as the number, nearest to its
exact value among those, and is always positional: there is no exponent, and whole numbers have no
fraction.
-/
namespace BuildingModel.Number.Binary

/-- The exact quotient of two natural numbers is at most another. -/
def ratioLe (a b : Nat × Nat) : Bool :=
  a.1 * b.2 ≤ b.1 * a.2

/-- The ends of the interval of reals that round to a positive finite value. -/
def roundingInterval (format : BinaryFormat) (significand : Nat) (exponent : Int) :
    (Nat × Nat) × (Nat × Nat) :=
  let atBinade := significand = Nat.pow 2 (format.precision - 1) ∧ format.minExponent < exponent
  let low :=
    if atBinade then ratio (4 * significand - 1) (exponent - 2)
    else ratio (2 * significand - 1) (exponent - 1)
  (low, ratio (2 * significand + 1) (exponent - 1))

/-- Whether a decimal lies in the interval of a value; the ends belong to even significands. -/
def inInterval (even : Bool) (interval : (Nat × Nat) × (Nat × Nat)) (x : Nat × Nat) : Bool :=
  if even then ratioLe interval.1 x && ratioLe x interval.2
  else !ratioLe x interval.1 && !ratioLe interval.2 x

/-- The decimal `digits * 10 ^ place` as numerator and denominator. -/
def decimalRatio (digits : Nat) (place : Int) : Nat × Nat :=
  match place with
  | .ofNat k => (digits * Nat.pow 10 k, 1)
  | .negSucc k => (digits, Nat.pow 10 (k + 1))

/-- The greatest `e` with `10 ^ e ≤ x`, searched upward from `e`. -/
def log10From (x : Nat × Nat) : Nat → Int → Int
  | 0, e => e
  | steps + 1, e => if ratioLe (decimalRatio 1 (e + 1)) x then log10From x steps (e + 1) else e

/-- The greatest `e` with `10 ^ e ≤ x` for a value of a format of at most 64 bits. -/
def log10Ratio (x : Nat × Nat) : Int :=
  let guess : Int := log2Ratio x.1 x.2 * 30103 / 100000 - 2
  log10From x 8 guess

/-- The neighbours of a value on the grid of multiples of `10 ^ place` that read back as it, the
nearer one if both do; a tie goes to the greater. -/
def gridNeighbour? (even : Bool) (interval : (Nat × Nat) × (Nat × Nat)) (value : Nat × Nat)
    (place : Int) : Option Nat :=
  let step := decimalRatio 1 place
  let below := value.1 * step.2 / (value.2 * step.1)
  let lowIn := 0 < below && inInterval even interval (decimalRatio below place)
  let highIn := inInterval even interval (decimalRatio (below + 1) place)
  if lowIn && highIn then
    let twice := decimalRatio (2 * below + 1) place
    if ratioLe (twice.1, 2 * twice.2) value then some (below + 1) else some below
  else if lowIn then some below
  else if highIn then some (below + 1)
  else none

/-- The first grid, from coarse to fine, with a decimal that reads back. -/
def shortestFrom (even : Bool) (interval : (Nat × Nat) × (Nat × Nat)) (value : Nat × Nat) :
    Nat → Int → Nat × Int
  | 0, place => (0, place)
  | steps + 1, place =>
    match gridNeighbour? even interval value place with
    | some digits => (digits, place)
    | none => shortestFrom even interval value steps (place - 1)

/-- The shortest decimal `digits * 10 ^ place` of a positive finite value. -/
def shortest (format : BinaryFormat) (significand : Nat) (exponent : Int) : Nat × Int :=
  let value := ratio significand exponent
  shortestFrom (significand % 2 == 0) (roundingInterval format significand exponent) value 18
    (log10Ratio value)

def positional (digits : Nat) (place : Int) : List Char :=
  let ds := Nat.toDigits 10 digits
  match place with
  | .ofNat k => ds ++ List.replicate k '0'
  | .negSucc k =>
    let padded := List.replicate (k + 2 - ds.length) '0' ++ ds
    let whole := padded.take (padded.length - (k + 1))
    let fraction := (padded.drop (padded.length - (k + 1))).reverse.dropWhile (· == '0')
    if fraction.isEmpty then whole else whole ++ '.' :: fraction.reverse

def text (format : BinaryFormat) : Binary → String
  | .nan => "NaN"
  | .infinity negative => if negative then "-inf" else "inf"
  | .finite negative significand exponent =>
    let body :=
      if significand = 0 then ['0']
      else
        let d := shortest format significand exponent
        positional d.1 d.2
    String.ofList (if negative then '-' :: body else body)

end BuildingModel.Number.Binary
