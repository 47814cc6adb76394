/-!
# Binary floating point

A number of a binary format is a dyadic fraction of bounded precision and exponent, an infinity or
no number. All arithmetic on them here is exact arithmetic on natural numbers.
-/
namespace BuildingModel.Number

/-- A binary format: the bits of its significands and the range of exponents of their last bit. -/
structure BinaryFormat where
  precision : Nat
  minExponent : Int
  maxExponent : Int

def binary64 : BinaryFormat := ⟨53, -1074, 971⟩

def binary32 : BinaryFormat := ⟨24, -149, 104⟩

/-- A value of a binary format; a finite one is `significand * 2 ^ exponent` with a sign. -/
inductive Binary
  | nan
  | infinity (negative : Bool)
  | finite (negative : Bool) (significand : Nat) (exponent : Int)
  deriving DecidableEq, Repr

namespace Binary

/-- The numerator and denominator of `num / den * 2 ^ e`. -/
def shiftRatio (num den : Nat) (e : Int) : Nat × Nat :=
  match e with
  | .ofNat k => (num * Nat.pow 2 k, den)
  | .negSucc k => (num, den * Nat.pow 2 (k + 1))

/-- The nearest whole number to a quotient; a tie goes to the even neighbour. -/
def roundHalfEven (num den : Nat) : Nat :=
  let q := num / den
  let r := num % den
  if 2 * r < den then q
  else if den < 2 * r then q + 1
  else if q % 2 = 0 then q else q + 1

/-- The greatest `e` with `2 ^ e ≤ num / den`, for positive `num` and `den`. -/
def log2Ratio (num den : Nat) : Int :=
  let e : Int := (Nat.log2 num : Int) - (Nat.log2 den : Int)
  let scaled := shiftRatio num den (-e)
  if scaled.2 ≤ scaled.1 then e else e - 1

/-- The value of the format nearest to the positive or zero quotient `num / den`. -/
def ofRatio (format : BinaryFormat) (negative : Bool) (num den : Nat) : Binary :=
  if num = 0 then .finite negative 0 format.minExponent
  else
    let e := max (log2Ratio num den - ((format.precision : Int) - 1)) format.minExponent
    let scaled := shiftRatio num den (-e)
    let m := roundHalfEven scaled.1 scaled.2
    let carried := m = Nat.pow 2 format.precision
    let m' := if carried then Nat.pow 2 (format.precision - 1) else m
    let e' := if carried then e + 1 else e
    if format.maxExponent < e' then .infinity negative else .finite negative m' e'

/-- The sign and the exact value `num / den` of a finite number. -/
def ratio (significand : Nat) (exponent : Int) : Nat × Nat :=
  shiftRatio significand 1 exponent

/-- The exact signed value as numerator and positive denominator. -/
def signedRatio (negative : Bool) (significand : Nat) (exponent : Int) : Int × Nat :=
  let r := ratio significand exponent
  (if negative then -(r.1 : Int) else (r.1 : Int), r.2)

/-- Whether one number is below another; nothing is below or above no number. -/
def lt : Binary → Binary → Bool
  | .nan, _ => false
  | _, .nan => false
  | .infinity n, .infinity m => n && !m
  | .infinity n, .finite .. => n
  | .finite .., .infinity m => !m
  | .finite n s e, .finite m t f =>
    let a := signedRatio n s e
    let b := signedRatio m t f
    decide (a.1 * b.2 < b.1 * a.2)

/-- Whether two numbers have one value: zeros of both signs do, and no number has none. -/
def same : Binary → Binary → Bool
  | .nan, _ => false
  | _, .nan => false
  | .infinity n, .infinity m => n == m
  | .infinity _, .finite .. => false
  | .finite .., .infinity _ => false
  | .finite n s e, .finite m t f =>
    let a := signedRatio n s e
    let b := signedRatio m t f
    decide (a.1 * b.2 = b.1 * a.2)

def isFinite : Binary → Bool
  | .finite .. => true
  | _ => false

end Binary

end BuildingModel.Number
