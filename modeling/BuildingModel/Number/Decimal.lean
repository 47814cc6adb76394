import BuildingModel.Number.Binary
import BuildingModel.Number.Bounded

/-!
# Decimal texts

Reading decimal texts: as numbers of a binary format, with an optional exponent, and as exact
decimals of at most eighteen places.
-/
namespace BuildingModel.Number

inductive FloatFault
  | empty
  | invalid
  deriving DecidableEq, Repr

def FloatFault.message : FloatFault → String
  | .empty => "cannot parse float from empty string"
  | .invalid => "invalid float literal"

/-- The leading digits of a text and what follows them. -/
def spanDigits (cs : List Char) : List Char × List Char :=
  (cs.takeWhile Char.isDigit, cs.dropWhile Char.isDigit)

def digitsValue (cs : List Char) : Nat :=
  cs.foldl (fun n c => 10 * n + (c.toNat - 48)) 0

/-- A sign, if there is one, and what follows it. -/
def spanSign : List Char → Bool × List Char
  | '-' :: cs => (true, cs)
  | '+' :: cs => (false, cs)
  | cs => (false, cs)

/-- The exponent that ends a decimal text; no text stands for zero. -/
def readExponent : List Char → Option Int
  | [] => some 0
  | c :: cs =>
    if c = 'e' ∨ c = 'E' then
      let (negative, ds) := spanSign cs
      if ds.isEmpty || !ds.all Char.isDigit then none
      else
        let n : Int := digitsValue ds
        some (if negative then -n else n)
    else none

/-- The value of a format nearest to `digits * 10 ^ place`; values far out of range are not
expanded. -/
def ofDecimal (format : BinaryFormat) (negative : Bool) (digits : Nat) (place : Int) : Binary :=
  if digits = 0 then .finite negative 0 format.minExponent
  else
    let size : Int := (Nat.toDigits 10 digits).length + place
    if 400 < size then .infinity negative
    else if size < -400 then .finite negative 0 format.minExponent
    else
      match place with
      | .ofNat k => Binary.ofRatio format negative (digits * Nat.pow 10 k) 1
      | .negSucc k => Binary.ofRatio format negative digits (Nat.pow 10 (k + 1))

/-- Digits with an optional point and exponent, as a number of a format. -/
def readUnsigned? (format : BinaryFormat) (negative : Bool) (cs : List Char) : Option Binary :=
  let (whole, rest) := spanDigits cs
  let (fraction, rest) :=
    match rest with
    | '.' :: more => spanDigits more
    | _ => ([], rest)
  if whole.isEmpty && fraction.isEmpty then none
  else
    (readExponent rest).map fun e =>
      ofDecimal format negative (digitsValue (whole ++ fraction)) (e - fraction.length)

/-- A number of a format: a decimal text, or a name of an infinity or of no number in any case. -/
def readBinary (format : BinaryFormat) (s : String) : Except FloatFault Binary :=
  match s.toList with
  | [] => .error .empty
  | cs =>
    let (negative, body) := spanSign cs
    let name := body.map Char.toLower
    if name = "inf".toList || name = "infinity".toList then .ok (.infinity negative)
    else if name = "nan".toList then .ok .nan
    else
      match readUnsigned? format negative body with
      | some x => .ok x
      | none => .error .invalid

/-- The places of an exact decimal. -/
def decimalPlaces : Nat := 18

/-- An exact decimal as a multiple of `10 ^ -18`, if its text is one and it fits 128 bits. -/
def readDecimal? (s : String) : Option Int :=
  let (negative, body) := spanSign s.toList
  let (whole, rest) := spanDigits body
  let fraction? : Option (List Char) :=
    match rest with
    | [] => if whole.isEmpty then none else some []
    | '.' :: more =>
      if more.isEmpty && whole.isEmpty then none
      else
        let kept := (more.reverse.dropWhile (· == '0')).reverse
        if kept.all Char.isDigit && kept.length ≤ decimalPlaces then some kept else none
    | _ => none
  match fraction? with
  | none => none
  | some fraction =>
    let n := digitsValue (whole ++ fraction) * Nat.pow 10 (decimalPlaces - fraction.length)
    let limit := if negative then Nat.pow 2 127 else Nat.pow 2 127 - 1
    if n ≤ limit then some (if negative then -(n : Int) else (n : Int)) else none

/-- The canonical text of a multiple of `10 ^ -18`. -/
def decimalText (n : Int) : String :=
  let ds := Nat.toDigits 10 n.natAbs
  let padded := List.replicate (decimalPlaces + 1 - ds.length) '0' ++ ds
  let whole := padded.take (padded.length - decimalPlaces)
  let fraction := (padded.drop (padded.length - decimalPlaces)).reverse.dropWhile (· == '0')
  let body := if fraction.isEmpty then whole else whole ++ '.' :: fraction.reverse
  String.ofList (if n < 0 then '-' :: body else body)

end BuildingModel.Number
