/-!
# Whole numbers within bounds

Reading decimal whole numbers that have to fit a range. The digits are taken from the left, and the
first fault met is the one reported: a character that is no digit, or a value beyond the range.
-/
namespace BuildingModel.Number

/-- Why a text is no whole number of a range. -/
inductive IntegerFault
  | empty
  | invalidDigit
  | tooLarge
  | tooSmall
  deriving DecidableEq, Repr

def IntegerFault.message : IntegerFault → String
  | .empty => "cannot parse integer from empty string"
  | .invalidDigit => "invalid digit found in string"
  | .tooLarge => "number too large to fit in target type"
  | .tooSmall => "number too small to fit in target type"

def digitValue (c : Char) : Option Nat :=
  if '0' ≤ c ∧ c ≤ '9' then some (c.toNat - 48) else none

/-- The value of digits that follow a part of value `value`, as long as it stays within `bound`. -/
def readDigits (bound : Nat) (beyond : IntegerFault) : Nat → List Char → Except IntegerFault Nat
  | value, [] => .ok value
  | value, c :: cs =>
    match digitValue c with
    | none => .error .invalidDigit
    | some d =>
      if 10 * value + d ≤ bound then readDigits bound beyond (10 * value + d) cs
      else .error beyond

/-- The magnitude of at least one digit, within `bound`. -/
def readMagnitude (bound : Nat) (beyond : IntegerFault) :
    List Char → Except IntegerFault Nat
  | [] => .error .invalidDigit
  | cs => readDigits bound beyond 0 cs

/-- A whole number from zero to `bound`; a plus sign may stand before it. -/
def readNatural (bound : Nat) (s : String) : Except IntegerFault Nat :=
  match s.toList with
  | [] => .error .empty
  | '+' :: cs => readMagnitude bound .tooLarge cs
  | cs => readMagnitude bound .tooLarge cs

/-- A whole number from `-bound - 1` to `bound`; a sign may stand before it. -/
def readInteger (bound : Nat) (s : String) : Except IntegerFault Int :=
  match s.toList with
  | [] => .error .empty
  | '+' :: cs => (readMagnitude bound .tooLarge cs).map Int.ofNat
  | '-' :: cs => (readMagnitude (bound + 1) .tooSmall cs).map fun n => -Int.ofNat n
  | cs => (readMagnitude bound .tooLarge cs).map Int.ofNat

def maxSigned64 : Nat := Nat.pow 2 63 - 1

def maxUnsigned64 : Nat := Nat.pow 2 64 - 1

def readSigned64 (s : String) : Except IntegerFault Int :=
  readInteger maxSigned64 s

def readCount (s : String) : Except IntegerFault Nat :=
  readNatural maxUnsigned64 s

def integerText (n : Int) : String :=
  match n with
  | .ofNat n => String.ofList (Nat.toDigits 10 n)
  | .negSucc n => String.ofList ('-' :: Nat.toDigits 10 (n + 1))

end BuildingModel.Number
