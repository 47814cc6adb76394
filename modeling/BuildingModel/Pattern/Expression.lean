import BuildingModel.Distinct
import BuildingModel.Pattern.CharSet

/-!
# Expressions and what they match

An expression leads from a place in a text to the places after what it matches. It occurs in a text
when it leads from some place to some place.
-/
namespace BuildingModel.Pattern

/-- A condition on a place in a text that takes up no character; those on words name the set of the
characters that words are made of. -/
inductive Assertion
  | textStart
  | textEnd
  | lineStart
  | lineEnd
  | returnLineStart
  | returnLineEnd
  | boundary (parts : CharSet)
  | noBoundary (parts : CharSet)
  | wordStart (parts : CharSet)
  | wordEnd (parts : CharSet)
  | noWordBefore (parts : CharSet)
  | noWordAfter (parts : CharSet)
  deriving DecidableEq, Repr

/-- The character before a place. -/
def before? (text : Array Char) (i : Nat) : Option Char :=
  if i = 0 then none else text[i - 1]?

/-- Whether a character is there and in a set. -/
def holdsIn (s : CharSet) (c : Option Char) : Bool :=
  c.any s.contains

def Assertion.holds (text : Array Char) (a : Assertion) (i : Nat) : Bool :=
  let before := before? text i
  let after := text[i]?
  match a with
  | .textStart => i == 0
  | .textEnd => i == text.size
  | .lineStart => before.all (· == '\n')
  | .lineEnd => after.all (· == '\n')
  | .returnLineStart => before.all (· == '\n') || (before == some '\r' && after != some '\n')
  | .returnLineEnd =>
    after.all (· == '\r') || (after == some '\n' && before != some '\r')
  | .boundary w => holdsIn w before != holdsIn w after
  | .noBoundary w => holdsIn w before == holdsIn w after
  | .wordStart w => !holdsIn w before && holdsIn w after
  | .wordEnd w => holdsIn w before && !holdsIn w after
  | .noWordBefore w => !holdsIn w before
  | .noWordAfter w => !holdsIn w after

inductive Expression
  | empty
  | one (s : CharSet)
  | assertion (a : Assertion)
  | sequence (e f : Expression)
  | choice (e f : Expression)
  | repetition (e : Expression) (atLeast : Nat) (atMost : Option Nat)
  deriving DecidableEq, Repr

/-- The places that a number of steps from some places lead to. -/
def afterSteps (step : List Nat → List Nat) : Nat → List Nat → List Nat
  | 0, places => places
  | n + 1, places => afterSteps step n (step places)

/-- The places that at most a number of steps from some places lead to. -/
def withinSteps (step : List Nat → List Nat) : Nat → List Nat → List Nat
  | 0, places => places
  | n + 1, places => withinSteps step n (distinct (places ++ step places))

namespace Expression

/-- The places in a text that an expression leads to from some places. More repetitions than the
text has places lead nowhere else. -/
def reach (text : Array Char) : Expression → List Nat → List Nat
  | .empty, places => places
  | .one s, places =>
    places.filterMap fun i => if (text[i]?).any s.contains then some (i + 1) else none
  | .assertion a, places => places.filter (a.holds text)
  | .sequence e f, places => f.reach text (e.reach text places)
  | .choice e f, places => distinct (e.reach text places ++ f.reach text places)
  | .repetition e atLeast atMost, places =>
    let more :=
      match atMost with
      | none => text.size + 1
      | some n => min (n - atLeast) (text.size + 1)
    withinSteps (e.reach text) more (afterSteps (e.reach text) atLeast places)

def occursIn (e : Expression) (text : String) : Bool :=
  let cs := text.toList.toArray
  !(e.reach cs (List.range (cs.size + 1))).isEmpty

end Expression

end BuildingModel.Pattern
