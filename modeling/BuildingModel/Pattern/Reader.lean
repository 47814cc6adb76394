import BuildingModel.Pattern.Expression

/-!
# Reading patterns

Alternatives, groups, classes and repetitions, with flags that hold to the end of the group they are
set in. Neither references to groups nor conditions on what surrounds a match are patterns.
-/
namespace BuildingModel.Pattern

/-- What the letters of a pattern mean at some place of it. -/
structure Flags where
  caseless : Bool
  /-- Whether anchors hold at each line. -/
  lines : Bool
  /-- Whether the point matches line ends. -/
  anyChar : Bool
  /-- Whether classes know more than ASCII. -/
  wide : Bool
  /-- Whether a carriage return ends lines too. -/
  returns : Bool
  /-- Whether blanks and comments are skipped. -/
  spaced : Bool
  deriving DecidableEq, Repr

namespace Flags

/-- The flags in force where none is set. -/
def standard : Flags := ⟨false, false, false, true, false, false⟩

/-- The flags after one is set or cleared by its letter; the letter that exchanges eager and lazy
repetitions makes no difference to whether a pattern occurs. -/
def set? (f : Flags) (letter : Char) (value : Bool) : Option Flags :=
  match letter with
  | 'i' => some { f with caseless := value }
  | 'm' => some { f with lines := value }
  | 's' => some { f with anyChar := value }
  | 'u' => some { f with wide := value }
  | 'R' => some { f with returns := value }
  | 'x' => some { f with spaced := value }
  | 'U' => some f
  | _ => none

/-- Reads letters, of which those after a minus sign are cleared, up to a colon or a parenthesis.
No letter and no sign comes twice, and a letter follows the sign. -/
def read? (f : Flags) (seen : List Char) : List Char → Option (Flags × Char × List Char)
  | [] => none
  | c :: cs =>
    if c = ':' || c = ')' then
      if seen.head? = some '-' || (c = ')' && seen.isEmpty) then none else some (f, c, cs)
    else if seen.contains c then none
    else if c = '-' then read? f (c :: seen) cs
    else (f.set? c (!seen.contains '-')).bind fun g => read? g (c :: seen) cs

end Flags

/-- What is left of a pattern, and the names of the groups before. -/
structure Progress where
  rest : List Char
  names : List String

/-- A step of reading, or none where the pattern is wrong. -/
abbrev Reader := StateT Progress Option

def remaining : Reader (List Char) :=
  return (← get).rest

def goTo (cs : List Char) : Reader Unit :=
  modify fun p => { p with rest := cs }

/-- What is left when blanks and comments are skipped. -/
def skipBlank (inComment : Bool) : List Char → List Char
  | [] => []
  | c :: cs =>
    if inComment then skipBlank (c != '\n') cs
    else if Text.isBlank c then skipBlank false cs
    else if c = '#' then skipBlank true cs
    else c :: cs

def skip (f : Flags) : Reader Unit :=
  modify fun p => if f.spaced then { p with rest := skipBlank false p.rest } else p

def next : Reader Char := do
  match ← remaining with
  | [] => failure
  | c :: cs =>
    goTo cs
    return c

def hexValue? (ds : List Char) : Option Nat :=
  ds.foldlM (fun n c =>
    if c.isDigit then some (16 * n + (c.toNat - 48))
    else if 'a' ≤ c && c ≤ 'f' then some (16 * n + (c.toNat - 87))
    else if 'A' ≤ c && c ≤ 'F' then some (16 * n + (c.toNat - 55))
    else none) 0

def charOf? (n : Nat) : Option Char :=
  if n.isValidChar then some (Char.ofNat n) else none

/-- A character by its number: a fixed count of digits, or digits between braces. -/
def numberedChar (count : Nat) : Reader Char := do
  let cs ← remaining
  match cs with
  | '\x7b' :: more =>
    let ds := more.takeWhile (· != '\x7d')
    match more.dropWhile (· != '\x7d') with
    | [] => failure
    | _ :: rest =>
      if ds.isEmpty then failure
      goTo rest
      (hexValue? ds).bind charOf?
  | _ =>
    if cs.length < count then failure
    goTo (cs.drop count)
    (hexValue? (cs.take count)).bind charOf?

/-- What an escape or a plain character stands for. -/
inductive Atom
  | char (c : Char)
  | byte (c : Char)
  | set (s : CharSet)
  | assertion (a : Assertion)

def wordSet (f : Flags) : CharSet :=
  if f.wide then .word
  else CharSet.unions [.range 0x30 0x39, .range 0x41 0x5A, .range 0x5F 0x5F, .range 0x61 0x7A]

/-- The class of a letter after a backslash. -/
def letterSet? (f : Flags) (c : Char) : Option CharSet :=
  let digits := if f.wide then .digit else .range 0x30 0x39
  let blanks := if f.wide then .blank else .union (.range 9 13) (.range 0x20 0x20)
  match c with
  | 'd' => some digits
  | 'D' => some (.complement digits)
  | 's' => some blanks
  | 'S' => some (.complement blanks)
  | 'w' => some (wordSet f)
  | 'W' => some (.complement (wordSet f))
  | _ => none

/-- The assertion that a name in braces makes of a word boundary, if a name follows. -/
def boundary (f : Flags) : Reader Assertion := do
  let parts := wordSet f
  match ← remaining with
  | '\x7b' :: more =>
    let isNameChar (c : Char) : Bool := c.isAlpha || c == '-'
    let name := more.takeWhile isNameChar
    if name.isEmpty then
      if more.isEmpty then failure else return .boundary parts
    match more.dropWhile isNameChar with
    | '\x7d' :: rest =>
      goTo rest
      match String.ofList name with
      | "start" => return .wordStart parts
      | "end" => return .wordEnd parts
      | "start-half" => return .noWordBefore parts
      | "end-half" => return .noWordAfter parts
      | _ => failure
    | _ => failure
  | _ => return .boundary parts

/-- A set without regard to case, if the flags say so. -/
def inCase (f : Flags) (s : CharSet) : CharSet :=
  if !f.caseless then s
  else if f.wide then .caseless s
  else .union s (.intersection (.caseless s) (.range 0 0x7F))

/-- The class of characters with a property that is written between braces, as a name or as a name
and a value. -/
def propertySet? (written : List Char) : Option CharSet :=
  let isSign (c : Char) : Bool := c == '=' || c == ':' || c == '!'
  let name := String.ofList (written.takeWhile (!isSign ·))
  match written.dropWhile (!isSign ·) with
  | [] => CharSet.withProperty? name
  | '!' :: '=' :: v => (CharSet.withValue? name (String.ofList v)).map .complement
  | '!' :: _ => none
  | _ :: v => CharSet.withValue? name (String.ofList v)

/-- The class of characters with a property, of one letter or between braces. -/
def property (f : Flags) (negated : Bool) : Reader CharSet := do
  if !f.wide then failure
  let written ← match ← remaining with
    | '\x7b' :: more =>
      goTo ((more.dropWhile (· != '\x7d')).drop 1)
      if more.contains '\x7d' then pure (more.takeWhile (· != '\x7d')) else failure
    | c :: more =>
      goTo more
      if c = '\\' then failure else pure [c]
    | [] => failure
  let s ← propertySet? written
  return if negated then .complement (inCase f s) else inCase f s

def escape (f : Flags) : Reader Atom := do
  let c ← next
  match c with
  | 'x' => return (← byteOrChar 2)
  | 'u' => return .char (← numberedChar 4)
  | 'U' => return .char (← numberedChar 8)
  | 'a' => return .char '\x07'
  | 'f' => return .char '\x0c'
  | 't' => return .char '\t'
  | 'n' => return .char '\n'
  | 'r' => return .char '\r'
  | 'v' => return .char '\x0b'
  | 'A' => return .assertion .textStart
  | 'z' => return .assertion .textEnd
  | 'b' => return .assertion (← boundary f)
  | 'B' => return .assertion (.noBoundary (wordSet f))
  | '<' => return .assertion (.wordStart (wordSet f))
  | '>' => return .assertion (.wordEnd (wordSet f))
  | 'p' => return .set (← property f false)
  | 'P' => return .set (← property f true)
  | _ =>
    match letterSet? f c with
    | some s => return .set s
    | none => if c.toNat < 0x80 && !c.isAlphanum then return .char c else failure
where
  /-- A number of two digits or in braces; a small one is a byte where classes are narrow. -/
  byteOrChar (count : Nat) : Reader Atom := do
    let c ← numberedChar count
    return if c.toNat < 0x100 then .byte c else .char c

/-- A set as an expression. Where classes are narrow, a set with anything beyond ASCII is none. -/
def setExpression? (f : Flags) (s : CharSet) : Option Expression :=
  if f.wide || (List.range 0x80).all (fun n => !s.containsCode (n + 0x80)) then some (.one s)
  else none

def atomExpression? (f : Flags) : Atom → Option Expression
  | .char c => some (.one (inCase f (.single c)))
  | .byte c =>
    if !f.wide && 0x7F < c.toNat then none else some (.one (inCase f (.single c)))
  | .set s => setExpression? f s
  | .assertion a => some (.assertion a)

/-- A named class of ASCII after an opening bracket, and what follows it. -/
def namedSet? (f : Flags) : List Char → Option (CharSet × List Char)
  | ':' :: cs =>
    let negated := cs.head? == some '^'
    let body := if negated then cs.drop 1 else cs
    match body.dropWhile (· != ':') with
    | ':' :: ']' :: rest =>
      (CharSet.ascii? (String.ofList (body.takeWhile (· != ':')))).map fun s =>
        (if negated then .complement (inCase f s) else inCase f s, rest)
    | _ => none
  | _ => none

def setAtom (f : Flags) : Reader Atom := do
  let c ← next
  if c = '\\' then escape f else return .char c

/-- The number of the character that ends a range. -/
def rangeEnd? (f : Flags) : Atom → Option Nat
  | .char c => if f.wide || c.toNat < 0x80 then some c.toNat else none
  | .byte c => some c.toNat
  | _ => none

def atomSet? (f : Flags) (a : Atom) : Option CharSet :=
  match a with
  | .set s => some s
  | .assertion _ => none
  | _ => (rangeEnd? f a).map fun n => inCase f (.range n n)

def setRange (f : Flags) : Reader CharSet := do
  let low ← setAtom f
  skip f
  match ← remaining with
  | [] => failure
  | '-' :: more =>
    let after := if f.spaced then skipBlank false more else more
    match after with
    | [] => failure
    | c :: _ =>
      if c = ']' || c = '-' then atomSet? f low
      else
        goTo after
        let high ← setAtom f
        let low ← rangeEnd? f low
        let high ← rangeEnd? f high
        if low ≤ high then return inCase f (.range low high) else failure
  | _ => atomSet? f low

/-- A set operation that waits for its second operand. -/
abbrev Pending := Option ((CharSet → CharSet → CharSet) × CharSet)

/-- The set of the elements read so far. -/
def settle (pending : Pending) (elements : List CharSet) : CharSet :=
  let s := CharSet.unions elements.reverse
  match pending with
  | none => s
  | some (operation, t) => operation t s

/-- Literal minus signs at the start of a class. -/
def leadingMinus (f : Flags) : Nat → List CharSet → Reader (List CharSet)
  | 0, elements => return elements
  | steps + 1, elements => do
    match ← remaining with
    | '-' :: more =>
      goTo more
      skip f
      leadingMinus f steps (inCase f (.single '-') :: elements)
    | _ => return elements

/-- What is between the brackets of a class after the opening one. -/
def setStart (f : Flags) : Reader (Bool × List CharSet) := do
  skip f
  let cs ← remaining
  let negated := cs.head? == some '^'
  if negated then
    goTo (cs.drop 1)
    skip f
  let elements ← leadingMinus f cs.length []
  match ← remaining with
  | ']' :: more =>
    if elements.isEmpty then
      goTo more
      return (negated, [.single ']'])
    else return (negated, elements)
  | _ => return (negated, elements)

/-- The elements of a class up to the closing bracket. -/
def setBody (f : Flags) (negated : Bool) : Nat → Pending → List CharSet → Reader CharSet
  | 0, _, _ => failure
  | steps + 1, pending, elements => do
    skip f
    let operate (operation : CharSet → CharSet → CharSet) (rest : List Char) : Reader CharSet := do
      goTo rest
      setBody f negated steps (some (operation, settle pending elements)) []
    match ← remaining with
    | [] => failure
    | ']' :: rest =>
      goTo rest
      let s := settle pending elements
      return if negated then .complement s else s
    | '&' :: '&' :: rest => operate .intersection rest
    | '-' :: '-' :: rest => operate .difference rest
    | '~' :: '~' :: rest => operate .symmetricDifference rest
    | '[' :: rest =>
      match namedSet? f rest with
      | some (s, rest) =>
        goTo rest
        setBody f negated steps pending (s :: elements)
      | none =>
        goTo rest
        let (inner, first) ← setStart f
        let s ← setBody f inner steps none first
        setBody f negated steps pending (s :: elements)
    | _ =>
      let s ← setRange f
      setBody f negated steps pending (s :: elements)

def maxRepetition : Nat := Nat.pow 2 32 - 1

/-- A count of repetitions, if there is one. -/
def repetitionCount : Reader (Option Nat) := do
  let cs := (← remaining).dropWhile Text.isBlank
  let ds := cs.takeWhile Char.isDigit
  goTo ((cs.dropWhile Char.isDigit).dropWhile Text.isBlank)
  if ds.isEmpty then return none
  let n := ds.foldl (fun n c => 10 * n + (c.toNat - 48)) 0
  if n ≤ maxRepetition then return some n else failure

/-- The counts of a repetition after the opening brace. -/
def repetitionCounts (f : Flags) : Reader (Nat × Option Nat) := do
  skip f
  let low ← repetitionCount
  match ← next with
  | '\x7d' =>
    let low ← low
    return (low, some low)
  | ',' =>
    skip f
    let low ← low
    match ← remaining with
    | '\x7d' :: rest =>
      goTo rest
      return (low, none)
    | _ =>
      let high ← repetitionCount
      let high ← high
      if (← next) != '\x7d' then failure
      if low ≤ high then return (low, some high) else failure
  | _ => failure

def skipLazy (f : Flags) : Reader Unit := do
  skip f
  match ← remaining with
  | '?' :: rest => goTo rest
  | _ => return ()

inductive GroupStart
  | setting (f : Flags)
  | group (f : Flags)

/-- Whether a character may stand in the name of a group. -/
def isNameChar (first : Bool) (c : Char) : Bool :=
  c == '_' ||
    if first then Text.isWordChar c && !Text.isDecimalDigit c
    else Text.isWordChar c || c == '.' || c == '[' || c == ']'

/-- The name of a group up to the closing angle bracket; no two groups have one name. -/
def groupName : Reader Unit := do
  let cs ← remaining
  let name := cs.takeWhile (· != '>')
  match name, cs.dropWhile (· != '>') with
  | c :: tail, _ :: rest =>
    if !(isNameChar true c && tail.all (isNameChar false)) then failure
    if (← get).names.contains (String.ofList name) then failure
    modify fun p => ⟨rest, String.ofList name :: p.names⟩
  | _, _ => failure

def groupStart (f : Flags) : Reader GroupStart := do
  skip f
  match ← remaining with
  | '?' :: '=' :: _ => failure
  | '?' :: '!' :: _ => failure
  | '?' :: '<' :: '=' :: _ => failure
  | '?' :: '<' :: '!' :: _ => failure
  | '?' :: 'P' :: '<' :: rest =>
    goTo rest
    groupName
    return .group f
  | '?' :: '<' :: rest =>
    goTo rest
    groupName
    return .group f
  | '?' :: rest =>
    let (g, close, rest) ← f.read? [] rest
    goTo rest
    return if close = ')' then .setting g else .group g
  | _ => return .group f

/-- The sequence of items in reverse; a setting of flags matches nothing. -/
def sequenceOf (items : List (Option Expression)) : Expression :=
  items.foldl (fun e item =>
    match item, e with
    | none, e => e
    | some i, .empty => i
    | some i, e => .sequence i e) .empty

/-- The choice between alternatives in reverse. -/
def choiceOf (last : Expression) (earlier : List Expression) : Expression :=
  earlier.foldl (fun e a => .choice a e) last

/-- A character that is not part of a longer item. -/
def plainItem? (f : Flags) (c : Char) : Option Expression :=
  match c with
  | '.' =>
    let ends := if f.returns then .union (.single '\r') (.single '\n') else .single '\n'
    if !f.wide then none
    else some (.one (if f.anyChar then .complement .none else .complement ends))
  | '^' =>
    some (.assertion
      (if !f.lines then .textStart else if f.returns then .returnLineStart else .lineStart))
  | '$' =>
    some (.assertion
      (if !f.lines then .textEnd else if f.returns then .returnLineEnd else .lineEnd))
  | c => some (.one (if !f.wide && 0x7F < c.toNat then .single c else inCase f (.single c)))

/-- The last item with a repetition of it in its place; there must be one to repeat. -/
def repeatLast? (items : List (Option Expression)) (low : Nat) (high : Option Nat) :
    Option (List (Option Expression)) :=
  match items with
  | some e :: before => some (some (.repetition e low high) :: before)
  | _ => none

/-- The items of a group to its end, of which some alternatives and items have been read. -/
def items (nested : Bool) : Nat → Flags → List Expression → List (Option Expression) →
    Reader Expression
  | 0, _, _, _ => failure
  | steps + 1, f, earlier, before => do
    skip f
    match ← remaining with
    | [] =>
      if nested then failure
      return choiceOf (sequenceOf before) earlier
    | c :: rest =>
      goTo rest
      match c with
      | ')' =>
        if !nested then failure
        return choiceOf (sequenceOf before) earlier
      | '|' => items nested steps f (sequenceOf before :: earlier) []
      | '(' =>
        match ← groupStart f with
        | .setting g => items nested steps g earlier (none :: before)
        | .group g =>
          let e ← items true steps g [] []
          items nested steps f earlier (some e :: before)
      | '[' =>
        let (negated, first) ← setStart f
        let s ← setBody f negated steps none first
        let e ← setExpression? f s
        items nested steps f earlier (some e :: before)
      | '?' =>
        let before ← repeatLast? before 0 (some 1)
        skipLazy f
        items nested steps f earlier before
      | '*' =>
        let before ← repeatLast? before 0 none
        skipLazy f
        items nested steps f earlier before
      | '+' =>
        let before ← repeatLast? before 1 none
        skipLazy f
        items nested steps f earlier before
      | '\x7b' =>
        let (low, high) ← repetitionCounts f
        let before ← repeatLast? before low high
        skipLazy f
        items nested steps f earlier before
      | '\\' =>
        let a ← escape f
        let e ← atomExpression? f a
        items nested steps f earlier (some e :: before)
      | c =>
        let e ← plainItem? f c
        items nested steps f earlier (some e :: before)

namespace Expression

def parse? (text : String) : Option Expression :=
  let cs := text.toList
  (items false (cs.length + 1) .standard [] []).run' ⟨cs, []⟩

end Expression

end BuildingModel.Pattern
