import BuildingModel.Yaml.Cursor

/-!
# YAML scalars

The text of a scalar in each of its styles, and the place after it. Lines of plain and quoted
scalars are folded; those of block scalars are kept or folded, without their common indentation.
-/
namespace BuildingModel.Yaml

/-! ## Plain scalars -/

/-- The characters that delimit nodes within brackets. -/
def isFlowMark (c : Char) : Bool :=
  [',', '[', ']', '\x7b', '\x7d'].contains c

/-- The characters that a plain scalar does not start with, unless a word goes on after some. -/
def isIndicator (c : Char) : Bool :=
  isFlowMark c || "-?:#&*!|>'\"%@\x60".toList.contains c

def startsPlain (flow : Bool) : List Char → Bool
  | [] => false
  | c :: cs =>
    if isBlank c || isBreak c then false
    else if c = '-' then !cs.head?.any isBlank
    else if c = '?' || c = ':' then !flow && !endsWord cs
    else !isIndicator c

/-- The word of a plain scalar that starts here. Within brackets a colon may not stand before an
indicator. -/
def plainWord? (flow : Bool) : List Char → Option (List Char)
  | [] => some []
  | c :: cs =>
    if isBlank c || isBreak c || (c = ':' && endsWord cs) then some []
    else if flow && c = ':' && cs.head?.any (fun d => d = '?' || isFlowMark d) then none
    else if flow && isFlowMark c then some []
    else (plainWord? flow cs).map (c :: ·)

/-- The words of a plain scalar from here on, at most `steps` of them. -/
def plainFrom? (flow : Bool) (least : Nat) : Nat → Cursor → Option (List Char × Cursor)
  | 0, c => some ([], c)
  | steps + 1, c => do
    if c.atDocumentStart || c.atDocumentEnd || c.rest.head? = some '#' then some ([], c)
    else
      let word ← plainWord? flow c.rest
      if word.isEmpty then some ([], c)
      else
        let (gap, next) ← ((c.skip word.length).keys false).gap? least
        let next := next.keys !gap.breaks.isEmpty
        if gap.isEmpty || (!flow && next.column < least) then some (word, next)
        else
          let (more, last) ← plainFrom? flow least steps next
          if more.isEmpty then some (word, last)
          else some (word ++ gap.folded ++ more, last)

/-- A plain scalar; its lines after the first start at or after the column `least`. -/
def plain? (flow : Bool) (least : Nat) (c : Cursor) : Option (String × Cursor) :=
  (plainFrom? flow least (c.rest.length + 1) c).map fun (cs, next) => (String.ofList cs, next)

/-! ## Quoted scalars -/

def hexNumber? (ds : List Char) : Option Nat :=
  ds.foldlM (fun n d =>
    if d.isDigit then some (16 * n + (d.toNat - 48))
    else if 'a' ≤ d && d ≤ 'f' then some (16 * n + (d.toNat - 87))
    else if 'A' ≤ d && d ≤ 'F' then some (16 * n + (d.toNat - 55))
    else none) 0

/-- The characters that letters stand for after a backslash. -/
def escapedLetters : List (Char × Char) :=
  [('0', '\x00'), ('a', '\x07'), ('b', '\x08'), ('t', '\t'), ('\t', '\t'), ('n', '\n'),
    ('v', '\x0b'), ('f', '\x0c'), ('r', '\r'), ('e', '\x1b'), (' ', ' '), ('"', '"'), ('/', '/'),
    ('\\', '\\'), ('N', '\u0085'), ('_', '\u00a0'), ('L', '\u2028'), ('P', '\u2029')]

/-- How many digits follow a letter that announces the number of a character. -/
def escapeWidths : List (Char × Nat) := [('x', 2), ('u', 4), ('U', 8)]

/-- The character of an escape after its backslash, and the number of characters read. -/
def escaped? : List Char → Option (Char × Nat)
  | [] => none
  | e :: cs =>
    match escapeWidths.lookup e with
    | none => (escapedLetters.lookup e).map fun d => (d, 1)
    | some width => do
      if cs.length < width then none
      let n ← hexNumber? (cs.take width)
      if n.isValidChar then some (Char.ofNat n, width + 1) else none

/-- The text of a scalar between double quotes, from behind the opening one. -/
def doubleQuotedFrom? : Nat → Cursor → Option (List Char × Cursor)
  | 0, _ => none
  | steps + 1, c => do
    if c.atDocumentStart || c.atDocumentEnd then none
    match c.rest with
    | [] => none
    | '"' :: _ => some ([], (c.skip 1).keys false)
    | '\\' :: cs =>
      if cs.head?.any isBreak then
        let (gap, next) ← (c.skip 1).nextLine.gap? 0
        let (more, last) ← doubleQuotedFrom? steps next
        some (gap.breaks ++ more, last)
      else
        let (d, n) ← escaped? cs
        let (more, last) ← doubleQuotedFrom? steps (c.skip (n + 1))
        some (d :: more, last)
    | x :: _ =>
      if isBlank x || isBreak x then
        let (gap, next) ← c.gap? 0
        let (more, last) ← doubleQuotedFrom? steps next
        some (gap.folded ++ more, last)
      else
        let (more, last) ← doubleQuotedFrom? steps (c.skip 1)
        some (x :: more, last)

/-- The text of a scalar between single quotes, from behind the opening one. -/
def singleQuotedFrom? : Nat → Cursor → Option (List Char × Cursor)
  | 0, _ => none
  | steps + 1, c => do
    if c.atDocumentStart || c.atDocumentEnd then none
    match c.rest with
    | [] => none
    | '\'' :: '\'' :: _ =>
      let (more, last) ← singleQuotedFrom? steps (c.skip 2)
      some ('\'' :: more, last)
    | '\'' :: _ => some ([], (c.skip 1).keys false)
    | x :: _ =>
      if isBlank x || isBreak x then
        let (gap, next) ← c.gap? 0
        let (more, last) ← singleQuotedFrom? steps next
        some (gap.folded ++ more, last)
      else
        let (more, last) ← singleQuotedFrom? steps (c.skip 1)
        some (x :: more, last)

def quoted? (c : Cursor) : Option (String × Cursor) := do
  let read := if c.rest.head? = some '"' then doubleQuotedFrom? else singleQuotedFrom?
  let (cs, next) ← read (c.rest.length + 1) (c.skip 1)
  some (String.ofList cs, next)

/-! ## Block scalars -/

/-- What becomes of the line ends at the end of a block scalar. -/
inductive Chomping
  | strip
  | clip
  | keep
  deriving DecidableEq, Repr

def Chomping.ofSign? (c : Char) : Option Chomping :=
  if c = '+' then some .keep else if c = '-' then some .strip else none

def indentationDigit? (c : Char) : Option Nat :=
  if '1' ≤ c && c ≤ '9' then some (c.toNat - 48) else none

/-- What the marks behind the indicator of a block scalar say: a sign and a digit in any order. -/
def blockMarks? : List Char → Option (Chomping × Option Nat)
  | [] => some (.clip, none)
  | [a] => ((Chomping.ofSign? a).map (·, none)).or ((indentationDigit? a).map (.clip, some ·))
  | [a, b] =>
    match Chomping.ofSign? a with
    | some s => (indentationDigit? b).map (s, some ·)
    | none => (indentationDigit? a).bind fun n => (Chomping.ofSign? b).map (·, some n)
  | _ => none

/-- The empty lines from here on, the columns of their ends and the place after them. With no known
indentation all spaces count as such. -/
def emptyLines? (indentation : Option Nat) : Nat → Cursor → Option (List Char × Nat × Cursor)
  | 0, c => some ([], c.column, c)
  | steps + 1, c => do
    let spaces := (c.rest.takeWhile (· == ' ')).length
    let c := c.skip ((indentation.map fun n => min spaces (n - c.column)).getD spaces)
    match c.rest with
    | [] => some ([], c.column, c)
    | x :: _ =>
      if x = '\t' && indentation.all (c.column < ·) then none
      else if isBreak x then
        let (breaks, column, last) ← emptyLines? indentation steps c.nextLine
        some (x :: breaks, max c.column column, last)
      else some ([], c.column, c)

/-- The lines of a block scalar, with the last line end and what follows it set apart. -/
structure BlockText where
  body : List Char
  lastBreak : List Char
  trailing : List Char

/-- What stands between two lines of a block scalar: a single line end between lines that do not
start with a blank is folded. -/
def lineJoint (folds : Bool) (lastBreak trailing : List Char) (betweenWords : Bool) : List Char :=
  if folds && lastBreak == ['\n'] && betweenWords then
    if trailing.isEmpty then [' '] else trailing
  else lastBreak ++ trailing

/-- The lines of a block scalar from here on. -/
def blockLines? (folds : Bool) (indentation : Nat) :
    Nat → Cursor → List Char → List Char → Bool → Option (BlockText × Cursor)
  | 0, c, lastBreak, trailing, _ => some (⟨[], lastBreak, trailing⟩, c)
  | steps + 1, c, lastBreak, trailing, afterBlank => do
    if c.column = indentation && !c.rest.isEmpty then
      let startsBlank := c.rest.head?.any isBlank
      let line := c.rest.takeWhile (!isBreak ·)
      let ended := c.skip line.length
      let lineEnd := ended.rest.take 1
      let next := if lineEnd.isEmpty then ended else ended.nextLine
      let (breaks, _, next) ← emptyLines? (some indentation) (next.rest.length + 1) next
      let (text, last) ← blockLines? folds indentation steps next lineEnd breaks startsBlank
      some (⟨lineJoint folds lastBreak trailing (!afterBlank && !startsBlank) ++ line ++ text.body,
        text.lastBreak, text.trailing⟩, last)
    else some (⟨[], lastBreak, trailing⟩, c)

/-- The text of a block scalar with its end as asked for. -/
def BlockText.chomped (t : BlockText) : Chomping → List Char
  | .strip => t.body
  | .clip => t.body ++ t.lastBreak
  | .keep => t.body ++ t.lastBreak ++ t.trailing

/-- A block scalar at its indicator; its lines start at or after the column `least`. -/
def block? (least : Nat) (c : Cursor) : Option (String × Cursor) := do
  let folds := c.rest.head? == some '>'
  let c := c.skip 1
  let marks := c.rest.takeWhile fun x => x == '+' || x == '-' || x.isDigit
  let (chomping, increment) ← blockMarks? marks
  let c := c.skip marks.length
  let c := c.skip (c.rest.takeWhile isBlank).length
  let c := if c.rest.head? = some '#' then c.skip (c.rest.takeWhile (!isBreak ·)).length else c
  let c ←
    match c.rest with
    | [] => some c
    | x :: _ => if isBreak x then some c.nextLine else none
  let known := increment.map fun n => least - 1 + n
  let (breaks, column, c) ← emptyLines? known (c.rest.length + 1) c
  let indentation := known.getD (max 1 (max least column))
  let (text, next) ← blockLines? folds indentation (c.rest.length + 1) c [] breaks false
  some (String.ofList (text.chomped chomping), next.keys true)

end BuildingModel.Yaml
