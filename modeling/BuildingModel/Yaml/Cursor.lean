/-!
# Places in a YAML text

A place is given by what follows it, by its line and column, and by whether a key may start there:
after the start of a line it may, after a value on the same line it may not. The lines of the text
are ended by one character each.
-/
namespace BuildingModel.Yaml

def isBreak (c : Char) : Bool :=
  c == '\n' || c == '\u2028' || c == '\u2029'

/-- Whether a character separates words on a line. -/
def isBlank (c : Char) : Bool :=
  c == ' ' || c == '\t'

/-- Whether a character may stand in a text at all. -/
def isAllowed (c : Char) : Bool :=
  let n := c.toNat
  n == 0x09 || n == 0x0A || n == 0x0D || n == 0x85 || (0x20 ≤ n && n ≤ 0x7E) ||
    (0xA0 ≤ n && n ≤ 0xFFFD && n != 0xFEFF) || 0x10000 ≤ n

/-- Whether nothing more of a word follows. -/
def endsWord : List Char → Bool
  | [] => true
  | c :: _ => isBlank c || isBreak c

/-- The characters of a text with each common line end as one line feed. -/
def unifyBreaks : List Char → List Char
  | '\r' :: '\n' :: cs => '\n' :: unifyBreaks cs
  | '\r' :: cs => '\n' :: unifyBreaks cs
  | '\u0085' :: cs => '\n' :: unifyBreaks cs
  | c :: cs => c :: unifyBreaks cs
  | [] => []

structure Cursor where
  rest : List Char
  offset : Nat
  line : Nat
  column : Nat
  /-- Whether a key may start here. -/
  startsKey : Bool

namespace Cursor

def start (cs : List Char) : Cursor := ⟨cs, 0, 0, 0, true⟩

/-- The place some characters further on the same line. -/
def skip (c : Cursor) (n : Nat) : Cursor :=
  { c with rest := c.rest.drop n, offset := c.offset + n, column := c.column + n }

/-- The start of the next line, from the end of a line. -/
def nextLine (c : Cursor) : Cursor :=
  { c with rest := c.rest.drop 1, offset := c.offset + 1, line := c.line + 1, column := 0 }

/-- The same place, where a key may or may not start. -/
def keys (c : Cursor) (startsKey : Bool) : Cursor := { c with startsKey := startsKey }

/-- Whether a line starts here with a mark that stands alone. -/
def atMark (c : Cursor) (mark : List Char) : Bool :=
  c.column == 0 && mark.isPrefixOf c.rest && endsWord (c.rest.drop mark.length)

def atDocumentStart (c : Cursor) : Bool := c.atMark ['-', '-', '-']

def atDocumentEnd (c : Cursor) : Bool := c.atMark ['.', '.', '.']

def atEnd (c : Cursor) : Bool := c.rest.isEmpty || c.atDocumentStart || c.atDocumentEnd

/-- Whether an indicator stands alone here. -/
def atIndicator (c : Cursor) (indicator : Char) : Bool :=
  c.rest.head? == some indicator && endsWord (c.rest.drop 1)

/-- The next place with something other than blanks and comments, at most `steps` of them on. A tab
is no indentation, and outside of brackets a key may start on each new line. -/
def toTokenIn (flow : Bool) : Nat → Cursor → Cursor
  | 0, c => c
  | steps + 1, c =>
    match c.rest with
    | [] => c
    | x :: _ =>
      if x = ' ' || (x = '\t' && (flow || !c.startsKey)) then toTokenIn flow steps (c.skip 1)
      else if x = '#' then
        toTokenIn flow steps (c.skip (c.rest.takeWhile (!isBreak ·)).length)
      else if isBreak x then toTokenIn flow steps (c.nextLine.keys (c.startsKey || !flow))
      else c

/-- The next place with something other than blanks and comments, within brackets or not. -/
def toToken (c : Cursor) (flow : Bool) : Cursor := toTokenIn flow (c.rest.length + 1) c

end Cursor

/-- What separates two words of a text: the blanks before a line end, and the line ends. -/
structure Gap where
  blanks : List Char
  breaks : List Char

namespace Gap

/-- What the gap contributes to a text: a single line end is a space, and of several the first does
not count. -/
def folded (g : Gap) : List Char :=
  match g.breaks with
  | [] => g.blanks
  | ['\n'] => [' ']
  | '\n' :: more => more
  | breaks => breaks

def isEmpty (g : Gap) : Bool := g.blanks.isEmpty && g.breaks.isEmpty

end Gap

namespace Cursor

/-- A gap and the place after it. There is none if a tab stands before the least column of a
line. -/
def gapFrom? (least : Nat) : Nat → Gap → Cursor → Option (Gap × Cursor)
  | 0, g, c => some (g, c)
  | steps + 1, g, c =>
    match c.rest with
    | [] => some (g, c)
    | x :: _ =>
      if isBreak x then gapFrom? least steps ⟨g.blanks, g.breaks ++ [x]⟩ c.nextLine
      else if isBlank x then
        if g.breaks.isEmpty then gapFrom? least steps ⟨g.blanks ++ [x], g.breaks⟩ (c.skip 1)
        else if x = '\t' && c.column < least then none
        else gapFrom? least steps g (c.skip 1)
      else some (g, c)

def gap? (c : Cursor) (least : Nat) : Option (Gap × Cursor) :=
  gapFrom? least (c.rest.length + 1) ⟨[], []⟩ c

end Cursor

end BuildingModel.Yaml
