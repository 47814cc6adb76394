import BuildingModel.Json.Value

/-!
# Reading JSON

One value with blanks around it. Strings hold no bare control characters, escaped halves of a
character come in pairs, and values are nested at most as deep as `maxDepth`.
-/
namespace BuildingModel.Json

/-- Whether a character may stand between values. -/
def isSpace (c : Char) : Bool :=
  c == ' ' || c == '\n' || c == '\t' || c == '\r'

/-- What follows the blanks at the start of a text. -/
def dropSpace (cs : List Char) : List Char := cs.dropWhile isSpace

def maxDepth : Nat := 127

def hexDigit? (c : Char) : Option Nat :=
  if c.isDigit then some (c.toNat - 48)
  else if 'a' ≤ c && c ≤ 'f' then some (c.toNat - 87)
  else if 'A' ≤ c && c ≤ 'F' then some (c.toNat - 55)
  else none

/-- The value of four hexadecimal digits, and what follows them. -/
def hexUnit? : List Char → Option (Nat × List Char)
  | a :: b :: c :: d :: cs => do
    let a ← hexDigit? a
    let b ← hexDigit? b
    let c ← hexDigit? c
    let d ← hexDigit? d
    some (((a * 16 + b) * 16 + c) * 16 + d, cs)
  | _ => none

/-- The character of an escaped number, of which the upper half of a pair has been read. -/
def escapedUnit? (cs : List Char) : Option (Char × List Char) := do
  let (n, cs) ← hexUnit? cs
  if 0xD800 ≤ n && n ≤ 0xDBFF then
    match cs with
    | '\\' :: 'u' :: more =>
      let (m, cs) ← hexUnit? more
      if 0xDC00 ≤ m && m ≤ 0xDFFF then
        some (Char.ofNat (0x10000 + (n - 0xD800) * 0x400 + (m - 0xDC00)), cs)
      else none
    | _ => none
  else if 0xDC00 ≤ n && n ≤ 0xDFFF then none
  else some (Char.ofNat n, cs)

/-- The character that a letter after a backslash stands for. -/
def escapedLetter? (c : Char) : Option Char :=
  [('"', '"'), ('\\', '\\'), ('/', '/'), ('b', '\x08'), ('f', '\x0c'), ('n', '\n'), ('r', '\r'),
    ('t', '\t')].lookup c

/-- The characters of a string up to its closing quote; `steps` bounds their number. -/
def stringBody? : Nat → List Char → Option (List Char × List Char)
  | 0, _ => none
  | _, [] => none
  | steps + 1, c :: cs =>
    if c = '"' then some ([], cs)
    else if c.toNat < 0x20 then none
    else if c = '\\' then
      match cs with
      | 'u' :: more => do
        let (d, rest) ← escapedUnit? more
        let (ds, rest) ← stringBody? steps rest
        some (d :: ds, rest)
      | e :: more => do
        let d ← escapedLetter? e
        let (ds, rest) ← stringBody? steps more
        some (d :: ds, rest)
      | [] => none
    else do
      let (ds, rest) ← stringBody? steps cs
      some (c :: ds, rest)

/-- A string after its opening quote. -/
def string? (cs : List Char) : Option (String × List Char) :=
  (stringBody? (cs.length + 1) cs).map fun (ds, rest) => (String.ofList ds, rest)

/-- Digits, at least one, and what follows them. -/
def digits? (cs : List Char) : Option (List Char × List Char) :=
  let ds := cs.takeWhile Char.isDigit
  if ds.isEmpty then none else some (ds, cs.dropWhile Char.isDigit)

/-- A number: a whole part without needless zeros, then a fraction and an exponent if there are
any. -/
def number? (cs : List Char) : Option (String × List Char) := do
  let (sign, unsigned) := if cs.head? = some '-' then (['-'], cs.drop 1) else ([], cs)
  let (whole, rest) ← digits? unsigned
  if 1 < whole.length && whole.head? == some '0' then none
  let (fraction, rest) ←
    match rest with
    | '.' :: more => (digits? more).map fun (ds, rest) => ('.' :: ds, rest)
    | _ => some ([], rest)
  let (exponent, rest) ←
    match rest with
    | e :: more =>
      if e = 'e' || e = 'E' then
        let (s, more) :=
          match more with
          | '+' :: more => (['+'], more)
          | '-' :: more => (['-'], more)
          | _ => ([], more)
        (digits? more).map fun (ds, rest) => (e :: s ++ ds, rest)
      else some ([], rest)
    | [] => some ([], [])
  some (String.ofList (sign ++ whole ++ fraction ++ exponent), rest)

/-- What follows a word at the start of a text. -/
def afterWord? (word : List Char) (cs : List Char) : Option (List Char) :=
  if word.isPrefixOf cs then some (cs.drop word.length) else none

mutual

/-- A value and what follows it; `steps` bounds its parts, and `depth` how deep they are nested. -/
def value? : Nat → Nat → List Char → Option (Value × List Char)
  | 0, _, _ => none
  | steps + 1, depth, cs =>
    match cs with
    | '"' :: cs => (string? cs).map fun (s, rest) => (.string s, rest)
    | '[' :: cs =>
      if depth = 0 then none
      else
        match dropSpace cs with
        | ']' :: rest => some (.array [], rest)
        | cs => (elements? steps (depth - 1) cs).map fun (vs, rest) => (.array vs, rest)
    | '\x7b' :: cs =>
      if depth = 0 then none
      else
        match dropSpace cs with
        | '\x7d' :: rest => some (.object [], rest)
        | cs => (members? steps (depth - 1) cs).map fun (ms, rest) => (.object ms, rest)
    | 'n' :: _ => (afterWord? ['n', 'u', 'l', 'l'] cs).map fun rest => (.null, rest)
    | 't' :: _ => (afterWord? ['t', 'r', 'u', 'e'] cs).map fun rest => (.boolean true, rest)
    | 'f' :: _ => (afterWord? ['f', 'a', 'l', 's', 'e'] cs).map fun rest => (.boolean false, rest)
    | _ => (number? cs).map fun (text, rest) => (.number text, rest)

/-- The elements of a list, at least one, up to the closing bracket. -/
def elements? : Nat → Nat → List Char → Option (List Value × List Char)
  | 0, _, _ => none
  | steps + 1, depth, cs => do
    let (v, rest) ← value? steps depth (dropSpace cs)
    match dropSpace rest with
    | ']' :: rest => some ([v], rest)
    | ',' :: more =>
      let (vs, rest) ← elements? steps depth more
      some (v :: vs, rest)
    | _ => none

/-- The members of an object, at least one, up to the closing brace. -/
def members? : Nat → Nat → List Char → Option (List (String × Value) × List Char)
  | 0, _, _ => none
  | steps + 1, depth, cs =>
    match dropSpace cs with
    | '"' :: cs => do
      let (name, rest) ← string? cs
      match dropSpace rest with
      | ':' :: more =>
        let (v, rest) ← value? steps depth (dropSpace more)
        match dropSpace rest with
        | '\x7d' :: rest => some ([(name, v)], rest)
        | ',' :: more =>
          let (ms, rest) ← members? steps depth more
          some ((name, v) :: ms, rest)
        | _ => none
      | _ => none
    | _ => none

end

def parse? (text : String) : Option Value :=
  let cs := dropSpace text.toList
  (value? (2 * cs.length + 2) maxDepth cs).bind fun (v, rest) =>
    if (dropSpace rest).isEmpty then some v else none

end BuildingModel.Json
