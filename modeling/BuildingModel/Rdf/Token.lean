import BuildingModel.Rdf.Language
import BuildingModel.Rdf.Name
import BuildingModel.Rdf.Vocabulary

/-!
# Tokens of graph syntaxes

The words of the graph syntaxes: IRIs, names, labels, texts, numbers, language tags and marks.
Blanks and comments stand between them. All syntaxes share the words and differ in how they join
them.
-/
namespace BuildingModel.Rdf

/-- A word of a graph syntax. -/
inductive Token
  /-- The text of an IRI or of a reference that is relative to one. -/
  | iri (text : String)
  /-- A name with the prefix that scopes it; `doubtful` if the IRI it makes has to be checked. -/
  | scoped (scope name : String) (doubtful : Bool)
  | label (text : String)
  /-- A text; `simple` if it stands between single double quotes. -/
  | text (text : String) (simple : Bool)
  | number (text : String) (datatype : Iri)
  | language (tag : String)
  | keyword (text : String)
  | mark (c : Char)
  /-- The mark between a text and its datatype. -/
  | datatypeMark
  deriving DecidableEq, Repr

namespace Token

def hexValue? (c : Char) : Option Nat :=
  if '0' ≤ c ∧ c ≤ '9' then some (c.toNat - 48)
  else if 'a' ≤ c ∧ c ≤ 'f' then some (c.toNat - 87)
  else if 'A' ≤ c ∧ c ≤ 'F' then some (c.toNat - 55)
  else none

def hexNumber? (cs : List Char) : Option Nat :=
  cs.foldl (fun n? c => n?.bind fun n => (hexValue? c).map (16 * n + ·)) (some 0)

def charOf? (n : Nat) : Option Char :=
  if n < 0xD800 ∨ (0xDFFF < n ∧ n < 0x110000) then some (Char.ofNat n) else none

/-- The character that four or eight hexadecimal digits stand for, after the letter that tells
their number. -/
def codePoint? : List Char → Option (Char × List Char)
  | 'u' :: a :: b :: c :: d :: cs =>
    ((hexNumber? [a, b, c, d]).bind charOf?).map (·, cs)
  | 'U' :: a :: b :: c :: d :: e :: f :: g :: h :: cs =>
    ((hexNumber? [a, b, c, d, e, f, g, h]).bind charOf?).map (·, cs)
  | _ => none

/-- The character that an escape in a text stands for, after its backslash. -/
def escaped? : List Char → Option (Char × List Char)
  | 't' :: cs => some ('\t', cs)
  | 'b' :: cs => some ('\x08', cs)
  | 'n' :: cs => some ('\n', cs)
  | 'r' :: cs => some ('\r', cs)
  | 'f' :: cs => some ('\x0c', cs)
  | '"' :: cs => some ('"', cs)
  | '\'' :: cs => some ('\'', cs)
  | '\\' :: cs => some ('\\', cs)
  | cs => codePoint? cs

theorem length_of_codePoint? {cs rest : List Char} {c : Char}
    (h : codePoint? cs = some (c, rest)) : rest.length < cs.length := by
  unfold codePoint? at h
  split at h
  · obtain ⟨_, _, he⟩ := Option.map_eq_some_iff.1 h
    cases he
    simp only [List.length_cons]; omega
  · obtain ⟨_, _, he⟩ := Option.map_eq_some_iff.1 h
    cases he
    simp only [List.length_cons]; omega
  · cases h

theorem length_of_escaped? {cs rest : List Char} {c : Char}
    (h : escaped? cs = some (c, rest)) : rest.length < cs.length := by
  unfold escaped? at h
  split at h <;> first
    | (cases h; simp)
    | exact length_of_codePoint? h

/-- The text up to a quote, and what follows the quote; a line break ends no text. -/
def shortText? (quote : Char) : List Char → Option (List Char × List Char)
  | [] => none
  | c :: cs =>
    if c = quote then some ([], cs)
    else if c = '\\' then
      match _ : escaped? cs with
      | none => none
      | some (d, rest) => (shortText? quote rest).map fun (t, after) => (d :: t, after)
    else if c = '\n' ∨ c = '\r' then none
    else (shortText? quote cs).map fun (t, after) => (c :: t, after)
termination_by cs => cs.length
decreasing_by
  · have := length_of_escaped? ‹_›
    simp only [List.length_cons]; omega
  · simp

/-- The text up to three quotes, and what follows them. -/
def longText? (quote : Char) : List Char → Option (List Char × List Char)
  | [] => none
  | c :: cs =>
    if c = quote ∧ cs.take 2 = [quote, quote] then some ([], cs.drop 2)
    else if c = '\\' then
      match _ : escaped? cs with
      | none => none
      | some (d, rest) => (longText? quote rest).map fun (t, after) => (d :: t, after)
    else (longText? quote cs).map fun (t, after) => (c :: t, after)
termination_by cs => cs.length
decreasing_by
  · have := length_of_escaped? ‹_›
    simp only [List.length_cons]; omega
  · simp

/-- The text of an IRI up to its closing bracket, and what follows. -/
def iriText? : List Char → Option (List Char × List Char)
  | [] => none
  | c :: cs =>
    if c = '>' then some ([], cs)
    else if c = '\\' then
      match _ : codePoint? cs with
      | none => none
      | some (d, rest) => (iriText? rest).map fun (t, after) => (d :: t, after)
    else (iriText? cs).map fun (t, after) => (c :: t, after)
termination_by cs => cs.length
decreasing_by
  · have := length_of_codePoint? ‹_›
    simp only [List.length_cons]; omega
  · simp

/-- A text after its opening quote. -/
def quotedText? (quote : Char) (cs : List Char) : Option (Token × List Char) :=
  if cs.take 2 = [quote, quote] then
    (longText? quote (cs.drop 2)).map fun (t, rest) => (.text (String.ofList t) false, rest)
  else
    (shortText? quote cs).map fun (t, rest) => (.text (String.ofList t) (quote == '"'), rest)

/-- An IRI after its opening bracket. -/
def bracketedIri? (cs : List Char) : Option (Token × List Char) :=
  (iriText? cs).map fun (t, rest) => (.iri (String.ofList t), rest)

/-- Splits off the longest part whose characters may be inside a label; the part ends before two
dots. -/
def labelPart : List Char → List Char × List Char
  | '.' :: '.' :: cs => ([], '.' :: '.' :: cs)
  | c :: cs =>
    if Name.isInner c || c == '.' then
      let (part, rest) := labelPart cs
      (c :: part, rest)
    else ([], c :: cs)
  | [] => ([], [])

/-- A blank node label after its underscore and colon. -/
def blankLabel? : List Char → Option (Token × List Char)
  | [] => none
  | c :: cs =>
    if Name.isLetter c || c.isDigit then
      let (part, rest) := labelPart cs
      let kept := Name.dropFinalDots part
      some (.label (String.ofList (c :: kept)), part.drop kept.length ++ rest)
    else none

def languageTag? (cs : List Char) : Option (Token × List Char) :=
  let first := cs.takeWhile Char.isAlpha
  if first.isEmpty then none
  else
    let (more, rest) := parts (cs.drop first.length) cs.length
    let tag := first ++ more
    if Language.isTag tag then some (.language (String.ofList tag), rest) else none
where
  /-- The parts after the first, each with the hyphen before it. -/
  parts : List Char → Nat → List Char × List Char
  | '-' :: cs, steps + 1 =>
    let part := cs.takeWhile Char.isAlphanum
    if part.isEmpty then ([], '-' :: cs)
    else
      let (more, rest) := parts (cs.drop part.length) steps
      ('-' :: part ++ more, rest)
  | cs, _ => ([], cs)

/-- An exponent with its letter, and what follows; the letter has to be followed by digits. -/
def exponent? (cs : List Char) : Option (List Char × List Char) :=
  match cs with
  | e :: cs =>
    let (sign, ds) :=
      match cs with
      | '+' :: ds => (['+'], ds)
      | '-' :: ds => (['-'], ds)
      | ds => ([], ds)
    let digits := ds.takeWhile Char.isDigit
    if digits.isEmpty then none else some (e :: sign ++ digits, ds.drop digits.length)
  | [] => none

def number? (cs : List Char) : Option (Token × List Char) :=
  let (sign, body) :=
    match cs with
    | '+' :: body => (['+'], body)
    | '-' :: body => (['-'], body)
    | body => ([], body)
  let whole := body.takeWhile Char.isDigit
  let afterWhole := body.drop whole.length
  let fraction? : Option (List Char) :=
    match afterWhole with
    | '.' :: more => some (more.takeWhile Char.isDigit)
    | _ => none
  let afterFraction :=
    match fraction? with
    | some fraction => afterWhole.drop (fraction.length + 1)
    | none => afterWhole
  let fraction := fraction?.getD []
  let hasExponent := afterFraction.head? == some 'e' || afterFraction.head? == some 'E'
  if hasExponent then
    if whole.isEmpty && fraction.isEmpty then none
    else
      (exponent? afterFraction).map fun (e, rest) =>
        let point := if fraction?.isSome then '.' :: fraction else []
        (.number (String.ofList (sign ++ whole ++ point ++ e)) Xsd.double, rest)
  else if fraction.isEmpty then
    if whole.isEmpty then none
    else some (.number (String.ofList (sign ++ whole)) Xsd.integer, afterWhole)
  else
    some (.number (String.ofList (sign ++ whole ++ '.' :: fraction)) Xsd.decimal, afterFraction)

/-- A piece of a local name: its characters, and whether it is a dot without escape. -/
structure NamePiece where
  chars : List Char
  isDot : Bool
  doubtful : Bool

/-- The pieces of a local name; none after an escape or octet that is malformed. -/
def namePieces? (start : Bool) : List Char → Option (List NamePiece × List Char)
  | '%' :: a :: b :: cs =>
    if Iri.isHexDigit a && Iri.isHexDigit b then
      (namePieces? false cs).map fun (ps, rest) => (⟨['%', a, b], false, false⟩ :: ps, rest)
    else none
  | '\\' :: c :: cs =>
    if Name.escapable.contains c then
      (namePieces? false cs).map fun (ps, rest) =>
        (⟨[c], false, "/?#@%".toList.contains c⟩ :: ps, rest)
    else none
  | c :: cs =>
    if c = '%' ∨ c = '\\' then none
    else if c == '.' && !start then
      (namePieces? false cs).map fun (ps, rest) => (⟨[c], true, false⟩ :: ps, rest)
    else if (if start then Name.isLetter c || c.isDigit else Name.isInner c) || c == ':' then
      (namePieces? false cs).map fun (ps, rest) =>
        (⟨[c], false, c == ':' || Name.isOutsideIri c⟩ :: ps, rest)
    else some ([], c :: cs)
  | [] => some ([], [])

/-- A local name after the colon of its prefix. -/
def localName? (scope : List Char) (cs : List Char) : Option (Token × List Char) :=
  (namePieces? true cs).map fun (ps, rest) =>
    let kept := (ps.reverse.dropWhile (·.isDot)).reverse
    let dots := (ps.drop kept.length).flatMap (·.chars)
    (.scoped (String.ofList scope) (String.ofList (kept.flatMap (·.chars)))
      (kept.any (·.doubtful)), dots ++ rest)

/-- A keyword, or a name with a prefix. -/
def word? (cs : List Char) : Option (Token × List Char) :=
  let part := cs.takeWhile fun c => Name.isInner c || c == '.'
  let rest := cs.drop part.length
  if !part.isEmpty && !part.head?.any Name.isBase then none
  else
    match rest with
    | ':' :: after => if part.getLast? == some '.' then none else localName? part after
    | _ =>
      let kept := Name.dropFinalDots part
      if kept.isEmpty then none
      else some (.keyword (String.ofList kept), part.drop kept.length ++ rest)

/-- The token at the start of a text that starts with neither a blank nor a comment. -/
def next? (cs : List Char) : Option (Token × List Char) :=
  match cs with
  | [] => none
  | '<' :: rest => bracketedIri? rest
  | '_' :: ':' :: rest => blankLabel? rest
  | '"' :: rest => quotedText? '"' rest
  | '\'' :: rest => quotedText? '\'' rest
  | '@' :: rest => languageTag? rest
  | '^' :: '^' :: rest => some (.datatypeMark, rest)
  | '.' :: d :: rest => if d.isDigit then number? cs else some (.mark '.', d :: rest)
  | c :: rest =>
    if ".,;()[]".toList.contains c || c = Char.ofNat 0x7B || c = Char.ofNat 0x7D then
      some (.mark c, rest)
    else if c.isDigit || c = '+' || c = '-' then number? cs
    else word? cs

def dropComment (cs : List Char) : List Char :=
  cs.dropWhile fun c => c != '\n' && c != '\r'

/-- The tokens of a text, `steps` bounding the number of tokens, blanks and comments. -/
def scanFrom : Nat → List Char → Option (List Token)
  | _, [] => some []
  | 0, _ :: _ => none
  | steps + 1, c :: cs =>
    if c = ' ' ∨ c = '\t' ∨ c = '\n' ∨ c = '\r' then scanFrom steps cs
    else if c = '#' then scanFrom steps (dropComment cs)
    else
      match next? (c :: cs) with
      | none => none
      | some (t, rest) => (scanFrom steps rest).map (t :: ·)

/-- The tokens of a text, if all of it is made of tokens. -/
def scan? (text : String) : Option (List Token) :=
  scanFrom text.toList.length text.toList

end Token

end BuildingModel.Rdf
