import BuildingModel.Rdf.Iri

/-!
# Names in graph syntaxes

The characters of prefixes, local names and blank node labels.
-/
namespace BuildingModel.Rdf.Name

/-- Whether a character may start a prefix. -/
def isBase (c : Char) : Bool :=
  let n := c.toNat
  c.isAlpha || (0xC0 ≤ n && n ≤ 0xD6) || (0xD8 ≤ n && n ≤ 0xF6) || (0xF8 ≤ n && n ≤ 0x2FF) ||
    (0x370 ≤ n && n ≤ 0x37D) || (0x37F ≤ n && n ≤ 0x1FFF) || (0x200C ≤ n && n ≤ 0x200D) ||
    (0x2070 ≤ n && n ≤ 0x218F) || (0x2C00 ≤ n && n ≤ 0x2FEF) || (0x3001 ≤ n && n ≤ 0xD7FF) ||
    (0xF900 ≤ n && n ≤ 0xFDCF) || (0xFDF0 ≤ n && n ≤ 0xFFFD) || (0x10000 ≤ n && n ≤ 0xEFFFF)

/-- Whether a character may start a blank node label or a local name as a letter. -/
def isLetter (c : Char) : Bool :=
  isBase c || c == '_'

/-- Whether a character may follow in a name. -/
def isInner (c : Char) : Bool :=
  let n := c.toNat
  isLetter c || c == '-' || c.isDigit || n == 0xB7 || (0x300 ≤ n && n ≤ 0x36F) ||
    (0x203F ≤ n && n ≤ 0x2040)

/-- The characters that stand in a local name after a backslash. -/
def escapable : List Char := "_~.-!$&'()*+,;=/?#@%".toList

/-- Characters of names that no IRI has as they are. -/
def isOutsideIri (c : Char) : Bool :=
  isBase c && 0x80 ≤ c.toNat && !Iri.isWide c.toNat

def dropFinalDots (cs : List Char) : List Char :=
  (cs.reverse.dropWhile (· == '.')).reverse

/-- A local name with escapes in front of the characters that need them, if it can be written. -/
def escapeLocal? : List Char → Option (List Char)
  | [] => none
  | c :: cs =>
    if isLetter c || c == ':' || c.isDigit then (escapeInner? cs).map (c :: ·)
    else if escapable.contains c then (escapeInner? cs).map fun rest => '\\' :: c :: rest
    else none
where
  /-- The same after the first character; a dot needs an escape only at the end. -/
  escapeInner? : List Char → Option (List Char)
  | [] => some []
  | c :: cs =>
    if isInner c || c == ':' || (c == '.' && !cs.isEmpty) then (escapeInner? cs).map (c :: ·)
    else if escapable.contains c then (escapeInner? cs).map fun rest => '\\' :: c :: rest
    else none

end BuildingModel.Rdf.Name
