import BuildingModel.Rdf.Term

/-!
# Writing N-Triples

Terms and statements written in full. In a text, quotes and backslashes get a backslash, the common
controls have short escapes, and other controls are written by their number.
-/
namespace BuildingModel.Rdf

/-- The four hexadecimal digits of a small number, in upper case. -/
def hexDigits4 (n : Nat) : List Char :=
  let ds := (Nat.toDigits 16 n).map Char.toUpper
  List.replicate (4 - ds.length) '0' ++ ds

/-- Whether a character is written by its number. -/
def isNumbered (c : Char) : Bool :=
  c.toNat < 0x20 || c.toNat == 0x7F || c.toNat == 0xFFFE || c.toNat == 0xFFFF

def escapedChar (c : Char) : List Char :=
  if c = '\x08' then ['\\', 'b']
  else if c = '\t' then ['\\', 't']
  else if c = '\n' then ['\\', 'n']
  else if c = '\x0c' then ['\\', 'f']
  else if c = '\r' then ['\\', 'r']
  else if c = '"' then ['\\', '"']
  else if c = '\\' then ['\\', '\\']
  else if isNumbered c then '\\' :: 'u' :: hexDigits4 c.toNat
  else [c]

def writtenText (s : String) : String :=
  String.ofList ('"' :: s.toList.flatMap escapedChar ++ ['"'])

/-- A blank node by its label. -/
def BlankNode.written (b : BlankNode) : String :=
  "_:" ++ b.label

/-- A literal in full; plain texts need no datatype. -/
def Literal.written : Literal → String
  | .plain t => writtenText t
  | .tagged t l => writtenText t ++ "@" ++ l
  | .typed t d => writtenText t ++ "^^" ++ d.written

def Node.written : Node → String
  | .iri i => i.written
  | .blank b => b.written

def Term.written : Term → String
  | .iri i => i.written
  | .blank b => b.written
  | .literal l => l.written

@[simp] theorem Node.written_term (n : Node) : n.term.written = n.written := by cases n <;> rfl

/-- A statement in full, without its point. -/
def Triple.written (t : Triple) : String :=
  t.subject.written ++ " " ++ t.predicate.written ++ " " ++ t.object.written

namespace NTriples

def line (t : Triple) : String :=
  t.written ++ " .\n"

/-- Statements, each on a line of its own. -/
def write (ts : List Triple) : String :=
  String.join (ts.map line)

end NTriples

end BuildingModel.Rdf
