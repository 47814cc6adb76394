import BuildingModel.Rdf.Name
import BuildingModel.Rdf.NTriples.Writer
import BuildingModel.Rdf.Vocabulary

/-!
# Writing Turtle

Statements in order, those with one subject or one subject and predicate written together. An IRI in
a bound namespace is written by its local name, and truth values and numbers are written bare.
-/
namespace BuildingModel.Rdf

/-- A short name for a namespace. -/
structure NamespaceBinding where
  short : String
  namespaceText : String
  deriving DecidableEq, Repr

namespace NamespaceBinding

/-- The bindings with each short name bound once, to the namespace given last. -/
def lastOfEach (bindings : List NamespaceBinding) : List NamespaceBinding :=
  bindings.foldr (fun b later => if later.any (·.short == b.short) then later else b :: later) []

/-- Whether a binding is tried no later than another: the longer namespace, or the lesser name. -/
def before (a b : NamespaceBinding) : Bool :=
  let m := a.namespaceText.utf8ByteSize
  let n := b.namespaceText.utf8ByteSize
  n < m || (m == n && (a.short < b.short || a.short == b.short))

/-- The bindings in the order in which they are tried. -/
def ordered (bindings : List NamespaceBinding) : List NamespaceBinding :=
  (lastOfEach bindings).mergeSort before

end NamespaceBinding

namespace Turtle

/-- What is left of a text after a given start. -/
def after? : List Char → List Char → Option (List Char)
  | [], cs => some cs
  | _ :: _, [] => none
  | s :: ss, c :: cs => if s = c then after? ss cs else none

/-- An IRI under a binding, if its namespace and local name allow it. -/
def shortened? (iri : Iri) (b : NamespaceBinding) : Option String :=
  (after? b.namespaceText.toList iri.text.toList).bind fun rest =>
    (Name.escapeLocal? rest).map fun cs => b.short ++ ":" ++ String.ofList cs

/-- An IRI under the first binding that allows it, or in full. -/
def iriText (bindings : List NamespaceBinding) (i : Iri) : String :=
  (bindings.findSome? (shortened? i)).getD i.written

def dropSign : List Char → List Char
  | '+' :: cs => cs
  | '-' :: cs => cs
  | cs => cs

/-- Whether a text is digits, at least one. -/
def isDigits (cs : List Char) : Bool :=
  !cs.isEmpty && cs.all Char.isDigit

/-- Whether a text can stand bare as a whole number. -/
def isInteger (cs : List Char) : Bool :=
  isDigits (dropSign cs)

/-- Whether a text can stand bare as a number with a point. -/
def isDecimal (cs : List Char) : Bool :=
  match (dropSign cs).dropWhile Char.isDigit with
  | '.' :: fraction => isDigits fraction
  | _ => false

/-- Whether a text can stand bare as a number with an exponent. -/
def isDouble (cs : List Char) : Bool :=
  let unsigned := dropSign cs
  let whole := unsigned.takeWhile Char.isDigit
  let pointed := unsigned.dropWhile Char.isDigit
  let fractional :=
    match pointed with
    | '.' :: more => more
    | _ => []
  let fraction := fractional.takeWhile Char.isDigit
  let tail := if pointed.head? == some '.' then fractional.dropWhile Char.isDigit else pointed
  match tail with
  | e :: more =>
    (e == 'e' || e == 'E') && !(whole.isEmpty && fraction.isEmpty) && isDigits (dropSign more)
  | [] => false

def isBare (text : String) (datatype : Iri) : Bool :=
  let cs := text.toList
  (datatype == Xsd.boolean && (text == "true" || text == "false")) ||
    (datatype == Xsd.integer && isInteger cs) ||
    (datatype == Xsd.decimal && isDecimal cs) ||
    (datatype == Xsd.double && isDouble cs)

def literalText (bindings : List NamespaceBinding) : Literal → String
  | .typed t d => if isBare t d then t else writtenText t ++ "^^" ++ iriText bindings d
  | l => l.written

def termText (bindings : List NamespaceBinding) : Term → String
  | .iri i => iriText bindings i
  | .blank b => b.written
  | .literal l => literalText bindings l

def predicateText (bindings : List NamespaceBinding) (p : Iri) : String :=
  if p = Vocabulary.type then "a" else iriText bindings p

/-- A predicate with its object. -/
def armText (bindings : List NamespaceBinding) (t : Triple) : String :=
  predicateText bindings t.predicate ++ " " ++ termText bindings t.object

/-- A statement after another one, which is left open. -/
def continued (bindings : List NamespaceBinding) (last t : Triple) : String :=
  if last.subject = t.subject ∧ last.predicate = t.predicate then
    " , " ++ termText bindings t.object
  else if last.subject = t.subject then " ;\n\t" ++ armText bindings t
  else " .\n" ++ termText bindings t.subject.term ++ " " ++ armText bindings t

/-- Statements after another one, up to the final point. -/
def continuation (bindings : List NamespaceBinding) : Triple → List Triple → String
  | _, [] => " .\n"
  | last, t :: ts => continued bindings last t ++ continuation bindings t ts

def declaration (b : NamespaceBinding) : String :=
  "@prefix " ++ b.short ++ ": <" ++ b.namespaceText ++ "> .\n"

/-- A document of statements; no statements make an empty document. -/
def write (bindings : List NamespaceBinding) : List Triple → String
  | [] => ""
  | t :: ts =>
    let bs := NamespaceBinding.ordered bindings
    String.join (bs.map declaration) ++ termText bs t.subject.term ++ " " ++ armText bs t ++
      continuation bs t ts

end Turtle

end BuildingModel.Rdf
