import BuildingModel.Rdf.Iri

/-!
# Terms

The terms of a graph: IRIs, blank nodes and literals, and the statements made of them.
-/
namespace BuildingModel.Rdf

/-- A node without a name of its own, told apart by a label. -/
structure BlankNode where
  label : String
  deriving DecidableEq, Repr, Inhabited

def stringDatatype : Iri := ⟨"http://www.w3.org/2001/XMLSchema#string"⟩

def languageDatatype : Iri := ⟨"http://www.w3.org/1999/02/22-rdf-syntax-ns#langString"⟩

/-- A text, a text in a language, or a text read by the rules of a datatype. -/
inductive Literal
  | plain (text : String)
  | tagged (text language : String)
  | typed (text : String) (datatype : Iri)
  deriving DecidableEq, Repr, Inhabited

namespace Literal

/-- The literal of a text and a datatype; the datatype of plain texts adds nothing. -/
def ofTyped (text : String) (datatype : Iri) : Literal :=
  if datatype = stringDatatype then .plain text else .typed text datatype

/-- The literal of a text in a language; tags are in lower case. -/
def ofTagged (text language : String) : Literal :=
  .tagged text (String.ofList (language.toList.map Char.toLower))

def text : Literal → String
  | .plain t => t
  | .tagged t _ => t
  | .typed t _ => t

def datatype : Literal → Iri
  | .plain _ => stringDatatype
  | .tagged _ _ => languageDatatype
  | .typed _ d => d

def language? : Literal → Option String
  | .tagged _ l => some l
  | _ => none

@[simp] theorem datatype_ofTyped (t : String) (d : Iri) : (ofTyped t d).datatype = d := by
  unfold ofTyped
  split
  · rename_i h; exact h.symm
  · rfl

end Literal

/-- What a statement can be about: an IRI or a blank node. -/
inductive Node
  | iri (iri : Iri)
  | blank (node : BlankNode)
  deriving DecidableEq, Repr, Inhabited

/-- What a statement can say of its subject. -/
inductive Term
  | iri (iri : Iri)
  | blank (node : BlankNode)
  | literal (literal : Literal)
  deriving DecidableEq, Repr, Inhabited

def Node.term : Node → Term
  | .iri i => .iri i
  | .blank b => .blank b

instance : Coe Node Term := ⟨Node.term⟩

namespace Term

def iri? : Term → Option Iri
  | .iri i => some i
  | _ => none

def literal? : Term → Option Literal
  | .literal l => some l
  | _ => none

def node? : Term → Option Node
  | .iri i => some (.iri i)
  | .blank b => some (.blank b)
  | .literal _ => none

@[simp] theorem node?_term (n : Node) : n.term.node? = some n := by cases n <;> rfl

theorem node?_eq_some_iff {t : Term} {n : Node} : t.node? = some n ↔ t = n.term := by
  cases t <;> cases n <;> simp [node?, Node.term]

theorem iri?_eq_some_iff {t : Term} {i : Iri} : t.iri? = some i ↔ t = .iri i := by
  cases t <;> simp [iri?]

def kindName : Term → String
  | .iri _ => "IRI"
  | .blank _ => "BlankNode"
  | .literal _ => "Literal"

end Term

theorem Node.term_injective : ∀ {a b : Node}, a.term = b.term → a = b := by
  intro a b h
  cases a <;> cases b <;> simp_all [Node.term]

/-- A statement. -/
structure Triple where
  subject : Node
  predicate : Iri
  object : Term
  deriving DecidableEq, Repr, Inhabited

/-- A statement in a graph; the default graph has no name. -/
structure Quad extends Triple where
  graph : Option Node
  deriving DecidableEq, Repr, Inhabited

def Triple.inDefault (t : Triple) : Quad := ⟨t, none⟩

end BuildingModel.Rdf
