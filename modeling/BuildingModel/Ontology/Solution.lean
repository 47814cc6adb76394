import BuildingModel.Number.Bounded
import BuildingModel.Rdf.Term
import BuildingModel.Text.Blank

/-!
# Solutions of queries

A solution binds variables to terms. A variable is read as a term of a kind, and either has to be
bound to one or may be absent.
-/
namespace BuildingModel.Ontology

open BuildingModel.Rdf

/-- What one answer to a query binds its variables to. -/
structure Solution where
  bindings : List (String × Term)
  deriving DecidableEq, Repr

inductive BindingError
  | unbound (variableName : String)
  | kindMismatch (variableName expected actual : String)
  | notConverted (variableName target reason : String)
  deriving DecidableEq, Repr

def BindingError.message : BindingError → String
  | .unbound v => "Variable '" ++ v ++ "' is unbound"
  | .kindMismatch v expected actual =>
    "Expected " ++ expected ++ " for '" ++ v ++ "', got " ++ actual
  | .notConverted v target reason =>
    "Failed to convert '" ++ v ++ "' to " ++ target ++ ": " ++ reason

namespace Solution

def term? (s : Solution) (v : String) : Option Term :=
  s.bindings.lookup v

/-- The term that a variable has to be bound to. -/
def term (s : Solution) (v : String) : Except BindingError Term :=
  match s.term? v with
  | some t => .ok t
  | none => .error (.unbound v)

/-- The IRI that a variable is bound to; any other term counts as absent. -/
def iri? (s : Solution) (v : String) : Option Iri :=
  (s.term? v).bind Term.iri?

/-- The IRI that a variable has to be bound to. -/
def iri (s : Solution) (v : String) : Except BindingError Iri :=
  (s.term v).bind fun t =>
    match t with
    | .iri i => .ok i
    | t => .error (.kindMismatch v "IRI" t.kindName)

/-- The text of the literal that a variable is bound to; any other term counts as absent. -/
def text? (s : Solution) (v : String) : Option String :=
  ((s.term? v).bind Term.literal?).map Literal.text

/-- The text of the literal that a variable has to be bound to. -/
def text (s : Solution) (v : String) : Except BindingError String :=
  match s.text? v with
  | some t => .ok t
  | none => .error (.unbound v)

/-- The whole number that a variable is bound to, if it is bound; blanks around it are ignored. -/
def integer? (s : Solution) (v : String) : Except BindingError (Option Int) :=
  match s.term? v with
  | none => .ok none
  | some (.literal l) =>
    match Number.readSigned64 (Text.trim l.text) with
    | .ok n => .ok (some n)
    | .error fault => .error (.notConverted v "integer" fault.message)
  | some t => .error (.kindMismatch v "Literal" t.kindName)

theorem iri_eq_ok_iff {s : Solution} {v : String} {i : Iri} :
    s.iri v = .ok i ↔ s.term? v = some (.iri i) := by
  unfold iri term
  cases h : s.term? v with
  | none => simp [Except.bind]
  | some t => cases t <;> simp [Except.bind]

theorem text_eq_ok_iff {s : Solution} {v t : String} :
    s.text v = .ok t ↔ ∃ l, s.term? v = some (.literal l) ∧ l.text = t := by
  unfold text text?
  cases h : s.term? v with
  | none => simp
  | some u => cases u <;> simp [Term.literal?]

end Solution

end BuildingModel.Ontology
