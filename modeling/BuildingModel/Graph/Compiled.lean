import BuildingModel.Graph.Emission
import BuildingModel.Rdf.Turtle.Writer

/-!
# Compiled graphs

The statements of a session enter a dataset, and are kept in order as far as the dataset does not
hold them. Only a graph that conforms to the shapes is handed out.
-/
namespace BuildingModel

open BuildingModel.Rdf BuildingModel.Validation

/-- Statements in order, together with the dataset that they make. -/
structure Emitted where
  triples : List Triple
  store : Dataset

namespace Emitted

def empty : Emitted := ⟨[], .empty⟩

/-- Emits a statement, unless the dataset holds its normal form. -/
def emit (e : Emitted) (t : Triple) : Emitted :=
  if t.inDefault.normal ∈ e.store then e
  else ⟨e.triples ++ [t], e.store.insert t.inDefault⟩

def ofList (ts : List Triple) : Emitted := ts.foldl emit empty

end Emitted

/-- A graph that conforms, with the short names it is written with. -/
structure CompiledGraph where
  bindings : List NamespaceBinding
  triples : List Triple
  store : Dataset

namespace CompiledGraph

def contains (g : CompiledGraph) (t : Triple) : Bool := g.triples.contains t

def nTriples (g : CompiledGraph) : String := NTriples.write g.triples

def turtle (g : CompiledGraph) : String := Turtle.write g.bindings g.triples

def bindingText (b : NamespaceBinding) : String :=
  "(" ++ Text.quoted b.short ++ ", " ++ Text.quoted b.namespaceText ++ ")"

def summaryLine (g : CompiledGraph) : String :=
  "CompiledGraph \x7b prefixes: [" ++ ", ".intercalate (g.bindings.map bindingText) ++
    "], triples: " ++ Nat.repr g.triples.length ++ ", .. \x7d"

end CompiledGraph

def badNamespace? (bindings : List NamespaceBinding) : Option String :=
  (bindings.find? fun b => (Iri.parse? b.namespaceText).isNone).map NamespaceBinding.namespaceText

/-- Compiles a session into a graph, which has to satisfy a validator. -/
def Session.compileWith {schema : Schema} (s : Session schema) (bindings : List NamespaceBinding)
    (validator : GraphValidator) : Except ModelError CompiledGraph :=
  match badNamespace? bindings with
  | some ns => .error (.invalidIri ns)
  | none => do
    let ts ← s.statements
    let emitted := Emitted.ofList ts
    match validator.validate emitted.store with
    | .error reason => .error (.validationEngine reason)
    | .ok report =>
      if report.conforms then return ⟨bindings, emitted.triples, emitted.store⟩
      else .error (.nonconforming report)

def Session.compile {schema : Schema} (s : Session schema) (bindings : List NamespaceBinding) :
    Except ModelError CompiledGraph :=
  s.compileWith bindings schema.validator

end BuildingModel
