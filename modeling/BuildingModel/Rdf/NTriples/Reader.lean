import BuildingModel.Rdf.Dataset
import BuildingModel.Rdf.Token

/-!
# Reading N-Triples and N-Quads

Reading statements that are written in full, each ended by a point.
-/
namespace BuildingModel.Rdf.NTriples

def node? : Token → Option Node
  | .iri text => (Iri.parse? text).map Node.iri
  | .label l => some (.blank ⟨l⟩)
  | _ => none

/-- An object in full, and the tokens after it. -/
def object? : List Token → Option (Term × List Token)
  | .text text true :: .language tag :: ts => some (.literal (.ofTagged text tag), ts)
  | .text text true :: .datatypeMark :: .iri datatype :: ts =>
    (Iri.parse? datatype).map fun d => (.literal (.ofTyped text d), ts)
  | .text _ true :: .datatypeMark :: _ => none
  | .text text true :: ts => some (.literal (.plain text), ts)
  | t :: ts => (node? t).map fun n => (n.term, ts)
  | [] => none

/-- The name of a graph, if there may be one, up to the point that ends the statement. -/
def ending? (named : Bool) : List Token → Option (Option Node × List Token)
  | .mark '.' :: ts => some (none, ts)
  | t :: .mark '.' :: ts => if named then (node? t).map fun n => (some n, ts) else none
  | _ => none

def statement? (named : Bool) : List Token → Option (Quad × List Token)
  | s :: .iri p :: ts => do
    let s ← node? s
    let p ← Iri.parse? p
    let (o, ts) ← object? ts
    let (g, ts) ← ending? named ts
    some (⟨⟨s, p, o⟩, g⟩, ts)
  | _ => none

/-- Statements up to the end, `steps` bounding their number. -/
def statements? (named : Bool) : Nat → List Token → Option (List Quad)
  | _, [] => some []
  | 0, _ :: _ => none
  | steps + 1, ts =>
    (statement? named ts).bind fun (q, rest) => (statements? named steps rest).map (q :: ·)

/-- The statements of a text, with the names of graphs if `named`. -/
def parse? (named : Bool) (text : String) : Option (List Quad) :=
  (Token.scan? text).bind fun ts => statements? named ts.length ts

end BuildingModel.Rdf.NTriples
