import BuildingModel.Distinct
import BuildingModel.Rdf.Dataset

/-!
# Documents

A document is read into statements, and its blank nodes then get labels that no other document of
a store has. Either all of a document is read or nothing of it.
-/
namespace BuildingModel.Rdf

/-- The number of hexadecimal digits of a drawn label. -/
def drawnLabelLength : Nat := 32

/-- A number in a given count of hexadecimal digits. -/
def hexPadded (width n : Nat) : List Char :=
  let ds := Nat.toDigits 16 n
  List.replicate (width - ds.length) '0' ++ ds

/-- The label drawn for a node of a document: the letter `b`, the number of the document in fifteen
hexadecimal digits and the number of the node in sixteen. -/
def BlankNode.drawn (document node : Nat) : BlankNode :=
  ⟨String.ofList ('b' :: hexPadded 15 document ++ hexPadded 16 node)⟩

/-- The labels of blank nodes that a list of statements names, each once. -/
def blankLabels (qs : List Quad) : List BlankNode :=
  distinct (qs.flatMap fun q =>
    (match q.subject with
      | .blank b => [b]
      | _ => []) ++
    (match q.object with
      | .blank b => [b]
      | _ => []) ++
    (match q.graph with
      | some (.blank b) => [b]
      | _ => []))

def Node.relabel (f : BlankNode → BlankNode) : Node → Node
  | .blank b => .blank (f b)
  | n => n

def Term.relabel (f : BlankNode → BlankNode) : Term → Term
  | .blank b => .blank (f b)
  | t => t

def Quad.relabel (f : BlankNode → BlankNode) (q : Quad) : Quad :=
  ⟨⟨q.subject.relabel f, q.predicate, q.object.relabel f⟩, q.graph.map (Node.relabel f)⟩

/-- The statements of a document, its blank nodes labelled by the number of the document. -/
def relabelDocument (document : Nat) (qs : List Quad) : List Quad :=
  let labels := blankLabels qs
  qs.map (Quad.relabel fun b => BlankNode.drawn document (labels.idxOf b))

def Dataset.load (d : Dataset) (document : Nat) (qs : List Quad) : Dataset :=
  d.insertAll (relabelDocument document qs)

end BuildingModel.Rdf
