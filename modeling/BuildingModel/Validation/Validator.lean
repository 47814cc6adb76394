import BuildingModel.Validation.Check
import BuildingModel.Validation.Loading

/-!
# Validators

A shape validator checks all subjects of the data and all targeted nodes against the shapes of an
ontology. Anything that makes a report of data can take its place.
-/
namespace BuildingModel.Validation

open BuildingModel.Rdf

/-- The shapes of an ontology, ready to validate data. -/
structure ShapeValidator where
  ontology : Dataset
  shapes : List NodeShape

namespace ShapeValidator

/-- The validator with the shapes of an ontology, whose patterns an engine compiles. -/
def ofDataset (o : Dataset) (E : PatternEngine := .expressions) :
    Except LoadFault ShapeValidator :=
  (loadShapes o E).map (ShapeValidator.mk o)

/-- The nodes to check: each subject of the data and each targeted node once, by written form. -/
def focusNodes (v : ShapeValidator) (data : Dataset) : List Node :=
  (distinct (data.quads.map (·.subject) ++
    v.shapes.flatMap fun s => s.targetNodes.filterMap Term.node?)).mergeSort
      fun a b => a.written ≤ b.written

def checkShapes {o : Dataset} (data : Dataset) (n : Node) : List NodeShape → Lookup o (List Result)
  | [] => return []
  | s :: ss => do
    let results ← s.check data n
    let more ← checkShapes data n ss
    return results ++ more

def checkNodes (v : ShapeValidator) (data : Dataset) : List Node → Lookup v.ontology (List Result)
  | [] => return []
  | n :: ns => do
    let results ← checkShapes data n v.shapes
    let more ← checkNodes v data ns
    return results ++ more

def validateNode (v : ShapeValidator) (data : Dataset) (n : Node) : List Result :=
  (checkShapes data n v.shapes (ClassMemo.empty v.ontology)).1

/-- The report on all nodes. -/
def validate (v : ShapeValidator) (data : Dataset) : Report :=
  ⟨(v.checkNodes data (v.focusNodes data) (ClassMemo.empty v.ontology)).1⟩

end ShapeValidator

/-- Anything that validates data, or fails for a reason that it gives. -/
structure GraphValidator where
  validate : Dataset → Except String Report
  /-- The number of shapes that it checks, if it knows it. -/
  shapeCount? : Option Nat

/-- A shape validator as a validator, which never fails. -/
def ShapeValidator.graphValidator (v : ShapeValidator) : GraphValidator :=
  ⟨fun data => .ok (v.validate data), some v.shapes.length⟩

end BuildingModel.Validation
