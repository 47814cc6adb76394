import BuildingModel.Number.Decimal
import BuildingModel.Rdf.Collection
import BuildingModel.Text.Blank
import BuildingModel.Text.Quoted
import BuildingModel.Validation.NodeShape

/-!
# Loading node shapes

Node shapes are read from the statements of all graphs. Where a property has several values the
newest counts. A bound that is no number and a pattern that is none to the engine are faults; what
has the wrong kind of term is ignored.
-/
namespace BuildingModel.Validation

open BuildingModel.Rdf BuildingModel.Number

inductive LoadFault
  | count (property : Iri) (text : String) (fault : IntegerFault)
  | number (property : Iri) (text : String) (fault : FloatFault)
  | pattern (text : String) (path : Iri)
  deriving DecidableEq, Repr

def LoadFault.message : LoadFault → String
  | .count p text fault =>
    p.written ++ " must be a non-negative integer, got " ++ Text.quoted text ++ ": " ++
      fault.message
  | .number p text fault =>
    p.written ++ " must be numeric, got " ++ Text.quoted text ++ ": " ++ fault.message
  | .pattern text path => "invalid sh:pattern " ++ Text.quoted text ++ " on " ++ path.written

variable (d : Dataset) (s : Node) (E : PatternEngine)

/-- The value of a property, if the newest is an IRI. -/
def iriOf? (p : Iri) : Option Iri := (d.object? s p).bind Term.iri?

/-- The text of a property, if the newest value is a literal. -/
def textOf? (p : Iri) : Option String := ((d.object? s p).bind Term.literal?).map Literal.text

def countOf (p : Iri) : Except LoadFault (Option Nat) :=
  match textOf? d s p with
  | none => .ok none
  | some text =>
    match readCount (Text.trim text) with
    | .ok n => .ok (some n)
    | .error fault => .error (.count p text fault)

def numberOf (p : Iri) : Except LoadFault (Option Binary) :=
  match textOf? d s p with
  | none => .ok none
  | some text =>
    match readBinary binary64 (Text.trim text) with
    | .ok x => .ok (some x)
    | .error fault => .error (.number p text fault)

/-- The pattern that a property shape gives for the values of a path. -/
def patternOf (path : Iri) : Except LoadFault (Option Pattern) :=
  match textOf? d s Shacl.pattern with
  | none => .ok none
  | some text =>
    match E.pattern? text with
    | some p => .ok (some p)
    | none => .error (.pattern text path)

/-- The elements of the collection that a property leads to. -/
def elementsOf (p : Iri) : List Term := ((d.object? s p).map d.members).getD []

/-- The alternatives of a property shape; a literal is none. -/
def alternativesOf : List Alternative :=
  ((elementsOf d s Shacl.alternatives).filterMap Term.node?).map fun n =>
    ⟨iriOf? d n Shacl.class, iriOf? d n Shacl.datatype⟩

/-- A constraint that stands for a list, unless the list is empty. -/
def unlessEmpty {α : Type} (xs : List α) (c : ValueConstraint) : List ValueConstraint :=
  if xs.isEmpty then [] else [c]

/-- The constraints on values, one for each part that there is. -/
def constraintsOf (datatype : Option Iri) («class» : Option Iri) (options : List Alternative)
    (pattern : Option Pattern) (minLength maxLength : Option Nat)
    (minInclusive maxInclusive : Option Binary) (allowed : List Term) : List ValueConstraint :=
  datatype.toList.map ValueConstraint.datatype ++
  «class».toList.map ValueConstraint.class ++
  unlessEmpty options (.alternatives options) ++
  pattern.toList.map ValueConstraint.pattern ++
  minLength.toList.map ValueConstraint.minLength ++
  maxLength.toList.map ValueConstraint.maxLength ++
  minInclusive.toList.map ValueConstraint.minInclusive ++
  maxInclusive.toList.map ValueConstraint.maxInclusive ++
  unlessEmpty allowed (.members allowed)

/-- Reads a property shape; without an IRI for its path it says nothing. -/
def loadProperty : Except LoadFault (Option PropertyShape) :=
  match iriOf? d s Shacl.path with
  | none => .ok none
  | some path => do
    let minCount ← countOf d s Shacl.minCount
    let maxCount ← countOf d s Shacl.maxCount
    let minLength ← countOf d s Shacl.minLength
    let maxLength ← countOf d s Shacl.maxLength
    let minInclusive ← numberOf d s Shacl.minInclusive
    let maxInclusive ← numberOf d s Shacl.maxInclusive
    let pattern ← patternOf d s E path
    return some {
      path
      minCount
      maxCount
      constraints :=
        constraintsOf (iriOf? d s Shacl.datatype) (iriOf? d s Shacl.class) (alternativesOf d s)
          pattern minLength maxLength minInclusive maxInclusive (elementsOf d s Shacl.members)
      message := textOf? d s Shacl.message
      severity := (iriOf? d s Shacl.severity).map Severity.ofIri }

/-- Reads the property shapes of a shape, newest first. -/
def loadProperties : List Node → Except LoadFault (List PropertyShape)
  | [] => .ok []
  | n :: ns => do
    let p ← loadProperty d n E
    let ps ← loadProperties ns
    return p.toList ++ ps

def loadShape (id : Iri) : Except LoadFault NodeShape := do
  let s : Node := .iri id
  let properties ← loadProperties d E ((d.objects s Shacl.property).filterMap Term.node?)
  return {
    id
    targetClasses := (d.objects s Shacl.targetClass).filterMap Term.iri?
    targetNodes := d.objects s Shacl.targetNode
    properties
    severity := ((iriOf? d s Shacl.severity).map Severity.ofIri).getD .violation }

/-- The IRIs that are declared as node shapes, in any graph, newest first. -/
def shapeIris : List Iri :=
  (d.subjects Vocabulary.type (.iri Shacl.nodeShape)).filterMap fun n => n.term.iri?

def loadShapesOf : List Iri → Except LoadFault (List NodeShape)
  | [] => .ok []
  | id :: ids => do
    let s ← loadShape d E id
    let ss ← loadShapesOf ids
    return s :: ss

/-- The node shapes of a dataset by IRI. -/
def loadShapes : Except LoadFault (List NodeShape) :=
  (loadShapesOf d E (shapeIris d)).map fun ss => ss.mergeSort fun a b => a.id.text ≤ b.id.text

theorem loadShapes_of_single {d : Dataset} {E : PatternEngine} {s : NodeShape}
    (h : loadShapesOf d E (shapeIris d) = .ok [s]) : loadShapes d E = .ok [s] := by
  rw [loadShapes, h]
  exact congrArg Except.ok (List.mergeSort_singleton s)

end BuildingModel.Validation
