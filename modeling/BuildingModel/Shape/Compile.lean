import BuildingModel.Ontology.TermOrder
import BuildingModel.Ontology.Row
import BuildingModel.Shape.Field

/-!
# Compiling shapes

The constraints on the paths of a shape become its fields. Paths that share a local name make one
field, for which the first path counts alone. The fields come as `value`, `hasUnit` and then the
others by name.
-/
namespace BuildingModel

open BuildingModel.Rdf BuildingModel.Ontology

/-- A constraint on a path, with at most one of its enumerated values. -/
structure ConstraintRow where
  path : Iri
  value : Option Term
  datatype : Option Iri
  allowed : Option Iri
  minCount : Option Int
  deriving DecidableEq, Repr

/-- What is known of a path while its constraints are read. -/
structure PathDraft where
  path : Iri
  values : List Term
  datatype : Option Iri
  classes : List Iri
  required : Bool
  deriving DecidableEq, Repr

namespace PathDraft

/-- A path that nothing is known of. -/
def start (path : Iri) : PathDraft := ⟨path, [], none, [], false⟩

/-- A list with an optional element at its end, unless it is there. -/
def withNew {α : Type} [DecidableEq α] (xs : List α) : Option α → List α
  | none => xs
  | some x => if x ∈ xs then xs else xs ++ [x]

/-- What is known after a constraint on the path. -/
def add (d : PathDraft) (r : ConstraintRow) : PathDraft :=
  { d with
    values := withNew d.values r.value
    datatype := r.datatype.or d.datatype
    classes := withNew d.classes r.allowed
    required := d.required || r.minCount.any (0 < ·) }

def kind (d : PathDraft) : FieldKind :=
  if d.path.name = "hasUnit" then .unit (d.values.filterMap Term.iri?)
  else if d.values ≠ [] then .enumeration d.values
  else
    match d.datatype with
    | some datatype => .scalar datatype
    | none => .reference d.classes

def field (d : PathDraft) : Field := ⟨d.path, d.kind, d.required⟩

end PathDraft

/-- Enters a constraint: a new path for a new name, or more of the path that has the name. -/
def addConstraint (drafts : List PathDraft) (r : ConstraintRow) : List PathDraft :=
  if drafts.any (·.path.name = r.path.name) then
    drafts.map fun d => if d.path = r.path then d.add r else d
  else drafts ++ [(PathDraft.start r.path).add r]

/-- The rank of a field's name in the order of fields. -/
def fieldRank (name : String) : Nat :=
  if name = "value" then 0 else if name = "hasUnit" then 1 else 2

def fieldLe (a b : Field) : Bool :=
  fieldRank a.name < fieldRank b.name ||
    (fieldRank a.name == fieldRank b.name && a.name ≤ b.name)

/-- The shape that constraints make. -/
def RecordShape.ofRows (iri : Iri) (rows : List ConstraintRow) : RecordShape :=
  ⟨iri, ((rows.foldl addConstraint []).map PathDraft.field).mergeSort fieldLe⟩

end BuildingModel
