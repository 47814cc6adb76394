import BuildingModel.Session.Error
import BuildingModel.Session.Instance

/-!
# Sessions

A session holds the entities and records created through it, in order of creation, and an index of
the entities by IRI. Handles of other sessions are refused.
-/
namespace BuildingModel

open BuildingModel.Rdf

/-- A workspace over a schema. -/
structure Session (schema : Schema) where
  number : Nat
  entities : List Entity
  /-- The handles of entities by IRI, the newest first. -/
  handles : List (String × EntityId)
  records : List Record

namespace Session

variable {schema : Schema}

def start (schema : Schema) (number : Nat) : Session schema := ⟨number, [], [], []⟩

def entity (s : Session schema) (id : EntityId) : Except ModelError Entity :=
  match if id.session = s.number then s.entities[id.index]? else none with
  | some e => .ok e
  | none => .error (.unknownInstance ("entity #" ++ Nat.repr id.index))

def record (s : Session schema) (id : RecordId) : Except ModelError Record :=
  match if id.session = s.number then s.records[id.index]? else none with
  | some r => .ok r
  | none => .error (.unknownInstance ("record #" ++ Nat.repr id.index))

/-- The handle of the entity with an IRI. -/
def byIri (s : Session schema) (iri : String) : Option EntityId :=
  s.handles.lookup iri

def nextEntity (s : Session schema) : EntityId := ⟨s.number, s.entities.length⟩

def nextRecord (s : Session schema) : RecordId := ⟨s.number, s.records.length⟩

def enterHandle (s : Session schema) (iri : String) (id : EntityId) : Session schema :=
  { s with handles := (iri, id) :: s.handles }

def addEntity (s : Session schema) (e : Entity) : Session schema :=
  { s with entities := s.entities ++ [e] }

def addRecord (s : Session schema) (r : Record) : Session schema :=
  { s with records := s.records ++ [r] }

/-- Attaches a target to the entity at a place. -/
def attach (s : Session schema) (index : Nat) (property : String) (t : Target) : Session schema :=
  { s with entities := s.entities.modify index (·.attach property t) }

/-- Whether the entity of a handle is of a class or one below it; of no class, if the name is
unknown. -/
def isA (e : Entity) (schema : Schema) (className : String) : Bool :=
  (schema.hierarchy.byName className).any (schema.hierarchy.isSubclass e.classId)

def display (schema : Schema) (e : Entity) : String :=
  "<BRICK " ++ ((schema.hierarchy.classAt? e.classId).map ClassEntry.displayLabel).getD "" ++
    ": " ++ e.iri.text ++ ">"

/-- What is said of a target: how it is named, its type, and whether a target type admits it. -/
structure TargetView where
  name : String
  typeName : String
  admittedBy : TargetType → Bool

/-- What is said of a target of the session. -/
def view (s : Session schema) : Target → Except ModelError TargetView
  | .entity id => do
    let e ← s.entity id
    return {
      name := e.iri.text
      typeName := schema.hierarchy.nameOf e.classId
      admittedBy := fun t =>
        match t with
        | .class c => schema.hierarchy.isSubclass e.classId c
        | .shape _ => false }
  | .record id => do
    let r ← s.record id
    return {
      name := id.node.written
      typeName := schema.shapes.nameOf r.shape
      admittedBy := fun t => t == .shape r.shape }

/-- The binding of a relation that applies to a class. -/
def bindingOf? (schema : Schema) (property : String) (c : ClassId) : Option (Relation × Binding) :=
  (schema.relations.get? property).bind fun r =>
    (r.bindingFor? schema.hierarchy c).map fun b => (r, b)

/-- The relation that a capability adds to. -/
def capabilityProperty? (capability : String) : Option String :=
  match capability.toList with
  | 'a' :: 'd' :: 'd' :: '_' :: cs => some (String.ofList cs)
  | _ => none

def relation (s : Session schema) (subject : EntityId) (property : String) :
    Except ModelError (List Target) :=
  (s.entity subject).map fun e => e.relation property

end Session

end BuildingModel
