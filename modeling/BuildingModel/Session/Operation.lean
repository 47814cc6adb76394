import BuildingModel.Session.Basic

/-!
# Operations on a session

An operation reads a session and changes it step by step. It may fail on the way, and what it has
changed by then stays changed: nothing is undone for it.
-/
namespace BuildingModel

open BuildingModel.Rdf

/-- An operation on a session with a result or a failure. -/
abbrev Operation (schema : Schema) := ExceptT ModelError (StateM (Session schema))

namespace Operation

variable {schema : Schema} {α : Type}

/-- A look-up that may fail. -/
def reading (f : Session schema → Except ModelError α) : Operation schema α :=
  fun s => (f s, s)

/-- Creates an entity of a class; no two entities have one IRI. -/
def create (className iri : String) (label : Option String) : Operation schema EntityId := do
  match schema.hierarchy.byName className with
  | none => throw (.unknownClass className)
  | some classId =>
    match Iri.parse? iri with
    | none => throw (.invalidIri iri)
    | some parsed =>
      let s ← get
      if (s.byIri iri).isSome then throw (.duplicateEntity iri)
      else
        modify (·.enterHandle iri s.nextEntity)
        modify (·.addEntity ⟨parsed, label, classId, []⟩)
        return s.nextEntity

/-- Adds a target to a relation of an entity. The relation has to be bound above the entity's class,
and the target has to be of a type that the binding admits. -/
def relate (subject : EntityId) (property : String) (t : Target) : Operation schema Unit := do
  let e ← reading (·.entity subject)
  match Session.bindingOf? schema property e.classId with
  | none => throw (.unknownRelation (schema.hierarchy.nameOf e.classId) property)
  | some (r, b) =>
    let v ← reading (·.view t)
    if b.range.isEmpty || b.range.any v.admittedBy then
      modify (·.attach subject.index r.name t)
    else
      throw (.typeConstraint
        ⟨e.iri.text, r.name, v.name, v.typeName, b.range.map schema.targetName⟩)

/-- Adds a target to a relation of an entity by the name of the capability. -/
def invoke (subject : EntityId) (capability : String) (t : Target) : Operation schema Unit := do
  match Session.capabilityProperty? capability with
  | some property => relate subject property t
  | none =>
    let e ← reading (·.entity subject)
    throw (.unknownRelation (schema.hierarchy.nameOf e.classId) capability)

end Operation

namespace Session

variable {schema : Schema} {α : Type}

/-- The session that an operation leads to with its result, if it does not fail. -/
def attempt (s : Session schema) (op : Operation schema α) :
    Except ModelError (Session schema × α) :=
  match op s with
  | (.ok a, s') => .ok (s', a)
  | (.error e, _) => .error e

def createEntity (s : Session schema) (className iri : String) (label : Option String) :
    Except ModelError (Session schema × EntityId) :=
  s.attempt (.create className iri label)

def addRelation (s : Session schema) (subject : EntityId) (property : String) (t : Target) :
    Except ModelError (Session schema) :=
  (s.attempt (.relate subject property t)).map Prod.fst

/-- Adds a target to a relation of an entity by the name of the capability. -/
def invoke (s : Session schema) (subject : EntityId) (capability : String) (t : Target) :
    Except ModelError (Session schema) :=
  (s.attempt (.invoke subject capability t)).map Prod.fst

end Session

end BuildingModel
