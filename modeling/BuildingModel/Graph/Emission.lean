import BuildingModel.Session.Record

/-!
# Statements of a session

A session is said in statements: for each entity its class, its label if labels are wanted and the
targets of its relations, and after all entities for each record its shape and the values of its
fields.
-/
namespace BuildingModel.Session

open BuildingModel.Rdf

variable {schema : Schema}

def targetTerm (s : Session schema) : Target → Except ModelError Term
  | .entity id => (s.entity id).map fun e => .iri e.iri
  | .record id => (s.record id).map fun _ => .blank id.node

def valueTerm (s : Session schema) : FieldValue → Except ModelError Term
  | .term t => .ok t
  | .entity id => s.targetTerm (.entity id)
  | .record id => s.targetTerm (.record id)

/-- The statements that a number of things make one after the other, or the first failure. -/
def gather {α : Type} (f : α → Except ModelError (List Triple)) :
    List α → Except ModelError (List Triple)
  | [] => .ok []
  | x :: xs => do
    let own ← f x
    let more ← gather f xs
    return own ++ more

def targetTriples (s : Session schema) (subject : Node) (predicate : Iri) (t : Target) :
    Except ModelError (List Triple) :=
  (s.targetTerm t).map fun object => [⟨subject, predicate, object⟩]

/-- The statements of a relation of an entity; without a relation of its name an attachment says
nothing. -/
def attachmentTriples (s : Session schema) (subject : Node) (a : Attachment) :
    Except ModelError (List Triple) :=
  match schema.relations.get? a.property with
  | some r => gather (s.targetTriples subject r.iri) a.targets
  | none => .ok []

def classIri (schema : Schema) (c : ClassId) : List Iri :=
  ((schema.hierarchy.classAt? c).map ClassEntry.iri).toList

/-- What an entity is: its class, and its label if labels are wanted. -/
def identityTriples (schema : Schema) (e : Entity) : List Triple :=
  (classIri schema e.classId).map (fun c => ⟨.iri e.iri, Vocabulary.type, .iri c⟩) ++
    if schema.settings.emitLabels then
      e.label.toList.map fun l => ⟨.iri e.iri, Vocabulary.label, .literal (.plain l)⟩
    else []

def entityTriples (s : Session schema) (e : Entity) : Except ModelError (List Triple) := do
  let triples ← gather (s.attachmentTriples (.iri e.iri)) e.attachments
  return identityTriples schema e ++ triples

def fieldTriples (s : Session schema) (subject : Node) (r : Record) (f : Field) :
    Except ModelError (List Triple) :=
  match r.get? f.name with
  | some value => (s.valueTerm value).map fun object => [⟨subject, f.path, object⟩]
  | none => .ok []

/-- The statements of a record, its fields in the order of the shape. -/
def recordTriples (s : Session schema) (id : RecordId) (r : Record) :
    Except ModelError (List Triple) :=
  match schema.shapes.get? r.shape with
  | none => .ok []
  | some shape => do
    let triples ← gather (s.fieldTriples (.blank id.node) r) shape.fields
    return ⟨.blank id.node, Vocabulary.type, .iri shape.iri⟩ :: triples

def statements (s : Session schema) : Except ModelError (List Triple) := do
  let ofEntities ← gather s.entityTriples s.entities
  let ofRecords ← gather (fun x => s.recordTriples ⟨s.number, x.2⟩ x.1) s.records.zipIdx
  return ofEntities ++ ofRecords

end BuildingModel.Session
