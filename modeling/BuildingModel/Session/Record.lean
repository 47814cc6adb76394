import BuildingModel.Session.Operation

/-!
# Building records

A record is built from inputs for the fields of its shape. Each input has to be admissible for the
kind of its field, and becomes the value of the field.
-/
namespace BuildingModel

open BuildingModel.Rdf BuildingModel.Number

structure FieldSetting where
  name : String
  input : FieldInput
  deriving DecidableEq, Repr

/-- The inputs of a record with one more; an earlier one for the same field is replaced. -/
def setField (settings : List FieldSetting) (name : String) (input : FieldInput) :
    List FieldSetting :=
  if settings.any (·.name = name) then
    settings.map fun s => if s.name = name then ⟨name, input⟩ else s
  else settings ++ [⟨name, input⟩]

/-- The inputs of a record that are set one after the other. -/
def settingsOf (sets : List FieldSetting) : List FieldSetting :=
  sets.foldl (fun settings s => setField settings s.name s.input) []

/-- Whether an input names a member of an enumeration: by key, as the term itself, or as a number or
truth value that its text stands for. -/
def memberMatches (t : Term) : FieldInput → Bool
  | .text s => memberKey t = s || t.iri?.any (·.text = s)
  | .iri i => t = .iri i
  | .unit i => t = .iri i
  | .literal l => t = .literal l
  | .integer n => t.literal?.any fun l => (readSigned64 (Text.trim l.text)).toOption = some n
  | .float x =>
    t.literal?.any fun l => (readBinary binary64 (Text.trim l.text)).toOption.any (·.same x)
  | .boolean b => t.literal?.any fun l => Text.trim l.text = booleanText b
  | .entity _ => false
  | .record _ => false

/-- The text that a scalar field gets from an input. Only finite numbers have a text as exact
decimals. -/
def scalarText? (datatype : Iri) : FieldInput → Option String
  | .float x =>
    if ScalarKind.ofDatatype datatype = .float && (x.isFinite || datatype ≠ Xsd.decimal) then
      some (floatText binary64 x)
    else none
  | .integer n =>
    if ScalarKind.ofDatatype datatype ∈ [.float, .integer] then some (integerText n) else none
  | .boolean b =>
    if ScalarKind.ofDatatype datatype = .boolean then some (booleanText b) else none
  | .text s =>
    if ScalarKind.ofDatatype datatype ∈ [.string, .other] then some s else none
  | _ => none

/-- The literal that a scalar field gets from an input: a literal of its datatype as it is. -/
def scalarValue? (datatype : Iri) (input : FieldInput) : Option Literal :=
  match input with
  | .literal l => if l.datatype = datatype then some l else none
  | _ => (scalarText? datatype input).map fun text => .ofTyped text datatype

namespace Session

variable {schema : Schema}

def unitOf (schema : Schema) (shape : String) (field : Field) :
    FieldInput → Except ModelError Iri
  | .unit i => .ok i
  | .iri i => .ok i
  | .text key =>
    match schema.units.find? key with
    | some u => .ok u.iri
    | none => .error (.unknownUnit key)
  | input => .error (.shapeViolation (.typeMismatch shape field.name "Unit" input.describe))

/-- Whether an entity may be referred to where some classes are asked for; classes that are not of
the hierarchy do not count. -/
def admitsEntity (schema : Schema) (classes : List Iri) (e : Entity) : Bool :=
  let known := classes.filterMap schema.hierarchy.byIri
  known.isEmpty || known.any (schema.hierarchy.isSubclass e.classId)

def fieldValue (s : Session schema) (shape : String) (field : Field) (input : FieldInput) :
    Except ModelError FieldValue :=
  let mismatch {α : Type} (expected : String) : Except ModelError α :=
    .error (.shapeViolation (.typeMismatch shape field.name expected input.describe))
  match field.kind with
  | .enumeration members =>
    match members.find? (memberMatches · input) with
    | some t => .ok (.term t)
    | none =>
      .error (.shapeViolation
        (.notInEnumeration shape field.name input.describe (members.map memberKey)))
  | .unit allowed => do
    let unit ← unitOf schema shape field input
    if allowed.isEmpty || allowed.contains unit then return .term (.iri unit)
    else
      .error (.shapeViolation
        (.notInEnumeration shape field.name unit.text (allowed.map Iri.name)))
  | .scalar datatype =>
    match scalarValue? datatype input with
    | some l => .ok (.term (.literal l))
    | none => mismatch datatype.name
  | .reference classes =>
    match input with
    | .entity id => do
      let e ← s.entity id
      if admitsEntity schema classes e then return .entity id else mismatch field.kind.describe
    | .record id => do
      let _ ← s.record id
      return .record id
    | .iri i => .ok (.term (.iri i))
    | .unit i => .ok (.term (.iri i))
    | _ => mismatch field.kind.describe

/-- The field of a record by what is set; only a required field has to be. -/
def fieldEntry (s : Session schema) (shape : String) (settings : List FieldSetting)
    (field : Field) : Except ModelError FieldEntry :=
  match settings.find? (·.name = field.name) with
  | some setting => do
    let value ← s.fieldValue shape field setting.input
    return ⟨field.name, some value⟩
  | none =>
    if field.required then .error (.shapeViolation (.missingField shape field.name))
    else .ok ⟨field.name, none⟩

def fieldEntries (s : Session schema) (shape : String) (settings : List FieldSetting) :
    List Field → Except ModelError (List FieldEntry)
  | [] => .ok []
  | f :: fs => do
    let entry ← s.fieldEntry shape settings f
    let entries ← fieldEntries s shape settings fs
    return entry :: entries

end Session

/-- Builds a record of a shape from its settings. Unknown fields are refused first. -/
def Operation.build {schema : Schema} (shapeName : String) (settings : List FieldSetting) :
    Operation schema RecordId := do
  match (schema.shapes.byName shapeName).bind fun id =>
      (schema.shapes.get? id).map fun shape => (id, shape) with
  | none => throw (.unknownShape shapeName)
  | some (id, shape) =>
    match settings.find? fun x => (shape.field? x.name).isNone with
    | some x => throw (.shapeViolation (.unknownField shape.name x.name))
    | none =>
      let fields ← reading fun s => s.fieldEntries shape.name settings shape.fields
      let s ← get
      modify (·.addRecord ⟨id, fields⟩)
      return s.nextRecord

def Session.buildRecord {schema : Schema} (s : Session schema) (shapeName : String)
    (settings : List FieldSetting) : Except ModelError (Session schema × RecordId) :=
  s.attempt (.build shapeName settings)

end BuildingModel
