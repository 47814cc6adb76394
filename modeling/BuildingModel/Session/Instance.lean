import BuildingModel.Number.Binary
import BuildingModel.Schema.Basic

/-!
# Instances

Entities and records are referred to by handles that name the session they belong to. An entity
keeps the targets of its relations in the order in which they were attached; a record keeps a value
or nothing for each field of its shape.
-/
namespace BuildingModel

open BuildingModel.Rdf BuildingModel.Number

structure EntityId where
  session : Nat
  index : Nat
  deriving DecidableEq, Repr

structure RecordId where
  session : Nat
  index : Nat
  deriving DecidableEq, Repr

/-- The blank node that a record becomes. -/
def RecordId.node (r : RecordId) : BlankNode :=
  let own := "r" ++ Nat.repr r.index
  ⟨if r.session = 0 then own else "s" ++ Nat.repr r.session ++ own⟩

inductive Target
  | entity (id : EntityId)
  | record (id : RecordId)
  deriving DecidableEq, Repr

/-- The targets of a relation of an entity. -/
structure Attachment where
  property : String
  targets : List Target
  deriving DecidableEq, Repr

/-- An entity with its relations in the order in which they were first attached. -/
structure Entity where
  iri : Iri
  label : Option String
  classId : ClassId
  attachments : List Attachment
  deriving DecidableEq, Repr

namespace Entity

def propertyNames (e : Entity) : List String := e.attachments.map Attachment.property

def relation (e : Entity) (property : String) : List Target :=
  ((e.attachments.find? (·.property = property)).map Attachment.targets).getD []

def attach (e : Entity) (property : String) (t : Target) : Entity :=
  if e.attachments.any (·.property = property) then
    { e with attachments := e.attachments.map fun a =>
        if a.property = property then { a with targets := a.targets ++ [t] } else a }
  else { e with attachments := e.attachments ++ [⟨property, [t]⟩] }

@[simp] theorem iri_attach (e : Entity) (property : String) (t : Target) :
    (e.attach property t).iri = e.iri := by
  unfold attach
  split <;> rfl

@[simp] theorem label_attach (e : Entity) (property : String) (t : Target) :
    (e.attach property t).label = e.label := by
  unfold attach
  split <;> rfl

@[simp] theorem classId_attach (e : Entity) (property : String) (t : Target) :
    (e.attach property t).classId = e.classId := by
  unfold attach
  split <;> rfl

theorem mem_propertyNames {e : Entity} {property : String} :
    property ∈ e.propertyNames ↔ ∃ a ∈ e.attachments, a.property = property := by
  simp [propertyNames]

theorem any_property_iff {e : Entity} {property : String} :
    e.attachments.any (·.property = property) = true ↔ property ∈ e.propertyNames := by
  simp [propertyNames]

theorem propertyNames_attach (e : Entity) (property : String) (t : Target) :
    (e.attach property t).propertyNames =
      if property ∈ e.propertyNames then e.propertyNames else e.propertyNames ++ [property] := by
  unfold attach
  by_cases h : property ∈ e.propertyNames
  · rw [if_pos (any_property_iff.2 h), if_pos h]
    simp only [propertyNames, List.map_map]
    congr 1
    funext a
    simp only [Function.comp_apply]
    split <;> rfl
  · rw [if_neg (fun ha => h (any_property_iff.1 ha)), if_neg h]
    simp [propertyNames]

theorem relation_attach (e : Entity) (property other : String) (t : Target) :
    (e.attach property t).relation other =
      if other = property then e.relation property ++ [t] else e.relation other := by
  unfold attach
  by_cases h : property ∈ e.propertyNames
  · rw [if_pos (any_property_iff.2 h)]
    have hpred : (fun a : Attachment => decide (a.property = other)) ∘ (fun a =>
        if a.property = property then { a with targets := a.targets ++ [t] } else a) =
        fun a => decide (a.property = other) := by
      funext a
      simp only [Function.comp_apply]
      split <;> rfl
    simp only [relation, List.find?_map, hpred, Option.map_map]
    by_cases ho : other = property
    · subst ho
      rw [if_pos rfl]
      obtain ⟨a, hf⟩ := Option.isSome_iff_exists.1
        (List.find?_isSome.2 (by simpa using mem_propertyNames.1 h) :
          (e.attachments.find? (·.property = other)).isSome)
      have ha : a.property = other := by simpa using List.find?_some hf
      simp [hf, ha]
    · rw [if_neg ho]
      cases hf : e.attachments.find? (·.property = other) with
      | none => rfl
      | some a =>
        have ha : a.property = other := by simpa using List.find?_some hf
        simp [show a.property ≠ property from fun hp => ho (ha.symm.trans hp)]
  · rw [if_neg (fun ha => h (any_property_iff.1 ha))]
    have hnone : e.attachments.find? (·.property = property) = none := by
      rw [List.find?_eq_none]
      intro a ha hp
      exact h (mem_propertyNames.2 ⟨a, ha, by simpa using hp⟩)
    simp only [relation, List.find?_append]
    by_cases ho : other = property
    · subst ho
      rw [if_pos rfl, hnone]
      simp
    · rw [if_neg ho]
      cases hf : e.attachments.find? (·.property = other) with
      | some a => simp
      | none => simp [Ne.symm ho]

theorem mem_attachments_attach {e : Entity} {property : String} {t : Target} {a : Attachment}
    (ha : a ∈ (e.attach property t).attachments) :
    a ∈ e.attachments ∨ a = ⟨property, [t]⟩ ∨
      ∃ b ∈ e.attachments, b.property = property ∧ a = ⟨property, b.targets ++ [t]⟩ := by
  unfold attach at ha
  split at ha
  · obtain ⟨b, hb, rfl⟩ := List.mem_map.1 ha
    by_cases hp : b.property = property
    · exact .inr (.inr ⟨b, hb, hp, by simp [hp]⟩)
    · exact .inl (by simpa [hp] using hb)
  · rcases List.mem_append.1 ha with ha | ha
    · exact .inl ha
    · exact .inr (.inl (List.mem_singleton.1 ha))

end Entity

inductive FieldValue
  | term (t : Term)
  | entity (id : EntityId)
  | record (id : RecordId)
  deriving DecidableEq, Repr

/-- A field of a record by its name, with its value if it has one. -/
structure FieldEntry where
  name : String
  value : Option FieldValue
  deriving DecidableEq, Repr

/-- A record with the fields of its shape in order. -/
structure Record where
  shape : ShapeId
  fields : List FieldEntry
  deriving DecidableEq, Repr

def Record.get? (r : Record) (name : String) : Option FieldValue :=
  (r.fields.find? (·.name = name)).bind FieldEntry.value

inductive FieldInput
  | float (value : Binary)
  | integer (value : Int)
  | boolean (value : Bool)
  | text (value : String)
  | iri (value : Iri)
  | literal (value : Literal)
  | unit (value : Iri)
  | entity (id : EntityId)
  | record (id : RecordId)
  deriving DecidableEq, Repr

def booleanText (b : Bool) : String := if b then "true" else "false"

def FieldInput.describe : FieldInput → String
  | .float x => "float " ++ x.text binary64
  | .integer n => "integer " ++ integerText n
  | .boolean b => "boolean " ++ booleanText b
  | .text s => "text " ++ Text.quoted s
  | .iri i => "IRI " ++ i.written
  | .literal l => "literal " ++ l.written
  | .unit i => "unit " ++ i.written
  | .entity _ => "entity"
  | .record _ => "record"

end BuildingModel
