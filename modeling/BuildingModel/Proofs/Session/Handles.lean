import BuildingModel.Proofs.Hierarchy.Descent
import BuildingModel.Session.Record
import Mathlib.Tactic

/-!
# Handles of a session

What a handle stands for in a session, which targets a binding admits and which values a field
admits. All of this stays so while a session grows: entities keep their places, IRIs and classes,
and records stay as they are.
-/
namespace BuildingModel.Session

open BuildingModel.Rdf

variable {schema : Schema} {s s' s'' : Session schema}

/-- A handle of the session stands for an entity. -/
def IsEntity (s : Session schema) (id : EntityId) (e : Entity) : Prop :=
  id.session = s.number ∧ s.entities[id.index]? = some e

/-- A handle of the session stands for a record. -/
def IsRecord (s : Session schema) (id : RecordId) (r : Record) : Prop :=
  id.session = s.number ∧ s.records[id.index]? = some r

theorem entity_eq_ok_iff {id : EntityId} {e : Entity} :
    s.entity id = .ok e ↔ s.IsEntity id e := by
  unfold entity IsEntity
  by_cases h : id.session = s.number
  · rw [if_pos h]
    cases s.entities[id.index]? <;> simp [h]
  · simp [h]

theorem record_eq_ok_iff {id : RecordId} {r : Record} :
    s.record id = .ok r ↔ s.IsRecord id r := by
  unfold record IsRecord
  by_cases h : id.session = s.number
  · rw [if_pos h]
    cases s.records[id.index]? <;> simp [h]
  · simp [h]

theorem IsEntity.mem {id : EntityId} {e : Entity} (h : s.IsEntity id e) : e ∈ s.entities :=
  List.mem_of_getElem? h.2

theorem IsEntity.unique {id : EntityId} {e e' : Entity} (h : s.IsEntity id e)
    (h' : s.IsEntity id e') : e = e' := by
  have heq : some e = some e' := h.2.symm.trans h'.2
  exact Option.some.inj heq

/-- Of two handles of one place that stand for entities both are the same. -/
theorem IsEntity.eq_of_index_eq {id id' : EntityId} {e e' : Entity} (h : s.IsEntity id e)
    (h' : s.IsEntity id' e') (hindex : id.index = id'.index) : id = id' := by
  have hsession : id.session = id'.session := h.1.trans h'.1.symm
  cases id
  cases id'
  simp only [EntityId.mk.injEq]
  exact ⟨hsession, hindex⟩

/-- A target of the session is of a type: an entity of a class that descends from the asked one, or
a record of the asked shape. -/
inductive HasType (s : Session schema) : Target → TargetType → Prop
  | entity {id : EntityId} {e : Entity} {c : ClassId} (he : s.IsEntity id e)
      (hc : schema.hierarchy.Descends e.classId c) : HasType s (.entity id) (.class c)
  | record {id : RecordId} {r : Record} (hr : s.IsRecord id r) :
      HasType s (.record id) (.shape r.shape)

/-- A target belongs to the session. -/
inductive Owns (s : Session schema) : Target → Prop
  | entity {id : EntityId} {e : Entity} (he : s.IsEntity id e) : Owns s (.entity id)
  | record {id : RecordId} {r : Record} (hr : s.IsRecord id r) : Owns s (.record id)

/-- A target belongs to the session and is of a type that a binding allows. -/
structure Admits (s : Session schema) (b : Binding) (t : Target) : Prop where
  owns : s.Owns t
  type : b.range = [] ∨ ∃ x ∈ b.range, s.HasType t x

/-- A value is of the kind that a field asks for. Classes that are not of the hierarchy are not
asked of an entity. -/
inductive Admissible (s : Session schema) : FieldKind → FieldValue → Prop
  | member {members : List Term} {t : Term} (ht : t ∈ members) :
      Admissible s (.enumeration members) (.term t)
  | unit {allowed : List Iri} {i : Iri} (hi : allowed = [] ∨ i ∈ allowed) :
      Admissible s (.unit allowed) (.term (.iri i))
  | literal {l : Literal} : Admissible s (.scalar l.datatype) (.term (.literal l))
  | iri {classes : List Iri} {i : Iri} : Admissible s (.reference classes) (.term (.iri i))
  | entity {classes : List Iri} {id : EntityId} {e : Entity} (he : s.IsEntity id e)
      (hc : (∀ i ∈ classes, schema.hierarchy.byIri i = none) ∨
        ∃ i ∈ classes, ∃ c, schema.hierarchy.byIri i = some c ∧
          schema.hierarchy.Descends e.classId c) :
      Admissible s (.reference classes) (.entity id)
  | record {classes : List Iri} {id : RecordId} {r : Record} (hr : s.IsRecord id r) :
      Admissible s (.reference classes) (.record id)

/-- An entry of a record is the one of a field: it has its name, a value if one is required, and no
value that is not of its kind. -/
structure Fills (s : Session schema) (f : Field) (x : FieldEntry) : Prop where
  name : x.name = f.name
  required : f.required = true → x.value ≠ none
  admissible : ∀ v, x.value = some v → s.Admissible f.kind v

/-- A session has grown into another one. -/
structure Grows (s s' : Session schema) : Prop where
  number : s'.number = s.number
  entity : ∀ {id e}, s.IsEntity id e →
    ∃ e', s'.IsEntity id e' ∧ e'.iri = e.iri ∧ e'.label = e.label ∧ e'.classId = e.classId
  record : ∀ {id r}, s.IsRecord id r → s'.IsRecord id r

namespace Grows

theorem hasType {t : Target} {x : TargetType} (h : s.Grows s') (ht : s.HasType t x) :
    s'.HasType t x := by
  cases ht with
  | entity he hc =>
    obtain ⟨e', he', -, -, hclass⟩ := h.entity he
    exact .entity he' (by rw [hclass]; exact hc)
  | record hr => exact .record (h.record hr)

theorem owns {t : Target} (h : s.Grows s') (ht : s.Owns t) : s'.Owns t := by
  cases ht with
  | entity he =>
    obtain ⟨e', he', -⟩ := h.entity he
    exact .entity he'
  | record hr => exact .record (h.record hr)

theorem admits {b : Binding} {t : Target} (h : s.Grows s') (ha : s.Admits b t) : s'.Admits b t :=
  ⟨h.owns ha.owns, ha.type.imp id fun ⟨x, hx, ht⟩ => ⟨x, hx, h.hasType ht⟩⟩

theorem admissible {k : FieldKind} {v : FieldValue} (h : s.Grows s') (ha : s.Admissible k v) :
    s'.Admissible k v := by
  cases ha with
  | member ht => exact .member ht
  | unit hi => exact .unit hi
  | literal => exact .literal
  | iri => exact .iri
  | entity he hc =>
    obtain ⟨e', he', -, -, hclass⟩ := h.entity he
    exact .entity he' (by rw [hclass]; exact hc)
  | record hr => exact .record (h.record hr)

theorem fills {f : Field} {x : FieldEntry} (h : s.Grows s') (hf : s.Fills f x) : s'.Fills f x :=
  ⟨hf.name, hf.required, fun v hv => h.admissible (hf.admissible v hv)⟩

end Grows

end BuildingModel.Session
