import BuildingModel.Proofs.Relation.Faithful
import BuildingModel.Proofs.Relation.Nearest
import BuildingModel.Proofs.Schema.Parts
import BuildingModel.Proofs.Session.Change

/-!
# Capabilities

What an entity may be related to is what its class advertises. A request for a relation ends in one
of four ways: the class has no such relation, the target is unknown, the nearest binding does not
admit the target, or the target is attached. The first of them is the end of all requests for what
is not among the capabilities of the class, and of no others.
-/
namespace BuildingModel

open BuildingModel.Rdf BuildingModel.Ontology BuildingModel.Validation

variable {d : Dataset} {settings : Settings} {schema : Schema} {c : ClassId}

/-! ## Schemas of an ontology -/

/-- A schema comes from an ontology: it is the one that is built, or has another validator. -/
inductive Schema.ComesFrom (d : Dataset) (settings : Settings) : Schema → Prop
  | built {E : PatternEngine} {schema : Schema} (hb : build d settings E = .ok schema) :
      ComesFrom d settings schema
  | withValidator {schema : Schema} (hs : ComesFrom d settings schema) (v : GraphValidator) :
      ComesFrom d settings (schema.withValidator v)

theorem RelationRegistry.nodup_names_of_build {h : Hierarchy} {shapes : ShapeCatalog}
    {propertyClass : Iri} {rs : RelationRegistry} (hb : build d h shapes propertyClass = .ok rs) :
    (rs.relations.map Relation.name).Nodup := by
  obtain ⟨ds, -, rfl⟩ := map_eq_ok hb
  exact nodup_names_ofDeclarations ds

namespace Schema

theorem ComesFrom.nodup_names (hs : ComesFrom d settings schema) :
    (schema.relations.relations.map Relation.name).Nodup := by
  induction hs with
  | built hb =>
    obtain ⟨_, _, hparts⟩ := parts_of_build hb
    exact RelationRegistry.nodup_names_of_build hparts.relations
  | withValidator _ _ ih => exact ih

theorem ComesFrom.get?_eq_some_iff (hs : ComesFrom d settings schema) {name : String}
    {r : Relation} :
    schema.relations.get? name = some r ↔ r ∈ schema.relations.relations ∧ r.name = name :=
  RelationRegistry.get?_eq_some_iff hs.nodup_names

/-- The relations for a class are those that have a binding for it. -/
theorem mem_forClass_iff {r : Relation} :
    r ∈ schema.relations.forClass schema.hierarchy c ↔
      r ∈ schema.relations.relations ∧ (r.bindingFor? schema.hierarchy c).isSome := by
  rw [RelationRegistry.forClass, List.mem_filter, Relation.isSome_bindingFor?_iff]

/-- A capability is to add to a relation that has a binding for the class. -/
theorem ComesFrom.mem_capabilities_iff (hs : ComesFrom d settings schema) {capability : String} :
    capability ∈ schema.capabilities c ↔
      ∃ property, Session.capabilityProperty? capability = some property ∧
        (Session.bindingOf? schema property c).isSome := by
  simp only [capabilities, List.mem_map, mem_forClass_iff, Session.capabilityProperty?_eq_some_iff]
  constructor
  · rintro ⟨r, ⟨hr, hbound⟩, rfl⟩
    obtain ⟨b, hb⟩ := Option.isSome_iff_exists.1 hbound
    refine ⟨r.name, rfl, Option.isSome_iff_exists.2 ⟨(r, b), ?_⟩⟩
    exact Session.bindingOf?_eq_some_iff.2 ⟨hs.get?_eq_some_iff.2 ⟨hr, rfl⟩, hb⟩
  · rintro ⟨property, rfl, hbound⟩
    obtain ⟨⟨r, b⟩, hrb⟩ := Option.isSome_iff_exists.1 hbound
    obtain ⟨hr, hb⟩ := Session.bindingOf?_eq_some_iff.1 hrb
    obtain ⟨hmem, rfl⟩ := hs.get?_eq_some_iff.1 hr
    exact ⟨r, ⟨hmem, Option.isSome_iff_exists.2 ⟨b, hb⟩⟩, rfl⟩

end Schema

namespace Session

variable {s : Session schema} {subject : EntityId} {e : Entity} {property : String} {t : Target}

/-! ## How a request ends -/

/-- How a request to relate an entity to a target ends. -/
inductive Relating (s : Session schema) (subject : EntityId) (e : Entity) (property : String)
    (t : Target) : Except ModelError (Session schema) → Prop
  | unbound (hrb : bindingOf? schema property e.classId = none) :
      Relating s subject e property t
        (.error (.unknownRelation (schema.hierarchy.nameOf e.classId) property))
  | unowned {r : Relation} {b : Binding} {name : String}
      (hrb : bindingOf? schema property e.classId = some (r, b)) (ht : ¬ s.Owns t) :
      Relating s subject e property t (.error (.unknownInstance name))
  | refused {r : Relation} {b : Binding} {v : TargetView}
      (hrb : bindingOf? schema property e.classId = some (r, b)) (hv : s.view t = .ok v)
      (ht : ¬ s.Admits b t) :
      Relating s subject e property t (.error (.typeConstraint
        ⟨e.iri.text, property, v.name, v.typeName, b.range.map schema.targetName⟩))
  | attached {r : Relation} {b : Binding}
      (hrb : bindingOf? schema property e.classId = some (r, b)) (ht : s.Admits b t) :
      Relating s subject e property t (.ok (s.attach subject.index property t))

theorem entity_eq_error {id : EntityId} {x : ModelError} (h : s.entity id = .error x) :
    ∃ name, x = .unknownInstance name := by
  unfold entity at h
  split at h
  · cases h
  · cases h
    exact ⟨_, rfl⟩

theorem record_eq_error {id : RecordId} {x : ModelError} (h : s.record id = .error x) :
    ∃ name, x = .unknownInstance name := by
  unfold record at h
  split at h
  · cases h
  · cases h
    exact ⟨_, rfl⟩

theorem view_eq_error {x : ModelError} (h : s.view t = .error x) :
    ¬ s.Owns t ∧ ∃ name, x = .unknownInstance name := by
  constructor
  · intro ht
    cases ht with
    | entity he =>
      obtain ⟨v, hv, -⟩ := view_entity he
      rw [h] at hv
      cases hv
    | record hr =>
      obtain ⟨v, hv, -⟩ := view_record hr
      rw [h] at hv
      cases hv
  · cases t with
    | entity id =>
      cases he : s.entity id with
      | ok e => rw [view, he] at h; cases h
      | error y =>
        rw [view, he] at h
        cases h
        exact entity_eq_error he
    | record id =>
      cases hr : s.record id with
      | ok r => rw [view, hr] at h; cases h
      | error y =>
        rw [view, hr] at h
        cases h
        exact record_eq_error hr

theorem addRelation_of_unbound (he : s.IsEntity subject e)
    (hrb : bindingOf? schema property e.classId = none) :
    s.addRelation subject property t =
      .error (.unknownRelation (schema.hierarchy.nameOf e.classId) property) := by
  simp [addRelation, attempt, Operation.relate, Operation.bind_apply, entity_eq_ok_iff.2 he, hrb,
    Except.map]

theorem addRelation_of_view_eq_error {r : Relation} {b : Binding} {x : ModelError}
    (he : s.IsEntity subject e) (hrb : bindingOf? schema property e.classId = some (r, b))
    (hv : s.view t = .error x) : s.addRelation subject property t = .error x := by
  simp [addRelation, attempt, Operation.relate, Operation.bind_apply, entity_eq_ok_iff.2 he, hrb,
    hv, Except.map]

theorem addRelation_of_view_eq_ok {r : Relation} {b : Binding} {v : TargetView}
    (he : s.IsEntity subject e) (hrb : bindingOf? schema property e.classId = some (r, b))
    (hv : s.view t = .ok v) : s.addRelation subject property t =
      if b.range = [] ∨ ∃ x ∈ b.range, v.admittedBy x = true then
        .ok (s.attach subject.index property t)
      else .error (.typeConstraint
        ⟨e.iri.text, property, v.name, v.typeName, b.range.map schema.targetName⟩) := by
  have hname := name_of_get? (bindingOf?_eq_some_iff.1 hrb).1
  by_cases hok : b.range = [] ∨ ∃ x ∈ b.range, v.admittedBy x = true
  · simp [addRelation, attempt, Operation.relate, Operation.bind_apply, entity_eq_ok_iff.2 he, hrb,
      hv, hok, Except.map, hname]
  · simp [addRelation, attempt, Operation.relate, Operation.bind_apply, entity_eq_ok_iff.2 he, hrb,
      hv, hok, Except.map, hname]

theorem relating (he : s.IsEntity subject e) (property : String) (t : Target) :
    s.Relating subject e property t (s.addRelation subject property t) := by
  cases hrb : bindingOf? schema property e.classId with
  | none =>
    rw [addRelation_of_unbound he hrb]
    exact .unbound hrb
  | some rb =>
    obtain ⟨r, b⟩ := rb
    cases hv : s.view t with
    | error x =>
      obtain ⟨ht, name, rfl⟩ := view_eq_error hv
      rw [addRelation_of_view_eq_error he hrb hv]
      exact .unowned hrb ht
    | ok v =>
      obtain ⟨howns, htype⟩ := view_spec hv
      have hadmits : (b.range = [] ∨ ∃ x ∈ b.range, v.admittedBy x = true) ↔ s.Admits b t := by
        simp only [htype]
        exact ⟨fun h => ⟨howns, h⟩, Admits.type⟩
      rw [addRelation_of_view_eq_ok he hrb hv]
      by_cases ht : s.Admits b t
      · rw [if_pos (hadmits.2 ht)]
        exact .attached hrb ht
      · rw [if_neg (fun h => ht (hadmits.1 h))]
        exact .refused hrb hv ht

/-- A relation is added if it is bound for the class of the subject and its binding admits the
target. -/
theorem exists_addRelation_iff (he : s.IsEntity subject e) :
    (∃ s', s.addRelation subject property t = .ok s') ↔
      ∃ r b, schema.relations.get? property = some r ∧
        r.bindingFor? schema.hierarchy e.classId = some b ∧ s.Admits b t := by
  have hbound : (∃ r b, schema.relations.get? property = some r ∧
      r.bindingFor? schema.hierarchy e.classId = some b ∧ s.Admits b t) ↔
      ∃ rb, bindingOf? schema property e.classId = some rb ∧ s.Admits rb.2 t := by
    simp [bindingOf?_eq_some_iff, and_assoc]
  rw [hbound]
  generalize hresult : s.addRelation subject property t = result
  have hend := relating he property t
  rw [hresult] at hend
  cases hend with
  | unbound hrb => simp [hrb]
  | unowned hrb ht =>
    have hno : ∀ b, ¬ s.Admits b t := fun b hadmits => ht hadmits.owns
    simp [hno]
  | refused hrb hv ht => simp [hrb, ht]
  | attached hrb ht => simp [hrb, ht]

/-- A target that only has the wrong type is refused with the names of the admitted types. -/
theorem addRelation_of_not_admits {r : Relation} {b : Binding} (he : s.IsEntity subject e)
    (hr : schema.relations.get? property = some r)
    (hb : r.bindingFor? schema.hierarchy e.classId = some b) (howns : s.Owns t)
    (hno : ¬ s.Admits b t) :
    ∃ v, s.view t = .ok v ∧ s.addRelation subject property t = .error (.typeConstraint
      ⟨e.iri.text, property, v.name, v.typeName, b.range.map schema.targetName⟩) := by
  have hbound := bindingOf?_eq_some_iff.2 ⟨hr, hb⟩
  generalize hresult : s.addRelation subject property t = result
  have hend := relating he property t
  rw [hresult] at hend
  cases hend with
  | unbound hrb =>
    rw [hbound] at hrb
    cases hrb
  | unowned _ ht => exact absurd howns ht
  | refused hrb hv _ =>
    rw [hbound] at hrb
    cases hrb
    exact ⟨_, hv, rfl⟩
  | attached hrb ht =>
    rw [hbound] at hrb
    cases hrb
    exact absurd ht hno

/-- A relation is unknown if it is not bound for the class of the subject. -/
theorem addRelation_unknown_iff (he : s.IsEntity subject e) :
    (∃ c p, s.addRelation subject property t = .error (.unknownRelation c p)) ↔
      bindingOf? schema property e.classId = none := by
  generalize hresult : s.addRelation subject property t = result
  have hend := relating he property t
  rw [hresult] at hend
  cases hend with
  | unbound hrb => simp [hrb]
  | unowned hrb _ => simp [hrb]
  | refused hrb _ _ => simp [hrb]
  | attached hrb _ => simp [hrb]

/-- A capability is unknown if it is not the one of a relation that is bound for the class. -/
theorem invoke_unknown_iff (he : s.IsEntity subject e) {capability : String} :
    (∃ c p, s.invoke subject capability t = .error (.unknownRelation c p)) ↔
      ∀ property, capabilityProperty? capability = some property →
        bindingOf? schema property e.classId = none := by
  cases hc : capabilityProperty? capability with
  | none =>
    have hend : s.invoke subject capability t =
        .error (.unknownRelation (schema.hierarchy.nameOf e.classId) capability) := by
      simp [invoke, attempt, Operation.invoke, Operation.bind_apply, hc, entity_eq_ok_iff.2 he,
        Except.map]
    simp [hend]
  | some property =>
    have hend : s.invoke subject capability t = s.addRelation subject property t := by
      simp only [invoke, addRelation, Operation.invoke, hc]
    rw [hend, addRelation_unknown_iff he]
    simp

/-- What is accepted is what is advertised: a relation is added if the nearest binding for the class
of the subject admits the target; a target that only has the wrong type is refused with the names of
the types that the binding allows; and a capability is unknown if the class does not have it. The
relations that are advertised for a class are those that have a binding for it. -/
theorem accepted_as_advertised (hs : schema.ComesFrom d settings) (s : Session schema)
    (he : s.IsEntity subject e) :
    (∀ property t, (∃ s', s.addRelation subject property t = .ok s') ↔
      ∃ r b, schema.relations.get? property = some r ∧
        r.bindingFor? schema.hierarchy e.classId = some b ∧ s.Admits b t) ∧
    (∀ property t r b, schema.relations.get? property = some r →
      r.bindingFor? schema.hierarchy e.classId = some b → s.Owns t → ¬ s.Admits b t →
      ∃ v, s.view t = .ok v ∧ s.addRelation subject property t = .error (.typeConstraint
        ⟨e.iri.text, property, v.name, v.typeName, b.range.map schema.targetName⟩)) ∧
    (∀ capability t, (∃ c p, s.invoke subject capability t = .error (.unknownRelation c p)) ↔
      capability ∉ schema.capabilities e.classId) ∧
    ∀ c r, r ∈ schema.relations.forClass schema.hierarchy c ↔
      r ∈ schema.relations.relations ∧ (r.bindingFor? schema.hierarchy c).isSome := by
  refine ⟨fun property t => exists_addRelation_iff he,
    fun property t r b hr hb howns hno => addRelation_of_not_admits he hr hb howns hno, ?_,
    fun c r => Schema.mem_forClass_iff⟩
  intro capability t
  rw [invoke_unknown_iff he, hs.mem_capabilities_iff]
  simp

/-! ## Pumps and tanks -/

/-- An ontology in which pumps feed tanks. -/
def pumpOntology : Dataset :=
  .ofTriples [
    ⟨.iri ⟨"urn:plant#feeds"⟩, Vocabulary.type, .iri Vocabulary.objectProperty⟩,
    ⟨.iri ⟨"urn:plant#feeds"⟩, Vocabulary.domain, .iri ⟨"urn:plant#Pump"⟩⟩,
    ⟨.iri ⟨"urn:plant#feeds"⟩, Vocabulary.range, .iri ⟨"urn:plant#Tank"⟩⟩]

/-- The settings under which its classes are registered. -/
def pumpSettings : Settings :=
  { Settings.standard with ns := "urn:plant#", roots := ["Pump", "Tank"], loadUnits := false }

def pumpSchema : Schema where
  settings := pumpSettings
  hierarchy := .ofClasses [
    ⟨⟨"urn:plant#Entity"⟩, some "Entity", none, none, []⟩,
    ⟨⟨"urn:plant#Pump"⟩, some "Pump", none, some ⟨0⟩, []⟩,
    ⟨⟨"urn:plant#Tank"⟩, some "Tank", none, some ⟨0⟩, []⟩]
  relations := .ofRelations [⟨⟨"urn:plant#feeds"⟩, [⟨⟨1⟩, [.class ⟨2⟩]⟩]⟩]
  shapes := .empty
  units := .empty
  validator := ShapeValidator.graphValidator ⟨pumpOntology, []⟩

theorem build_pumpHierarchy : Hierarchy.build pumpOntology "urn:plant#" "Entity" ["Pump", "Tank"]
    .firstWins = .ok pumpSchema.hierarchy :=
  Hierarchy.build_eq_ok_of_withRoots (by decide) (by decide +kernel)

theorem ofDataset_pumpOntology :
    ShapeValidator.ofDataset pumpOntology = .ok ⟨pumpOntology, []⟩ := by
  have hload : loadShapes pumpOntology .expressions = .ok [] := by cbv
  rw [ShapeValidator.ofDataset, hload]
  rfl

theorem build_pumpSchema : Schema.build pumpOntology pumpSettings = .ok pumpSchema := by
  have hparts : Schema.Parts pumpOntology pumpSettings .expressions pumpSchema
      ⟨"urn:plant#EntityProperty"⟩ ⟨pumpOntology, []⟩ := by
    constructor
    · rfl
    · decide
    · exact build_pumpHierarchy
    · rfl
    · decide +kernel
    · decide +kernel
    · exact ofDataset_pumpOntology
    · rfl
  exact hparts.build_eq_ok

def pumpSession : Session pumpSchema :=
  (start pumpSchema 0).run [.create "Pump" "urn:p" none, .create "Tank" "urn:t" none]

/-- A pump feeds a tank but no pump, and a tank feeds nothing. -/
theorem accepted_as_advertised_pump :
    (∃ s', pumpSession.addRelation ⟨0, 0⟩ "feeds" (.entity ⟨0, 1⟩) = .ok s') ∧
    pumpSession.addRelation ⟨0, 0⟩ "feeds" (.entity ⟨0, 0⟩) =
      .error (.typeConstraint ⟨"urn:p", "feeds", "urn:p", "Pump", ["Tank"]⟩) ∧
    ∃ c p,
      pumpSession.invoke ⟨0, 1⟩ "add_feeds" (.entity ⟨0, 1⟩) = .error (.unknownRelation c p) := by
  have hpump : pumpSession.IsEntity ⟨0, 0⟩ ⟨⟨"urn:p"⟩, none, ⟨1⟩, []⟩ := by
    constructor <;> decide +kernel
  have htank : pumpSession.IsEntity ⟨0, 1⟩ ⟨⟨"urn:t"⟩, none, ⟨2⟩, []⟩ := by
    constructor <;> decide +kernel
  have hr : pumpSchema.relations.get? "feeds" =
      some ⟨⟨"urn:plant#feeds"⟩, [⟨⟨1⟩, [.class ⟨2⟩]⟩]⟩ := by decide +kernel
  have hb : Relation.bindingFor? ⟨⟨"urn:plant#feeds"⟩, [⟨⟨1⟩, [.class ⟨2⟩]⟩]⟩ pumpSchema.hierarchy
      ⟨1⟩ = some ⟨⟨1⟩, [.class ⟨2⟩]⟩ := by decide +kernel
  obtain ⟨haccepted, hrefused, -, -⟩ :=
    accepted_as_advertised (.built build_pumpSchema) pumpSession hpump
  obtain ⟨-, -, hunknown, -⟩ := accepted_as_advertised (.built build_pumpSchema) pumpSession htank
  refine ⟨?_, ?_, ?_⟩
  · have hadmits : pumpSession.Admits ⟨⟨1⟩, [.class ⟨2⟩]⟩ (.entity ⟨0, 1⟩) :=
      ⟨.entity htank, .inr ⟨.class ⟨2⟩, by simp, .entity htank (.refl _)⟩⟩
    exact (haccepted "feeds" _).2 ⟨_, _, hr, hb, hadmits⟩
  · have hno : ¬ pumpSession.Admits ⟨⟨1⟩, [.class ⟨2⟩]⟩ (.entity ⟨0, 0⟩) := by
      rintro ⟨-, hrange | ⟨x, hx, htype⟩⟩
      · cases hrange
      · rw [List.mem_singleton.1 hx] at htype
        cases htype with
        | entity he hdescends =>
          rw [he.unique hpump] at hdescends
          exact absurd (Hierarchy.isSubclass_iff.2 hdescends) (by decide +kernel)
    obtain ⟨v, hv, hend⟩ := hrefused "feeds" _ _ _ hr hb (.entity hpump) hno
    have hpumpName : pumpSchema.hierarchy.nameOf ⟨1⟩ = "Pump" := by decide +kernel
    have htankName : pumpSchema.hierarchy.nameOf ⟨2⟩ = "Tank" := by decide +kernel
    rw [view, entity_eq_ok_iff.2 hpump] at hv
    cases hv
    rw [hend]
    simp [Schema.targetName, hpumpName, htankName]
  · exact (hunknown "add_feeds" _).2 (by decide +kernel)

end Session

end BuildingModel
