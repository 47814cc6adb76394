import BuildingModel.Proofs.Session.Handles
import BuildingModel.Session.Run

/-!
# What a request changes

A request either fails and leaves the session as it is, or makes one of three changes: a new entity
at the end, a new record at the end, or a further target at the end of one relation.
-/
namespace BuildingModel

open BuildingModel.Rdf

namespace Operation

variable {schema : Schema} {α β : Type}

@[simp] theorem throw_apply (e : ModelError) (s : Session schema) :
    (throw e : Operation schema α) s = (.error e, s) := rfl

@[simp] theorem get_apply (s : Session schema) :
    (get : Operation schema (Session schema)) s = (.ok s, s) := rfl

@[simp] theorem modify_apply (f : Session schema → Session schema) (s : Session schema) :
    (modify f : Operation schema Unit) s = (.ok (), f s) := rfl

@[simp] theorem reading_apply (f : Session schema → Except ModelError α) (s : Session schema) :
    reading f s = (f s, s) := rfl

theorem bind_apply (x : Operation schema α) (f : α → Operation schema β) (s : Session schema) :
    (x >>= f) s = match x s with
      | (.ok a, s') => f a s'
      | (.error e, s') => (.error e, s') := by
  cases hx : x s with
  | mk r s' => cases r <;> simp [bind, ExceptT.bind, ExceptT.mk, StateT.bind, hx] <;> rfl

theorem map_apply (f : α → β) (x : Operation schema α) (s : Session schema) :
    (f <$> x) s = match x s with
      | (.ok a, s') => (.ok (f a), s')
      | (.error e, s') => (.error e, s') := by
  cases hx : x s with
  | mk r s' =>
    cases r <;> simp [Functor.map, ExceptT.map, ExceptT.mk, StateT.bind, bind, hx] <;> rfl

end Operation

namespace Session

variable {schema : Schema} {s : Session schema}

theorem view_entity {id : EntityId} {e : Entity} (he : s.IsEntity id e) :
    ∃ v, s.view (.entity id) = .ok v ∧
      ∀ x, v.admittedBy x = true ↔ s.HasType (.entity id) x := by
  refine ⟨_, by rw [view, entity_eq_ok_iff.2 he]; rfl, ?_⟩
  intro x
  cases x with
  | «class» c =>
    constructor
    · intro h
      exact .entity he (Hierarchy.isSubclass_iff.1 h)
    · intro h
      cases h with
      | entity he' hc =>
        rw [he.unique he']
        exact Hierarchy.isSubclass_iff.2 hc
  | shape i =>
    constructor
    · intro h; cases h
    · intro h; cases h

theorem view_record {id : RecordId} {r : Record} (hr : s.IsRecord id r) :
    ∃ v, s.view (.record id) = .ok v ∧
      ∀ x, v.admittedBy x = true ↔ s.HasType (.record id) x := by
  refine ⟨_, by rw [view, record_eq_ok_iff.2 hr]; rfl, ?_⟩
  intro x
  simp only [beq_iff_eq]
  constructor
  · rintro rfl
    exact .record hr
  · intro h
    cases h with
    | record hr' =>
      have heq : some r = some _ := hr.2.symm.trans hr'.2
      rw [Option.some.inj heq]

theorem view_spec {t : Target} {v : TargetView} (h : s.view t = .ok v) :
    s.Owns t ∧ ∀ x, v.admittedBy x = true ↔ s.HasType t x := by
  cases t with
  | entity id =>
    cases he : s.entity id with
    | error e => rw [view, he] at h; cases h
    | ok e =>
      have hid := entity_eq_ok_iff.1 he
      obtain ⟨v', hv, hx⟩ := view_entity hid
      rw [hv] at h
      cases h
      exact ⟨.entity hid, hx⟩
  | record id =>
    cases hr : s.record id with
    | error e => rw [view, hr] at h; cases h
    | ok r =>
      have hid := record_eq_ok_iff.1 hr
      obtain ⟨v', hv, hx⟩ := view_record hid
      rw [hv] at h
      cases h
      exact ⟨.record hid, hx⟩

theorem bindingOf?_eq_some_iff {property : String} {c : ClassId} {r : Relation} {b : Binding} :
    bindingOf? schema property c = some (r, b) ↔
      schema.relations.get? property = some r ∧ r.bindingFor? schema.hierarchy c = some b := by
  simp only [bindingOf?, Option.bind_eq_some_iff, Option.map_eq_some_iff, Prod.mk.injEq]
  constructor
  · rintro ⟨r', hr, b', hb, rfl, rfl⟩
    exact ⟨hr, hb⟩
  · intro ⟨hr, hb⟩
    exact ⟨r, hr, b, hb, rfl, rfl⟩

theorem name_of_get? {registry : RelationRegistry} {property : String} {r : Relation}
    (h : registry.get? property = some r) : r.name = property :=
  (RelationRegistry.mem_relations_of_get? h).2

theorem capabilityProperty?_eq_some_iff {capability property : String} :
    capabilityProperty? capability = some property ↔ capability = "add_" ++ property := by
  have hlist : capability = "add_" ++ property ↔
      capability.toList = 'a' :: 'd' :: 'd' :: '_' :: property.toList := by
    rw [← String.toList_inj, String.toList_append]
    rfl
  rw [hlist, capabilityProperty?]
  split
  · rename_i cs hcs
    rw [hcs]
    simp only [Option.some.injEq, List.cons.injEq, true_and]
    rw [← String.toList_inj, String.toList_ofList]
  · rename_i hne
    simp only [reduceCtorEq, false_iff]
    exact hne property.toList

end Session

/-- The attachment that a request asks for: to which entity, by which relation and which target. -/
def Request.attachment? : Request → Option (EntityId × String × Target)
  | .relate subject property t => some (subject, property, t)
  | .invoke subject capability t =>
    (Session.capabilityProperty? capability).map fun property => (subject, property, t)
  | _ => none

namespace Session

variable {schema : Schema} {s : Session schema}

/-- What a request does to a session when it does not fail, and what is answered. -/
inductive Change (s : Session schema) : Request → Reply → Session schema → Prop
  | create {className iri : String} {label : Option String} {c : ClassId} {parsed : Iri}
      (hclass : schema.hierarchy.byName className = some c) (hiri : Iri.parse? iri = some parsed)
      (hnew : s.byIri iri = none) :
      Change s (.create className iri label) (.entity s.nextEntity)
        ((s.enterHandle iri s.nextEntity).addEntity ⟨parsed, label, c, []⟩)
  | build {shapeName : String} {sets : List FieldSetting} {id : ShapeId} {shape : RecordShape}
      {fields : List FieldEntry} (hname : schema.shapes.byName shapeName = some id)
      (hshape : schema.shapes.get? id = some shape)
      (hknown : ∀ x ∈ settingsOf sets, (shape.field? x.name).isSome)
      (hfields : s.fieldEntries shape.name (settingsOf sets) shape.fields = .ok fields) :
      Change s (.build shapeName sets) (.record s.nextRecord) (s.addRecord ⟨id, fields⟩)
  | relate {request : Request} {subject : EntityId} {property : String} {t : Target} {e : Entity}
      {r : Relation} {b : Binding} (hrequest : request.attachment? = some (subject, property, t))
      (he : s.IsEntity subject e) (hr : schema.relations.get? property = some r)
      (hb : r.bindingFor? schema.hierarchy e.classId = some b) (ht : s.Admits b t) :
      Change s request .done (s.attach subject.index property t)

/-- A request fails and changes nothing, or makes its change. -/
inductive Outcome (s : Session schema) (r : Request) : Prop
  | failed {e : ModelError} (hanswer : s.answer r = .error e) (hstep : s.step r = s)
  | changed {reply : Reply} (hanswer : s.answer r = .ok reply)
      (hchange : s.Change r reply (s.step r))

theorem create_cases (className iri : String) (label : Option String) (s : Session schema) :
    (∃ e, Operation.create className iri label s = (.error e, s)) ∨
    ∃ c parsed, schema.hierarchy.byName className = some c ∧ Iri.parse? iri = some parsed ∧
      s.byIri iri = none ∧ Operation.create className iri label s =
        (.ok s.nextEntity, (s.enterHandle iri s.nextEntity).addEntity ⟨parsed, label, c, []⟩) := by
  unfold Operation.create
  cases hc : schema.hierarchy.byName className with
  | none => exact .inl ⟨_, rfl⟩
  | some c =>
    cases hp : Iri.parse? iri with
    | none => exact .inl ⟨_, rfl⟩
    | some parsed =>
      cases hb : s.byIri iri with
      | some id => exact .inl ⟨.duplicateEntity iri, by simp [Operation.bind_apply, hb]⟩
      | none =>
        refine .inr ⟨c, parsed, rfl, rfl, rfl, ?_⟩
        simp [Operation.bind_apply, Operation.map_apply, hb]

theorem relate_cases (subject : EntityId) (property : String) (t : Target) (s : Session schema) :
    (∃ e, Operation.relate subject property t s = (.error e, s)) ∨
    ∃ e r b, s.IsEntity subject e ∧ schema.relations.get? property = some r ∧
      r.bindingFor? schema.hierarchy e.classId = some b ∧ s.Admits b t ∧
      Operation.relate subject property t s = (.ok (), s.attach subject.index property t) := by
  unfold Operation.relate
  rw [Operation.bind_apply, Operation.reading_apply]
  cases he : s.entity subject with
  | error x => exact .inl ⟨x, rfl⟩
  | ok e =>
    simp only
    cases hrb : bindingOf? schema property e.classId with
    | none => exact .inl ⟨_, rfl⟩
    | some rb =>
      obtain ⟨r, b⟩ := rb
      obtain ⟨hr, hb⟩ := bindingOf?_eq_some_iff.1 hrb
      simp only
      rw [Operation.bind_apply, Operation.reading_apply]
      cases hv : s.view t with
      | error x => exact .inl ⟨x, rfl⟩
      | ok v =>
        obtain ⟨howns, htype⟩ := view_spec hv
        simp only
        by_cases hok : (b.range.isEmpty || b.range.any v.admittedBy) = true
        · refine .inr ⟨e, r, b, entity_eq_ok_iff.1 he, hr, hb, ⟨howns, ?_⟩, ?_⟩
          · simpa [htype] using hok
          · rw [if_pos hok, Operation.modify_apply, name_of_get? hr]
        · rw [if_neg hok]
          exact .inl ⟨_, rfl⟩

theorem build_cases (shapeName : String) (settings : List FieldSetting) (s : Session schema) :
    (∃ e, Operation.build shapeName settings s = (.error e, s)) ∨
    ∃ id shape fields, schema.shapes.byName shapeName = some id ∧
      schema.shapes.get? id = some shape ∧
      (∀ x ∈ settings, (shape.field? x.name).isSome) ∧
      s.fieldEntries shape.name settings shape.fields = .ok fields ∧
      Operation.build shapeName settings s = (.ok s.nextRecord, s.addRecord ⟨id, fields⟩) := by
  unfold Operation.build
  cases hfound : (schema.shapes.byName shapeName).bind fun id =>
      (schema.shapes.get? id).map fun shape => (id, shape) with
  | none => exact .inl ⟨_, rfl⟩
  | some found =>
    obtain ⟨id, shape⟩ := found
    obtain ⟨id', hname, hget⟩ := Option.bind_eq_some_iff.1 hfound
    obtain ⟨shape', hshape, hpair⟩ := Option.map_eq_some_iff.1 hget
    cases hpair
    simp only
    cases hunknown : settings.find? fun x => (shape.field? x.name).isNone with
    | some x => exact .inl ⟨_, rfl⟩
    | none =>
      simp only
      rw [Operation.bind_apply, Operation.reading_apply]
      cases hfields : s.fieldEntries shape.name settings shape.fields with
      | error x => exact .inl ⟨x, rfl⟩
      | ok fields =>
        refine .inr ⟨id, shape, fields, hname, hshape, ?_, hfields, ?_⟩
        · intro x hx
          simpa [Option.isSome_iff_ne_none] using List.find?_eq_none.1 hunknown x hx
        · simp [Operation.bind_apply, Operation.map_apply]

theorem invoke_cases (subject : EntityId) (capability : String) (t : Target)
    (s : Session schema) :
    (∃ e, Operation.invoke subject capability t s = (.error e, s)) ∨
    ∃ property, capabilityProperty? capability = some property ∧
      Operation.invoke subject capability t s = Operation.relate subject property t s := by
  unfold Operation.invoke
  cases hp : capabilityProperty? capability with
  | some property => exact .inr ⟨property, rfl, rfl⟩
  | none =>
    simp only
    rw [Operation.bind_apply, Operation.reading_apply]
    cases s.entity subject <;> exact .inl ⟨_, rfl⟩

theorem Outcome.of_error {α : Type} {r : Request} {op : Operation schema α} {f : α → Reply}
    {e : ModelError} (hop : r.operation = f <$> op) (h : op s = (.error e, s)) :
    s.Outcome r := by
  have hrun : r.operation s = (.error e, s) := by rw [hop, Operation.map_apply, h]
  exact .failed (congrArg Prod.fst hrun) (congrArg Prod.snd hrun)

theorem Outcome.of_ok {α : Type} {r : Request} {op : Operation schema α} {f : α → Reply} {a : α}
    {s' : Session schema} (hop : r.operation = f <$> op) (h : op s = (.ok a, s'))
    (hchange : s.Change r (f a) s') : s.Outcome r := by
  have hrun : r.operation s = (.ok (f a), s') := by rw [hop, Operation.map_apply, h]
  have hstep : s.step r = s' := congrArg Prod.snd hrun
  exact .changed (congrArg Prod.fst hrun) (by rw [hstep]; exact hchange)

theorem outcome (s : Session schema) (r : Request) : s.Outcome r := by
  cases r with
  | create className iri label =>
    rcases create_cases className iri label s with ⟨e, h⟩ | ⟨c, parsed, hc, hp, hb, h⟩
    · exact .of_error rfl h
    · exact .of_ok rfl h (.create hc hp hb)
  | build shapeName sets =>
    rcases build_cases shapeName (settingsOf sets) s with
      ⟨e, h⟩ | ⟨id, shape, fields, hname, hshape, hknown, hfields, h⟩
    · exact .of_error rfl h
    · exact .of_ok rfl h (.build hname hshape hknown hfields)
  | relate subject property t =>
    rcases relate_cases subject property t s with ⟨e, h⟩ | ⟨e, r, b, he, hr, hb, ht, h⟩
    · exact .of_error rfl h
    · exact .of_ok rfl h (.relate rfl he hr hb ht)
  | invoke subject capability t =>
    rcases invoke_cases subject capability t s with ⟨e, h⟩ | ⟨property, hp, hi⟩
    · exact .of_error rfl h
    · rcases relate_cases subject property t s with ⟨e, h⟩ | ⟨e, r, b, he, hr, hb, ht, h⟩
      · exact .of_error rfl (hi.trans h)
      · exact .of_ok rfl (hi.trans h) (.relate (by simp [Request.attachment?, hp]) he hr hb ht)

end Session

end BuildingModel
