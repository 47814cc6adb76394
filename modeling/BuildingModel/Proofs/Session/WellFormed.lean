import BuildingModel.Proofs.Session.Change
import BuildingModel.Proofs.Session.Fields

/-!
# Well-formed sessions

Whatever is asked of a session, and with whatever handles, it stays well-formed: its index is the
inverse of its list of entities, its relations hold only what their bindings admit, and its records
fill the fields of their shapes. Handles of other sessions have another number, so none of them ever
gets in.
-/
namespace BuildingModel.Session

open BuildingModel.Rdf

variable {schema : Schema} {s s' : Session schema}

/-- An attachment of an entity is in order: it has targets, and the binding of its relation for the
class of the entity admits each of them. -/
def Bound (s : Session schema) (c : ClassId) (a : Attachment) : Prop :=
  a.targets ≠ [] ∧ ∃ r b, schema.relations.get? a.property = some r ∧
    r.bindingFor? schema.hierarchy c = some b ∧ ∀ t ∈ a.targets, s.Admits b t

/-- A record is in order: its entries fill the fields of its shape one by one. -/
def Filled (s : Session schema) (r : Record) : Prop :=
  ∃ shape, schema.shapes.get? r.shape = some shape ∧ List.Forall₂ s.Fills shape.fields r.fields

/-- What holds of a session at all times. -/
structure WellFormed (s : Session schema) : Prop where
  iris : (s.entities.map fun e => e.iri.text).Nodup
  index : ∀ text id, s.byIri text = some id ↔ ∃ e, s.IsEntity id e ∧ e.iri.text = text
  classes : ∀ e ∈ s.entities, ∃ c, schema.hierarchy.classAt? e.classId = some c
  names : ∀ e ∈ s.entities, e.propertyNames.Nodup
  attachments : ∀ e ∈ s.entities, ∀ a ∈ e.attachments, s.Bound e.classId a
  records : ∀ r ∈ s.records, s.Filled r

theorem Bound.grow {c : ClassId} {a : Attachment} (h : s.Grows s') (ha : s.Bound c a) :
    s'.Bound c a := by
  obtain ⟨hne, r, b, hr, hb, hall⟩ := ha
  exact ⟨hne, r, b, hr, hb, fun t ht => h.admits (hall t ht)⟩

theorem Filled.grow {r : Record} (h : s.Grows s') (hr : s.Filled r) : s'.Filled r := by
  obtain ⟨shape, hshape, hfields⟩ := hr
  exact ⟨shape, hshape, hfields.imp fun f x hx => h.fills hx⟩

theorem wellFormed_start (schema : Schema) (number : ℕ) : (start schema number).WellFormed where
  iris := by simp [start]
  index := by simp [start, byIri, IsEntity]
  classes := by simp [start]
  names := by simp [start]
  attachments := by simp [start]
  records := by simp [start]

/-! ## A new entity -/

/-- The session with a new entity that is entered into the index. -/
abbrev created (s : Session schema) (iri : String) (e : Entity) : Session schema :=
  (s.enterHandle iri s.nextEntity).addEntity e

theorem isEntity_created_iff {iri : String} {e e' : Entity} {id : EntityId} :
    (s.created iri e).IsEntity id e' ↔ s.IsEntity id e' ∨ (id = s.nextEntity ∧ e' = e) := by
  simp only [IsEntity, created, addEntity, enterHandle, nextEntity, List.getElem?_append]
  obtain ⟨session, index⟩ := id
  simp only [EntityId.mk.injEq]
  by_cases hlt : index < s.entities.length
  · have hne : index ≠ s.entities.length := by omega
    simp [hlt, hne]
  · have hnone : s.entities[index]? = none := by simpa using hlt
    rw [if_neg hlt, hnone]
    by_cases heq : index = s.entities.length
    · subst heq
      simp only [Nat.sub_self, List.getElem?_cons_zero, Option.some.injEq, reduceCtorEq, and_false,
        and_true, false_or]
      exact and_congr_right fun _ => eq_comm
    · have hpos : index - s.entities.length ≠ 0 := by omega
      simp [heq, hpos]

theorem grows_created (s : Session schema) (iri : String) (e : Entity) :
    s.Grows (s.created iri e) :=
  ⟨rfl, fun he => ⟨_, isEntity_created_iff.2 (.inl he), rfl, rfl, rfl⟩, fun hr => hr⟩

theorem byIri_created (s : Session schema) (iri text : String) (e : Entity) :
    (s.created iri e).byIri text = if text = iri then some s.nextEntity else s.byIri text := by
  simp only [byIri, created, addEntity, enterHandle, List.lookup_cons]
  by_cases h : text = iri
  · simp [h]
  · have hne : (text == iri) = false := by simpa using h
    rw [hne, if_neg h]

theorem wellFormed_created {className iri : String} {label : Option String} {c : ClassId}
    {parsed : Iri} (hs : s.WellFormed) (hclass : schema.hierarchy.byName className = some c)
    (hiri : Iri.parse? iri = some parsed) (hnew : s.byIri iri = none) :
    (s.created iri ⟨parsed, label, c, []⟩).WellFormed := by
  have hgrow := grows_created s iri ⟨parsed, label, c, []⟩
  have htext : parsed.text = iri := (Iri.parse?_eq_some_iff.1 hiri).1
  have hfresh : ∀ id e, s.IsEntity id e → e.iri.text ≠ iri := by
    intro id e he heq
    rw [(hs.index iri id).2 ⟨e, he, heq⟩] at hnew
    cases hnew
  have hmem : ∀ e ∈ (s.created iri ⟨parsed, label, c, []⟩).entities,
      e ∈ s.entities ∨ e = ⟨parsed, label, c, []⟩ := by
    intro e he
    simpa [created, addEntity, enterHandle] using he
  constructor
  · simp only [created, addEntity, enterHandle, List.map_append, List.map_cons, List.map_nil]
    rw [← List.concat_eq_append, List.nodup_concat]
    refine ⟨?_, hs.iris⟩
    intro hin
    obtain ⟨e, he, heq⟩ := List.mem_map.1 hin
    obtain ⟨i, hi⟩ := List.mem_iff_getElem?.1 he
    exact hfresh ⟨s.number, i⟩ e ⟨rfl, hi⟩ (heq.trans htext)
  · intro text id
    rw [byIri_created]
    simp only [isEntity_created_iff]
    by_cases h : text = iri
    · subst h
      rw [if_pos rfl]
      constructor
      · intro hid
        exact ⟨_, .inr ⟨(Option.some.inj hid).symm, rfl⟩, htext⟩
      · rintro ⟨e, he | ⟨rfl, rfl⟩, heq⟩
        · exact absurd heq (hfresh id e he)
        · rfl
    · rw [if_neg h, hs.index text id]
      constructor
      · intro ⟨e, he, heq⟩
        exact ⟨e, .inl he, heq⟩
      · rintro ⟨e, he | ⟨rfl, rfl⟩, heq⟩
        · exact ⟨e, he, heq⟩
        · exact absurd (heq.symm.trans htext) h
  · intro e he
    rcases hmem e he with he | rfl
    · exact hs.classes e he
    · obtain ⟨entry, hentry, -⟩ := schema.hierarchy.exists_classAt?_of_byName hclass
      exact ⟨entry, hentry⟩
  · intro e he
    rcases hmem e he with he | rfl
    · exact hs.names e he
    · exact List.nodup_nil
  · intro e he a ha
    rcases hmem e he with he | rfl
    · exact (hs.attachments e he a ha).grow hgrow
    · cases ha
  · intro r hr
    exact (hs.records r hr).grow hgrow

/-! ## A new record -/

theorem isRecord_addRecord {id : RecordId} {r r' : Record} (h : s.IsRecord id r') :
    (s.addRecord r).IsRecord id r' := by
  refine ⟨h.1, ?_⟩
  have hlt : id.index < s.records.length := (List.getElem?_eq_some_iff.1 h.2).1
  rw [addRecord, List.getElem?_append_left hlt]
  exact h.2

theorem grows_addRecord (s : Session schema) (r : Record) : s.Grows (s.addRecord r) :=
  ⟨rfl, fun he => ⟨_, he, rfl, rfl, rfl⟩, isRecord_addRecord⟩

theorem wellFormed_addRecord {id : ShapeId} {shape : RecordShape} {fields : List FieldEntry}
    (hs : s.WellFormed) (hshape : schema.shapes.get? id = some shape)
    (hfields : List.Forall₂ s.Fills shape.fields fields) :
    (s.addRecord ⟨id, fields⟩).WellFormed := by
  have hgrow := grows_addRecord s ⟨id, fields⟩
  refine ⟨hs.iris, hs.index, hs.classes, hs.names, ?_, ?_⟩
  · intro e he a ha
    exact (hs.attachments e he a ha).grow hgrow
  · intro r hr
    rcases List.mem_append.1 hr with hr | hr
    · exact (hs.records r hr).grow hgrow
    · rw [List.mem_singleton.1 hr]
      exact Filled.grow hgrow ⟨shape, hshape, hfields⟩

/-! ## A further target -/

theorem isEntity_attach_iff {index : ℕ} {property : String} {t : Target} {id : EntityId}
    {e' : Entity} :
    (s.attach index property t).IsEntity id e' ↔
      ∃ e, s.IsEntity id e ∧ e' = if id.index = index then e.attach property t else e := by
  simp only [IsEntity, attach, List.getElem?_modify]
  cases s.entities[id.index]? with
  | none => simp
  | some e =>
    by_cases h : id.index = index
    · simp [h, eq_comm]
    · simp [h, Ne.symm h, eq_comm]

theorem grows_attach (s : Session schema) (index : ℕ) (property : String) (t : Target) :
    s.Grows (s.attach index property t) := by
  refine ⟨rfl, ?_, fun hr => hr⟩
  intro id e he
  refine ⟨_, isEntity_attach_iff.2 ⟨e, he, rfl⟩, ?_⟩
  split
  · exact ⟨e.iri_attach property t, e.label_attach property t, e.classId_attach property t⟩
  · exact ⟨rfl, rfl, rfl⟩

theorem mem_entities_attach {index : ℕ} {property : String} {t : Target} {e' : Entity}
    (he' : e' ∈ (s.attach index property t).entities) :
    ∃ id e, s.IsEntity id e ∧ e' = if id.index = index then e.attach property t else e := by
  obtain ⟨i, hi⟩ := List.mem_iff_getElem?.1 he'
  obtain ⟨e, he, heq⟩ := isEntity_attach_iff.1
    (⟨rfl, hi⟩ : (s.attach index property t).IsEntity ⟨s.number, i⟩ e')
  exact ⟨⟨s.number, i⟩, e, he, heq⟩

theorem iris_attach (s : Session schema) (index : ℕ) (property : String) (t : Target) :
    (s.attach index property t).entities.map (fun e => e.iri.text) =
      s.entities.map fun e => e.iri.text := by
  apply List.ext_getElem?
  intro i
  simp only [attach, List.getElem?_map, List.getElem?_modify]
  cases s.entities[i]? with
  | none => rfl
  | some e =>
    by_cases h : index = i
    · simp [h]
    · simp [h]

theorem exists_isEntity_attach_iff {index : ℕ} {property text : String} {t : Target}
    {id : EntityId} :
    (∃ e, (s.attach index property t).IsEntity id e ∧ e.iri.text = text) ↔
      ∃ e, s.IsEntity id e ∧ e.iri.text = text := by
  have hgrow := grows_attach s index property t
  constructor
  · intro ⟨e', he', htext⟩
    obtain ⟨e, he, -⟩ := isEntity_attach_iff.1 he'
    obtain ⟨e'', he'', hiri, -, -⟩ := hgrow.entity he
    rw [he''.unique he'] at hiri
    exact ⟨e, he, by rw [← hiri, htext]⟩
  · intro ⟨e, he, htext⟩
    obtain ⟨e', he', hiri, -, -⟩ := hgrow.entity he
    exact ⟨e', he', by rw [hiri, htext]⟩

/-- The new target is admitted by the same binding as the targets that are there. -/
theorem bound_attach {property : String} {t : Target} {e : Entity} {r : Relation} {b : Binding}
    (hold : ∀ a ∈ e.attachments, s.Bound e.classId a)
    (hr : schema.relations.get? property = some r)
    (hb : r.bindingFor? schema.hierarchy e.classId = some b) (ht : s.Admits b t) {a : Attachment}
    (ha : a ∈ (e.attach property t).attachments) : s.Bound e.classId a := by
  rcases Entity.mem_attachments_attach ha with ha | rfl | ⟨a', ha', hp, rfl⟩
  · exact hold a ha
  · refine ⟨by simp, r, b, hr, hb, ?_⟩
    intro t' ht'
    rw [List.mem_singleton.1 ht']
    exact ht
  · obtain ⟨-, r', b', hr', hb', hall⟩ := hold a' ha'
    rw [hp, hr] at hr'
    cases hr'
    rw [hb] at hb'
    cases hb'
    refine ⟨by simp, r, b, hr, hb, ?_⟩
    intro t' ht'
    rcases List.mem_append.1 ht' with ht' | ht'
    · exact hall t' ht'
    · rw [List.mem_singleton.1 ht']
      exact ht

theorem wellFormed_attach {subject : EntityId} {property : String} {t : Target} {e : Entity}
    {r : Relation} {b : Binding} (hs : s.WellFormed) (he : s.IsEntity subject e)
    (hr : schema.relations.get? property = some r)
    (hb : r.bindingFor? schema.hierarchy e.classId = some b) (ht : s.Admits b t) :
    (s.attach subject.index property t).WellFormed := by
  have hgrow := grows_attach s subject.index property t
  constructor
  · rw [iris_attach]
    exact hs.iris
  · intro text id
    have hkeep : (s.attach subject.index property t).byIri text = s.byIri text := rfl
    rw [hkeep, hs.index text id, exists_isEntity_attach_iff]
  · intro x' hx'
    obtain ⟨id, x, hx, rfl⟩ := mem_entities_attach hx'
    have hclass := hs.classes x hx.mem
    split
    · rwa [Entity.classId_attach]
    · exact hclass
  · intro x' hx'
    obtain ⟨id, x, hx, rfl⟩ := mem_entities_attach hx'
    have hnames := hs.names x hx.mem
    split
    · rw [Entity.propertyNames_attach]
      by_cases hin : property ∈ x.propertyNames
      · rw [if_pos hin]
        exact hnames
      · rw [if_neg hin, ← List.concat_eq_append, List.nodup_concat]
        exact ⟨hin, hnames⟩
    · exact hnames
  · intro x' hx' a ha
    obtain ⟨id, x, hx, rfl⟩ := mem_entities_attach hx'
    have hold : ∀ a ∈ x.attachments, s.Bound x.classId a := hs.attachments x hx.mem
    by_cases hid : id.index = subject.index
    · have hsubject : id = subject := hx.eq_of_index_eq he hid
      have hxe : x = e := hx.unique (by rw [hsubject]; exact he)
      subst hxe
      rw [if_pos hid] at ha ⊢
      rw [Entity.classId_attach]
      exact (bound_attach hold hr hb ht ha).grow hgrow
    · rw [if_neg hid] at ha ⊢
      exact (hold a ha).grow hgrow
  · intro x hx
    exact (hs.records x hx).grow hgrow

/-! ## Runs -/

theorem wellFormed_change {r : Request} {reply : Reply} (hs : s.WellFormed)
    (h : s.Change r reply s') : s'.WellFormed := by
  cases h with
  | create hclass hiri hnew => exact wellFormed_created hs hclass hiri hnew
  | build hname hshape hknown hfields =>
    exact wellFormed_addRecord hs hshape (fills_of_fieldEntries hfields)
  | relate hrequest he hr hb ht => exact wellFormed_attach hs he hr hb ht

theorem wellFormed_step (hs : s.WellFormed) (r : Request) : (s.step r).WellFormed := by
  cases s.outcome r with
  | failed hanswer hstep => rwa [hstep]
  | changed hanswer hchange => exact wellFormed_change hs hchange

theorem wellFormed_run (hs : s.WellFormed) (rs : List Request) : (s.run rs).WellFormed := by
  induction rs generalizing s with
  | nil => exact hs
  | cons r rs ih => exact ih (wellFormed_step hs r)

theorem number_change {r : Request} {reply : Reply} (h : s.Change r reply s') :
    s'.number = s.number := by
  cases h <;> rfl

theorem number_step (s : Session schema) (r : Request) : (s.step r).number = s.number := by
  cases s.outcome r with
  | failed hanswer hstep => rw [hstep]
  | changed hanswer hchange => exact number_change hchange

theorem number_run (s : Session schema) (rs : List Request) : (s.run rs).number = s.number := by
  induction rs generalizing s with
  | nil => rfl
  | cons r rs ih => exact (ih (s.step r)).trans (number_step s r)

/-- Whatever is asked of a session, and with whatever handles, it stays well-formed, and its handles
are those of its own number. -/
theorem wellFormed_of_run (schema : Schema) (number : ℕ) (rs : List Request) :
    ((start schema number).run rs).number = number ∧
      ((start schema number).run rs).WellFormed :=
  ⟨number_run _ rs, wellFormed_run (wellFormed_start schema number) rs⟩

end BuildingModel.Session
