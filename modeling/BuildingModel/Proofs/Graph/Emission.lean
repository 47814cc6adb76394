import BuildingModel.Graph.Emission
import BuildingModel.Proofs.Failure
import BuildingModel.Proofs.Lists
import BuildingModel.Proofs.Session.WellFormed

/-!
# What a session says

The statements of a session, block by block: those of its entities and then those of its records. A
session that is well-formed has them all: no look-up fails and no relation is passed over.
-/
namespace BuildingModel.Session

open BuildingModel.Rdf

variable {schema : Schema} {s : Session schema}

/-- A term stands for a target of the session: an IRI for an entity, a blank node for a record. -/
inductive Denotes (s : Session schema) : Target → Term → Prop
  | entity {id : EntityId} {e : Entity} (he : s.IsEntity id e) : Denotes s (.entity id) (.iri e.iri)
  | record {id : RecordId} {r : Record} (hr : s.IsRecord id r) :
      Denotes s (.record id) (.blank id.node)

/-- A term stands for the value of a field. -/
inductive DenotesValue (s : Session schema) : FieldValue → Term → Prop
  | term {t : Term} : DenotesValue s (.term t) t
  | entity {id : EntityId} {t : Term} (h : s.Denotes (.entity id) t) : DenotesValue s (.entity id) t
  | record {id : RecordId} {t : Term} (h : s.Denotes (.record id) t) : DenotesValue s (.record id) t

/-- The statements of a relation of an entity, one for each target. -/
def RelationBlock (s : Session schema) (e : Entity) (a : Attachment) (block : List Triple) : Prop :=
  ∃ r, schema.relations.get? a.property = some r ∧
    List.Forall₂ (fun t x => ∃ o, s.Denotes t o ∧ x = ⟨.iri e.iri, r.iri, o⟩) a.targets block

/-- The statements of an entity: its class, its label where labels are wanted, its relations. -/
inductive EntityBlock (s : Session schema) (e : Entity) : List Triple → Prop
  | intro {c : ClassEntry} {blocks : List (List Triple)}
      (hclass : schema.hierarchy.classAt? e.classId = some c)
      (hblocks : List.Forall₂ (s.RelationBlock e) e.attachments blocks) :
      EntityBlock s e ([⟨.iri e.iri, Vocabulary.type, .iri c.iri⟩] ++
        (if schema.settings.emitLabels then
          e.label.toList.map fun l => ⟨.iri e.iri, Vocabulary.label, .literal (.plain l)⟩
        else []) ++
        blocks.flatten)

/-- The statement of a field of a record, if it has a value. -/
inductive FieldBlock (s : Session schema) (subject : Node) (r : Record) (f : Field) :
    List Triple → Prop
  | unset (hv : r.get? f.name = none) : FieldBlock s subject r f []
  | set {v : FieldValue} {t : Term} (hv : r.get? f.name = some v) (ht : s.DenotesValue v t) :
      FieldBlock s subject r f [⟨subject, f.path, t⟩]

/-- The statements of a record: its shape, and its fields in the order of the shape. -/
inductive RecordBlock (s : Session schema) (id : RecordId) (r : Record) : List Triple → Prop
  | intro {shape : RecordShape} {blocks : List (List Triple)}
      (hshape : schema.shapes.get? r.shape = some shape)
      (hblocks : List.Forall₂ (s.FieldBlock (.blank id.node) r) shape.fields blocks) :
      RecordBlock s id r (⟨.blank id.node, Vocabulary.type, .iri shape.iri⟩ :: blocks.flatten)

/-- The statements of a session: those of its entities and then those of its records, both in order
of creation. -/
inductive Emits (s : Session schema) : List Triple → Prop
  | intro {entities records : List (List Triple)}
      (hentities : List.Forall₂ s.EntityBlock s.entities entities)
      (hrecords : List.Forall₂ (fun x => s.RecordBlock ⟨s.number, x.2⟩ x.1) s.records.zipIdx
        records) :
      Emits s (entities.flatten ++ records.flatten)

/-! ## There is one list of statements -/

theorem Denotes.unique {t : Target} {o o' : Term} (h : s.Denotes t o) (h' : s.Denotes t o') :
    o = o' := by
  cases h with
  | entity he =>
    cases h' with
    | entity he' => rw [he.unique he']
  | record => cases h'; rfl

theorem DenotesValue.unique {v : FieldValue} {o o' : Term} (h : s.DenotesValue v o)
    (h' : s.DenotesValue v o') : o = o' := by
  cases h with
  | term => cases h'; rfl
  | entity h =>
    cases h' with
    | entity h' => exact h.unique h'
  | record h =>
    cases h' with
    | record h' => exact h.unique h'

theorem RelationBlock.unique {e : Entity} {a : Attachment} {block block' : List Triple}
    (h : s.RelationBlock e a block) (h' : s.RelationBlock e a block') : block = block' := by
  obtain ⟨r, hr, htargets⟩ := h
  obtain ⟨r', hr', htargets'⟩ := h'
  rw [hr] at hr'
  cases hr'
  refine eq_of_forall₂ htargets htargets' ?_
  rintro t x x' ⟨o, ho, rfl⟩ ⟨o', ho', rfl⟩
  rw [ho.unique ho']

theorem EntityBlock.unique {e : Entity} {block block' : List Triple} (h : s.EntityBlock e block)
    (h' : s.EntityBlock e block') : block = block' := by
  obtain ⟨hclass, hblocks⟩ := h
  obtain ⟨hclass', hblocks'⟩ := h'
  rw [hclass] at hclass'
  cases hclass'
  have hsame := eq_of_forall₂ hblocks hblocks' fun a block block' => RelationBlock.unique
  rw [hsame]

theorem FieldBlock.unique {subject : Node} {r : Record} {f : Field} {block block' : List Triple}
    (h : s.FieldBlock subject r f block) (h' : s.FieldBlock subject r f block') :
    block = block' := by
  cases h with
  | unset hv =>
    cases h' with
    | unset => rfl
    | set hv' =>
      rw [hv] at hv'
      cases hv'
  | set hv ht =>
    cases h' with
    | unset hv' =>
      rw [hv] at hv'
      cases hv'
    | set hv' ht' =>
      rw [hv] at hv'
      cases hv'
      rw [ht.unique ht']

theorem RecordBlock.unique {id : RecordId} {r : Record} {block block' : List Triple}
    (h : s.RecordBlock id r block) (h' : s.RecordBlock id r block') : block = block' := by
  obtain ⟨hshape, hblocks⟩ := h
  obtain ⟨hshape', hblocks'⟩ := h'
  rw [hshape] at hshape'
  cases hshape'
  have hsame := eq_of_forall₂ hblocks hblocks' fun f block block' => FieldBlock.unique
  rw [hsame]

theorem Emits.unique {ts ts' : List Triple} (h : s.Emits ts) (h' : s.Emits ts') : ts = ts' := by
  obtain ⟨hentities, hrecords⟩ := h
  obtain ⟨hentities', hrecords'⟩ := h'
  have hsame := eq_of_forall₂ hentities hentities' fun e block block' => EntityBlock.unique
  have hsame' := eq_of_forall₂ hrecords hrecords' fun x block block' => RecordBlock.unique
  rw [hsame, hsame']

/-! ## Nothing fails -/

theorem gather_spec {α : Type} {f : α → Except ModelError (List Triple)} {xs : List α}
    {R : α → List Triple → Prop} (h : ∀ x ∈ xs, ∃ block, f x = .ok block ∧ R x block) :
    ∃ blocks, gather f xs = .ok blocks.flatten ∧ List.Forall₂ R xs blocks := by
  induction xs with
  | nil => exact ⟨[], rfl, .nil⟩
  | cons x xs ih =>
    obtain ⟨block, hblock, hx⟩ := h x List.mem_cons_self
    obtain ⟨blocks, hblocks, hxs⟩ := ih fun y hy => h y (List.mem_cons_of_mem x hy)
    refine ⟨block :: blocks, ?_, .cons hx hxs⟩
    rw [gather, hblock, hblocks]
    rfl

theorem exists_denotes {t : Target} (h : s.Owns t) :
    ∃ o, s.targetTerm t = .ok o ∧ s.Denotes t o := by
  cases h with
  | entity he =>
    refine ⟨_, ?_, .entity he⟩
    rw [targetTerm, entity_eq_ok_iff.2 he]
    rfl
  | record hr =>
    refine ⟨_, ?_, .record hr⟩
    rw [targetTerm, record_eq_ok_iff.2 hr]
    rfl

theorem exists_denotesValue {k : FieldKind} {v : FieldValue} (h : s.Admissible k v) :
    ∃ o, s.valueTerm v = .ok o ∧ s.DenotesValue v o := by
  cases h with
  | member => exact ⟨_, rfl, .term⟩
  | unit => exact ⟨_, rfl, .term⟩
  | literal => exact ⟨_, rfl, .term⟩
  | iri => exact ⟨_, rfl, .term⟩
  | entity he =>
    obtain ⟨o, ho, hdenotes⟩ := exists_denotes (.entity he)
    exact ⟨o, ho, .entity hdenotes⟩
  | record hr =>
    obtain ⟨o, ho, hdenotes⟩ := exists_denotes (.record hr)
    exact ⟨o, ho, .record hdenotes⟩

theorem forall₂_flatten {α : Type} {R : α → Triple → Prop} {xs : List α}
    {blocks : List (List Triple)}
    (h : List.Forall₂ (fun x block => ∃ t, R x t ∧ block = [t]) xs blocks) :
    List.Forall₂ R xs blocks.flatten := by
  induction h with
  | nil => exact .nil
  | cons hx _ ih =>
    obtain ⟨t, ht, rfl⟩ := hx
    exact .cons ht ih

theorem exists_relationBlock {e : Entity} {a : Attachment} (h : s.Bound e.classId a) :
    ∃ block, s.attachmentTriples (.iri e.iri) a = .ok block ∧ s.RelationBlock e a block := by
  obtain ⟨-, r, b, hr, -, hadmits⟩ := h
  have htargets : ∀ t ∈ a.targets, ∃ block, s.targetTriples (.iri e.iri) r.iri t = .ok block ∧
      ∃ x : Triple, (∃ o, s.Denotes t o ∧ x = ⟨.iri e.iri, r.iri, o⟩) ∧ block = [x] := by
    intro t ht
    obtain ⟨o, ho, hdenotes⟩ := exists_denotes (hadmits t ht).owns
    refine ⟨[⟨.iri e.iri, r.iri, o⟩], ?_, _, ⟨o, hdenotes, rfl⟩, rfl⟩
    rw [targetTriples, ho]
    rfl
  obtain ⟨blocks, hblocks, hall⟩ := gather_spec htargets
  refine ⟨blocks.flatten, ?_, r, hr, forall₂_flatten hall⟩
  rw [attachmentTriples, hr]
  exact hblocks

theorem exists_entityBlock {e : Entity} (hs : s.WellFormed) (he : e ∈ s.entities) :
    ∃ block, s.entityTriples e = .ok block ∧ s.EntityBlock e block := by
  obtain ⟨c, hc⟩ := hs.classes e he
  obtain ⟨blocks, hblocks, hall⟩ := gather_spec
    fun a ha => exists_relationBlock (hs.attachments e he a ha)
  refine ⟨_, ?_, .intro hc hall⟩
  rw [entityTriples, hblocks, identityTriples, classIri, hc]
  rfl

theorem admissible_of_get? {r : Record} {fields : List Field} {name : String} {v : FieldValue}
    (h : List.Forall₂ s.Fills fields r.fields) (hv : r.get? name = some v) :
    ∃ k, s.Admissible k v := by
  obtain ⟨x, hx, hvalue⟩ := Option.bind_eq_some_iff.1 hv
  obtain ⟨f, -, hfills⟩ := exists_of_mem_right h (List.mem_of_find?_eq_some hx)
  exact ⟨f.kind, hfills.admissible v hvalue⟩

theorem exists_recordBlock {r : Record} {id : RecordId} (hs : s.WellFormed) (hr : r ∈ s.records) :
    ∃ block, s.recordTriples id r = .ok block ∧ s.RecordBlock id r block := by
  obtain ⟨shape, hshape, hfields⟩ := hs.records r hr
  have hblock : ∀ f ∈ shape.fields, ∃ block, s.fieldTriples (.blank id.node) r f = .ok block ∧
      s.FieldBlock (.blank id.node) r f block := by
    intro f _
    cases hv : r.get? f.name with
    | none =>
      refine ⟨[], ?_, .unset hv⟩
      rw [fieldTriples, hv]
    | some v =>
      obtain ⟨k, hk⟩ := admissible_of_get? hfields hv
      obtain ⟨o, ho, hdenotes⟩ := exists_denotesValue hk
      refine ⟨_, ?_, .set hv hdenotes⟩
      rw [fieldTriples, hv]
      simp only [ho]
      rfl
  obtain ⟨blocks, hblocks, hall⟩ := gather_spec hblock
  refine ⟨_, ?_, .intro hshape hall⟩
  rw [recordTriples, hshape]
  simp only [hblocks]
  rfl

/-- A well-formed session has its statements. -/
theorem exists_emits (hs : s.WellFormed) : ∃ ts, s.statements = .ok ts ∧ s.Emits ts := by
  obtain ⟨entities, hentities, hall⟩ := gather_spec fun e he => exists_entityBlock hs he
  have hrecord : ∀ x ∈ s.records.zipIdx, ∃ block,
      s.recordTriples ⟨s.number, x.2⟩ x.1 = .ok block ∧
        s.RecordBlock ⟨s.number, x.2⟩ x.1 block := by
    intro x hx
    exact exists_recordBlock hs (List.fst_mem_of_mem_zipIdx hx)
  obtain ⟨records, hrecords, hall'⟩ := gather_spec hrecord
  refine ⟨_, ?_, .intro hall hall'⟩
  rw [statements, hentities]
  simp only [hrecords]
  rfl

end BuildingModel.Session
