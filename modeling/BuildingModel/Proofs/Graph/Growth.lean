import BuildingModel.Proofs.Graph.Contents

/-!
# What is said stays said

A session that is asked for more says all that it said before, and in the same order. What is new is
put in between: about a new entity or record nothing was said before, and a new target comes at the
end of its relation. Behind it are other relations of the entity and other entities and records, so
no statement is said earlier than it was before and then left out in its old place.
-/
namespace BuildingModel

open BuildingModel.Rdf BuildingModel.Validation

/-! ## Statements put in between -/

/-- Some statements become others by what is put in at one place and does not come again behind
it. -/
def Inserts (ts ts' : List Triple) : Prop :=
  ∃ before new after, ts = before ++ after ∧ ts' = before ++ new ++ after ∧ ∀ t ∈ new, t ∉ after

namespace Inserts

variable {ts ts' : List Triple}

theorem distinct_sublist (h : Inserts ts ts') : (distinct ts).Sublist (distinct ts') := by
  obtain ⟨before, new, after, rfl, rfl, hnew⟩ := h
  exact distinct_append_sublist hnew

theorem at_end (ts new : List Triple) : Inserts ts (ts ++ new) :=
  ⟨ts, new, [], by simp, by simp, by simp⟩

theorem append_left (us : List Triple) (h : Inserts ts ts') : Inserts (us ++ ts) (us ++ ts') := by
  obtain ⟨before, new, after, rfl, rfl, hnew⟩ := h
  exact ⟨us ++ before, new, after, by simp, by simp, hnew⟩

theorem append_right {us : List Triple} (h : Inserts ts ts') (hapart : ∀ t ∈ ts', t ∉ us) :
    Inserts (ts ++ us) (ts' ++ us) := by
  obtain ⟨before, new, after, rfl, rfl, hnew⟩ := h
  refine ⟨before, new, after ++ us, by simp, by simp, ?_⟩
  intro t ht hafter
  rcases List.mem_append.1 hafter with hafter | hus
  · exact hnew t ht hafter
  · exact hapart t (by simp [ht]) hus

/-- Putting statements into one block of many puts them in between all others. -/
theorem flatten {block block' : List Triple} {blocks₁ blocks₂ : List (List Triple)}
    (h : Inserts block block') (hapart : ∀ b ∈ blocks₂, ∀ t ∈ block', t ∉ b) :
    Inserts (blocks₁ ++ block :: blocks₂).flatten (blocks₁ ++ block' :: blocks₂).flatten := by
  rw [List.flatten_append, List.flatten_append, List.flatten_cons, List.flatten_cons]
  apply append_left
  apply h.append_right
  intro t ht hmem
  obtain ⟨b, hb, htb⟩ := List.mem_flatten.1 hmem
  exact hapart b hb t ht htb

end Inserts

/-! ## A further target of an entity -/

/-- A further target of a known relation comes at its end, in front of other relations. -/
theorem Entity.exists_attachments_attach {e : Entity} {property : String} {t : Target}
    (hnames : e.propertyNames.Nodup) (hp : property ∈ e.propertyNames) :
    ∃ before a after, e.attachments = before ++ a :: after ∧ a.property = property ∧
      (∀ b ∈ after, b.property ≠ property) ∧
      (e.attach property t).attachments = before ++ ⟨property, a.targets ++ [t]⟩ :: after := by
  have hany := any_property_iff.2 hp
  obtain ⟨a, ha, rfl⟩ := mem_propertyNames.1 hp
  obtain ⟨before, after, hsplit⟩ := List.append_of_mem ha
  rw [propertyNames, hsplit, List.map_append, List.map_cons, List.nodup_append,
    List.nodup_cons] at hnames
  obtain ⟨-, ⟨hafter, -⟩, hbefore⟩ := hnames
  have hkept : ∀ bs : List Attachment, (∀ b ∈ bs, b.property ≠ a.property) →
      bs.map (fun b => if b.property = a.property then { b with targets := b.targets ++ [t] }
        else b) = bs := by
    intro bs hbs
    rw [List.map_congr_left fun b hb => if_neg (hbs b hb), List.map_id']
  have hbehind : ∀ b ∈ after, b.property ≠ a.property := by
    intro b hb heq
    exact hafter (heq ▸ List.mem_map_of_mem hb)
  have hahead : ∀ b ∈ before, b.property ≠ a.property := by
    intro b hb
    exact hbefore _ (List.mem_map_of_mem hb) _ List.mem_cons_self
  refine ⟨before, a, after, hsplit, rfl, hbehind, ?_⟩
  rw [attach, if_pos hany]
  simp only [hsplit, List.map_append, List.map_cons, if_true]
  rw [hkept before hahead, hkept after hbehind]

namespace Session

variable {schema : Schema} {s s' : Session schema} {ts : List Triple}

/-! ## Blocks of a session that has grown -/

namespace Grows

theorem denotes {t : Target} {o : Term} (h : s.Grows s') (ho : s.Denotes t o) : s'.Denotes t o := by
  cases ho with
  | entity he =>
    obtain ⟨e', he', hiri, -, -⟩ := h.entity he
    rw [← hiri]
    exact .entity he'
  | record hr => exact .record (h.record hr)

theorem denotesValue {v : FieldValue} {o : Term} (h : s.Grows s') (ho : s.DenotesValue v o) :
    s'.DenotesValue v o := by
  cases ho with
  | term => exact .term
  | entity ho => exact .entity (h.denotes ho)
  | record ho => exact .record (h.denotes ho)

theorem relationBlock {e : Entity} {a : Attachment} {block : List Triple} (h : s.Grows s')
    (hb : s.RelationBlock e a block) : s'.RelationBlock e a block := by
  obtain ⟨r, hr, htargets⟩ := hb
  refine ⟨r, hr, htargets.imp ?_⟩
  rintro t x ⟨o, ho, rfl⟩
  exact ⟨o, h.denotes ho, rfl⟩

theorem entityBlock {e : Entity} {block : List Triple} (h : s.Grows s')
    (hb : s.EntityBlock e block) : s'.EntityBlock e block := by
  cases hb with
  | intro hclass hblocks => exact .intro hclass (hblocks.imp fun _ _ => h.relationBlock)

theorem fieldBlock {n : Node} {r : Record} {f : Field} {block : List Triple} (h : s.Grows s')
    (hb : s.FieldBlock n r f block) : s'.FieldBlock n r f block := by
  cases hb with
  | unset hv => exact .unset hv
  | set hv ho => exact .set hv (h.denotesValue ho)

theorem recordBlock {id : RecordId} {r : Record} {block : List Triple} (h : s.Grows s')
    (hb : s.RecordBlock id r block) : s'.RecordBlock id r block := by
  cases hb with
  | intro hshape hblocks => exact .intro hshape (hblocks.imp fun _ _ => h.fieldBlock)

end Grows

/-! ## What the statements of a block are about -/

theorem RelationBlock.name_predicate {e : Entity} {a : Attachment} {block : List Triple}
    (h : s.RelationBlock e a block) {x : Triple} (hx : x ∈ block) :
    x.predicate.name = a.property := by
  obtain ⟨r, hr, htargets⟩ := h
  obtain ⟨t, -, o, -, rfl⟩ := exists_of_mem_right htargets hx
  exact name_of_get? hr

theorem RecordBlock.subject_eq {id : RecordId} {r : Record} {block : List Triple}
    (h : s.RecordBlock id r block) {t : Triple} (ht : t ∈ block) : t.subject = .blank id.node := by
  cases h with
  | intro hshape hblocks =>
    rcases List.mem_cons.1 ht with rfl | ht
    · rfl
    · obtain ⟨block, hblock, hmem⟩ := List.mem_flatten.1 ht
      obtain ⟨f, -, hfield⟩ := exists_of_mem_right hblocks hblock
      cases hfield with
      | unset => cases hmem
      | set => rw [List.mem_singleton.1 hmem]

/-- What is said of an entity is not said of a record. -/
theorem not_mem_records_of_mem_entityBlock {e : Entity} {block : List Triple}
    {records : List (List Triple)} {t : Triple} (hblock : s.EntityBlock e block)
    (hrecords : List.Forall₂ (fun x => s'.RecordBlock ⟨s'.number, x.2⟩ x.1) s'.records.zipIdx
      records) (ht : t ∈ block) : t ∉ records.flatten := by
  intro hmem
  obtain ⟨own, hown, htown⟩ := List.mem_flatten.1 hmem
  obtain ⟨x, -, hrecord⟩ := exists_of_mem_right hrecords hown
  have hsubject := hrecord.subject_eq htown
  rw [hblock.subject_eq ht] at hsubject
  cases hsubject

/-! ## One change -/

theorem RelationBlock.append {e : Entity} {a : Attachment} {block : List Triple} {r : Relation}
    {t : Target} {o : Term} (h : s.RelationBlock e a block)
    (hr : schema.relations.get? a.property = some r) (ho : s.Denotes t o) :
    s.RelationBlock e ⟨a.property, a.targets ++ [t]⟩ (block ++ [⟨.iri e.iri, r.iri, o⟩]) := by
  obtain ⟨r', hr', htargets⟩ := h
  rw [hr] at hr'
  cases hr'
  exact ⟨r, hr, List.rel_append htargets (.cons ⟨o, ho, rfl⟩ .nil)⟩

/-- A further target puts its statement at the end of its relation, or behind all relations if its
own is new. -/
theorem exists_relationBlocks_attach {e : Entity} {property : String} {t : Target} {o : Term}
    {r : Relation} {blocks : List (List Triple)}
    (hblocks : List.Forall₂ (s.RelationBlock e) e.attachments blocks)
    (hnames : e.propertyNames.Nodup) (hr : schema.relations.get? property = some r)
    (ho : s.Denotes t o) :
    ∃ blocks', List.Forall₂ (s.RelationBlock e) (e.attach property t).attachments blocks' ∧
      Inserts blocks.flatten blocks'.flatten := by
  by_cases hp : property ∈ e.propertyNames
  · obtain ⟨before, a, after, hsplit, rfl, hafter, hattach⟩ :=
      Entity.exists_attachments_attach (t := t) hnames hp
    rw [hsplit] at hblocks
    obtain ⟨ahead, rest, rfl, hahead, hrest⟩ := forall₂_append_left_iff.1 hblocks
    obtain ⟨own, behind, hown, hbehind, rfl⟩ := List.forall₂_cons_left_iff.1 hrest
    have hmore := hown.append hr ho
    rw [hattach]
    refine ⟨_, List.rel_append hahead (.cons hmore hbehind), (Inserts.at_end own _).flatten ?_⟩
    intro b hb x hx hxb
    obtain ⟨a', ha', hblock⟩ := exists_of_mem_right hbehind hb
    exact hafter a' ha' ((hblock.name_predicate hxb).symm.trans (hmore.name_predicate hx))
  · have hattach : (e.attach property t).attachments = e.attachments ++ [⟨property, [t]⟩] := by
      rw [Entity.attach, if_neg (fun hany => hp (Entity.any_property_iff.1 hany))]
    have hnew : s.RelationBlock e ⟨property, [t]⟩ [⟨.iri e.iri, r.iri, o⟩] :=
      ⟨r, hr, .cons ⟨o, ho, rfl⟩ .nil⟩
    rw [hattach]
    refine ⟨_, List.rel_append hblocks (.cons hnew .nil), ?_⟩
    rw [List.flatten_append]
    exact Inserts.at_end _ _

theorem exists_entityBlock_attach {e : Entity} {property : String} {t : Target} {o : Term}
    {r : Relation} {block : List Triple} (hb : s.EntityBlock e block)
    (hnames : e.propertyNames.Nodup) (hr : schema.relations.get? property = some r)
    (ho : s.Denotes t o) :
    ∃ block', s.EntityBlock (e.attach property t) block' ∧ Inserts block block' := by
  cases hb with
  | @intro c blocks hclass hblocks =>
    obtain ⟨blocks', hblocks', hinserts⟩ := exists_relationBlocks_attach hblocks hnames hr ho
    have hsame : s.RelationBlock e = s.RelationBlock (e.attach property t) := by
      funext a block
      simp only [RelationBlock, Entity.iri_attach]
    have hclass' : schema.hierarchy.classAt? (e.attach property t).classId = some c := by
      rwa [Entity.classId_attach]
    rw [hsame] at hblocks'
    refine ⟨_, .intro hclass' hblocks', ?_⟩
    rw [Entity.iri_attach, Entity.label_attach]
    exact hinserts.append_left _

theorem exists_emits_created {iri : String} {e : Entity} (hs : (s.created iri e).WellFormed)
    (h : s.Emits ts) : ∃ ts', (s.created iri e).Emits ts' ∧ Inserts ts ts' := by
  have hgrow := grows_created s iri e
  cases h with
  | @intro entities records hentities hrecords =>
    have hmem : e ∈ (s.created iri e).entities := List.mem_append_right _ List.mem_cons_self
    obtain ⟨block, -, hblock⟩ := exists_entityBlock hs hmem
    have hentities' : List.Forall₂ (s.created iri e).EntityBlock (s.created iri e).entities
        (entities ++ [block]) :=
      List.rel_append (hentities.imp fun _ _ => hgrow.entityBlock) (.cons hblock .nil)
    refine ⟨_, .intro hentities' (hrecords.imp fun _ _ => hgrow.recordBlock), ?_⟩
    refine ⟨entities.flatten, block, records.flatten, rfl, by simp, ?_⟩
    intro t ht
    exact not_mem_records_of_mem_entityBlock hblock hrecords ht

theorem exists_emits_addRecord {r : Record} (hs : (s.addRecord r).WellFormed) (h : s.Emits ts) :
    ∃ ts', (s.addRecord r).Emits ts' ∧ Inserts ts ts' := by
  have hgrow := grows_addRecord s r
  cases h with
  | @intro entities records hentities hrecords =>
    have hmem : r ∈ (s.addRecord r).records := List.mem_append_right _ List.mem_cons_self
    obtain ⟨block, -, hblock⟩ : ∃ block,
        (s.addRecord r).recordTriples s.nextRecord r = .ok block ∧
          (s.addRecord r).RecordBlock s.nextRecord r block := exists_recordBlock hs hmem
    have hplaces : (s.addRecord r).records.zipIdx =
        s.records.zipIdx ++ [(r, s.records.length)] := by
      simp [addRecord, List.zipIdx_append]
    have hrecords' : List.Forall₂
        (fun x => (s.addRecord r).RecordBlock ⟨(s.addRecord r).number, x.2⟩ x.1)
        (s.addRecord r).records.zipIdx (records ++ [block]) := by
      rw [hplaces]
      exact List.rel_append (hrecords.imp fun _ _ => hgrow.recordBlock) (.cons hblock .nil)
    refine ⟨_, .intro (hentities.imp fun _ _ => hgrow.entityBlock) hrecords', ?_⟩
    rw [List.flatten_append, ← List.append_assoc]
    exact Inserts.at_end _ _

/-- No other entity has the IRI of the one that gets a further target. -/
theorem exists_entities_attach (hs : s.WellFormed) {id : EntityId} {e : Entity}
    (he : s.IsEntity id e) (property : String) (t : Target) :
    ∃ before after, s.entities = before ++ e :: after ∧
      (s.attach id.index property t).entities = before ++ e.attach property t :: after ∧
      ∀ e' ∈ after, e'.iri ≠ e.iri := by
  obtain ⟨hlt, hget⟩ := List.getElem?_eq_some_iff.1 he.2
  have hsplit : s.entities = s.entities.take id.index ++ e :: s.entities.drop (id.index + 1) := by
    rw [← hget, List.getElem_cons_drop, List.take_append_drop]
  refine ⟨_, _, hsplit, ?_, ?_⟩
  · rw [attach]
    simp only
    rw [List.modify_eq_take_cons_drop hlt, hget]
  · intro e' he' heq
    have hiris := hs.iris
    rw [hsplit, List.map_append, List.map_cons] at hiris
    have hnew := (List.nodup_cons.1 (List.nodup_append.1 hiris).2.1).1
    exact hnew (heq ▸ List.mem_map_of_mem he')

theorem exists_emits_attach (hs : s.WellFormed) (h : s.Emits ts) {subject : EntityId} {e : Entity}
    {property : String} {t : Target} {r : Relation} (he : s.IsEntity subject e)
    (hr : schema.relations.get? property = some r) (ht : s.Owns t) :
    ∃ ts', (s.attach subject.index property t).Emits ts' ∧ Inserts ts ts' := by
  have hgrow := grows_attach s subject.index property t
  obtain ⟨o, -, ho⟩ := exists_denotes ht
  cases h with
  | @intro entities records hentities hrecords =>
    obtain ⟨before, after, hsplit, hattach, hapart⟩ := exists_entities_attach hs he property t
    rw [hsplit] at hentities
    obtain ⟨ahead, rest, rfl, hahead, hrest⟩ := forall₂_append_left_iff.1 hentities
    obtain ⟨own, behind, hown, hbehind, rfl⟩ := List.forall₂_cons_left_iff.1 hrest
    obtain ⟨more, hmore, hinserts⟩ := exists_entityBlock_attach (hgrow.entityBlock hown)
      (hs.names e he.mem) hr (hgrow.denotes ho)
    have hentities' : List.Forall₂ (s.attach subject.index property t).EntityBlock
        (s.attach subject.index property t).entities (ahead ++ more :: behind) := by
      rw [hattach]
      exact List.rel_append (hahead.imp fun _ _ => hgrow.entityBlock)
        (.cons hmore (hbehind.imp fun _ _ => hgrow.entityBlock))
    refine ⟨_, .intro hentities' (hrecords.imp fun _ _ => hgrow.recordBlock), ?_⟩
    apply Inserts.append_right
    · apply hinserts.flatten
      intro b hb x hx hxb
      obtain ⟨e', he', hblock⟩ := exists_of_mem_right hbehind hb
      have hsubject := hblock.subject_eq hxb
      rw [hmore.subject_eq hx, Entity.iri_attach] at hsubject
      exact hapart e' he' (Node.iri.inj hsubject).symm
    · intro x hx
      obtain ⟨b, hb, hxb⟩ := List.mem_flatten.1 hx
      obtain ⟨e', -, hblock⟩ := exists_of_mem_right hentities' hb
      exact not_mem_records_of_mem_entityBlock hblock hrecords hxb

/-- A change puts the new statements in at one place. -/
theorem exists_emits_change {r : Request} {reply : Reply} (hs : s.WellFormed) (h : s.Emits ts)
    (hchange : s.Change r reply s') : ∃ ts', s'.Emits ts' ∧ Inserts ts ts' := by
  have hs' := wellFormed_change hs hchange
  cases hchange with
  | create => exact exists_emits_created hs' h
  | build => exact exists_emits_addRecord hs' h
  | relate hrequest he hr hb ht => exact exists_emits_attach hs h he hr ht.owns

/-! ## Runs -/

theorem exists_emits_step (hs : s.WellFormed) (h : s.Emits ts) (r : Request) :
    ∃ ts', (s.step r).Emits ts' ∧ (distinct ts).Sublist (distinct ts') := by
  cases s.outcome r with
  | failed hanswer hstep =>
    rw [hstep]
    exact ⟨ts, h, .refl _⟩
  | changed hanswer hchange =>
    obtain ⟨ts', hts', hinserts⟩ := exists_emits_change hs h hchange
    exact ⟨ts', hts', hinserts.distinct_sublist⟩

theorem exists_emits_run (hs : s.WellFormed) (h : s.Emits ts) (rs : List Request) :
    ∃ ts', (s.run rs).Emits ts' ∧ (distinct ts).Sublist (distinct ts') := by
  induction rs generalizing s ts with
  | nil => exact ⟨ts, h, .refl _⟩
  | cons r rs ih =>
    obtain ⟨ts₁, hts₁, hstep⟩ := exists_emits_step hs h r
    obtain ⟨ts', hts', hrun⟩ := ih (wellFormed_step hs r) hts₁
    exact ⟨ts', hts', hstep.trans hrun⟩

/-- A session that says something has it emitted without repeats. -/
theorem exists_emitted (hs : s.WellFormed) (h : s.Emits ts) :
    s.statements = .ok ts ∧ (Emitted.ofList ts).triples = distinct ts := by
  obtain ⟨ts', hts', h'⟩ := exists_emits hs
  rw [h.unique h']
  exact ⟨hts', Emitted.triples_ofList fun a ha b hb => h'.eq_of_normal_eq hs ha hb⟩

/-- Whatever is asked of a session further, what has been emitted for it before is emitted again, in
the same order and with nothing left out. So it is in the graphs that it is compiled into. -/
theorem emitted_sublist_of_run (schema : Schema) (number : ℕ) (earlier later : List Request) :
    ∃ ts ts', ((start schema number).run earlier).statements = .ok ts ∧
      (((start schema number).run earlier).run later).statements = .ok ts' ∧
      (Emitted.ofList ts).triples.Sublist (Emitted.ofList ts').triples ∧
      ∀ bindings bindings' validator validator' g g',
        ((start schema number).run earlier).compileWith bindings validator = .ok g →
        (((start schema number).run earlier).run later).compileWith bindings' validator' = .ok g' →
        g.triples.Sublist g'.triples := by
  have hs := wellFormed_run (wellFormed_start schema number) earlier
  obtain ⟨ts, -, hemits⟩ := exists_emits hs
  obtain ⟨ts', hemits', hsublist⟩ := exists_emits_run hs hemits later
  obtain ⟨hts, htriples⟩ := exists_emitted hs hemits
  obtain ⟨hts', htriples'⟩ := exists_emitted (wellFormed_run hs later) hemits'
  rw [← htriples, ← htriples'] at hsublist
  refine ⟨ts, ts', hts, hts', hsublist, ?_⟩
  intro bindings bindings' validator validator' g g' hg hg'
  obtain ⟨us, hus, rfl⟩ := exists_statements_of_compileWith hg
  obtain ⟨us', hus', rfl⟩ := exists_statements_of_compileWith hg'
  rw [hts] at hus
  rw [hts'] at hus'
  cases hus
  cases hus'
  exact hsublist

end Session

end BuildingModel
