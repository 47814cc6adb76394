import BuildingModel.Graph.Compiled
import BuildingModel.Proofs.Graph.Emission
import BuildingModel.Proofs.Session.History
import Mathlib

/-!
# Compiled graphs of sessions

Whatever a session was asked, it compiles into the statements that it says, each of them once. The
dataset holds their normal forms, and no two different statements of a session have one normal form:
only the literals of one label or of one field could, and these are one.
-/
namespace BuildingModel

open BuildingModel.Rdf BuildingModel.Validation

namespace Emitted

theorem ofList_append_singleton (ts : List Triple) (t : Triple) :
    ofList (ts ++ [t]) = (ofList ts).emit t := by
  simp [ofList]

theorem mem_store_ofList {ts : List Triple} {q : Quad} :
    q ∈ (ofList ts).store ↔ ∃ t ∈ ts, q = t.normal.inDefault := by
  induction ts using List.reverseRecOn with
  | nil => simp [ofList, empty]
  | append_singleton ts t ih =>
    have hemit : q ∈ ((ofList ts).emit t).store ↔
        q = t.normal.inDefault ∨ q ∈ (ofList ts).store := by
      unfold emit
      by_cases ht : t.inDefault.normal ∈ (ofList ts).store
      · rw [if_pos ht]
        constructor
        · exact .inr
        · rintro (rfl | hq)
          · exact ht
          · exact hq
      · rw [if_neg ht]
        exact Dataset.mem_insert
    rw [ofList_append_singleton, hemit, ih]
    simp only [List.mem_append, List.mem_singleton]
    constructor
    · rintro (rfl | ⟨t', ht', rfl⟩)
      · exact ⟨t, .inr rfl, rfl⟩
      · exact ⟨t', .inl ht', rfl⟩
    · rintro ⟨t', ht' | rfl, rfl⟩
      · exact .inr ⟨t', ht', rfl⟩
      · exact .inl rfl

theorem size_store_ofList (ts : List Triple) :
    (ofList ts).store.size = (ofList ts).triples.length := by
  induction ts using List.reverseRecOn with
  | nil => rfl
  | append_singleton ts t ih =>
    rw [ofList_append_singleton, emit]
    by_cases ht : t.inDefault.normal ∈ (ofList ts).store
    · rw [if_pos ht, ih]
    · rw [if_neg ht, Dataset.size_insert_of_not_mem ht, ih, List.length_append,
        List.length_singleton]

/-- Statements that differ in normal form are emitted without their repeats. -/
theorem triples_ofList {ts : List Triple}
    (h : ∀ a ∈ ts, ∀ b ∈ ts, a.normal = b.normal → a = b) : (ofList ts).triples = distinct ts := by
  induction ts using List.reverseRecOn with
  | nil => rfl
  | append_singleton ts t ih =>
    have hsame : ∀ a ∈ ts, ∀ b ∈ ts, a.normal = b.normal → a = b := by
      intro a ha b hb
      exact h a (List.mem_append_left _ ha) b (List.mem_append_left _ hb)
    have hmem : t.inDefault.normal ∈ (ofList ts).store ↔ t ∈ ts := by
      rw [mem_store_ofList]
      constructor
      · intro ⟨a, ha, heq⟩
        have hnormal : t.normal = a.normal := congrArg Quad.toTriple heq
        rw [h t (by simp) a (List.mem_append_left _ ha) hnormal]
        exact ha
      · intro ht
        exact ⟨t, ht, rfl⟩
    rw [ofList_append_singleton, emit, distinct_append_singleton]
    by_cases ht : t ∈ ts
    · rw [if_pos (hmem.2 ht), if_pos ht, ih hsame]
    · rw [if_neg (fun hstore => ht (hmem.1 hstore)), if_neg ht, ih hsame]

end Emitted

theorem RecordId.node_injective {number i j : ℕ}
    (h : RecordId.node ⟨number, i⟩ = RecordId.node ⟨number, j⟩) : i = j := by
  have hlabel := congrArg BlankNode.label h
  simp only [RecordId.node] at hlabel
  apply Nat.repr_injective
  by_cases hnumber : number = 0
  · simpa [hnumber] using hlabel
  · simpa [hnumber] using hlabel

namespace Session

variable {schema : Schema} {s : Session schema}

/-! ## Statements with a literal -/

theorem Denotes.ne_literal {t : Target} {o : Term} (h : s.Denotes t o) (l : Literal) :
    o ≠ .literal l := by
  cases h <;> simp

/-- A statement with a literal is due to the label of an entity or to a field of a record. -/
inductive LiteralSource (s : Session schema) : Triple → Prop
  | label {e : Entity} {text : String} (he : e ∈ s.entities) (htext : e.label = some text) :
      LiteralSource s ⟨.iri e.iri, Vocabulary.label, .literal (.plain text)⟩
  | field {i : ℕ} {r : Record} {f : Field} {l : Literal} (hr : s.records[i]? = some r)
      (hl : r.get? f.name = some (.term (.literal l))) :
      LiteralSource s ⟨.blank (RecordId.node ⟨s.number, i⟩), f.path, .literal l⟩

theorem literalSource_of_entityBlock {e : Entity} {block : List Triple} (he : e ∈ s.entities)
    (h : s.EntityBlock e block) {t : Triple} (ht : t ∈ block) {l : Literal}
    (hl : t.object = .literal l) : s.LiteralSource t := by
  cases h with
  | @intro c blocks hclass hblocks =>
    rcases List.mem_append.1 ht with ht | ht
    · rcases List.mem_append.1 ht with ht | ht
      · rw [List.mem_singleton.1 ht] at hl
        cases hl
      · split at ht
        · obtain ⟨text, htext, rfl⟩ := List.mem_map.1 ht
          exact .label he (Option.mem_toList.1 htext)
        · cases ht
    · obtain ⟨block, hblock, hmem⟩ := List.mem_flatten.1 ht
      obtain ⟨a, -, r, -, htargets⟩ := exists_of_mem_right hblocks hblock
      obtain ⟨target, -, o, hdenotes, rfl⟩ := exists_of_mem_right htargets hmem
      exact absurd hl (hdenotes.ne_literal l)

theorem literalSource_of_recordBlock {i : ℕ} {r : Record} {block : List Triple}
    (hr : s.records[i]? = some r) (h : s.RecordBlock ⟨s.number, i⟩ r block) {t : Triple}
    (ht : t ∈ block) {l : Literal} (hl : t.object = .literal l) : s.LiteralSource t := by
  cases h with
  | intro hshape hblocks =>
    rcases List.mem_cons.1 ht with rfl | ht
    · cases hl
    · obtain ⟨block, hblock, hmem⟩ := List.mem_flatten.1 ht
      obtain ⟨f, -, hfield⟩ := exists_of_mem_right hblocks hblock
      cases hfield with
      | unset => cases hmem
      | @set v o hv hdenotes =>
        obtain rfl := List.mem_singleton.1 hmem
        have ho : o = .literal l := hl
        subst ho
        cases hdenotes with
        | term => exact .field hr hv
        | entity h => exact absurd rfl (h.ne_literal l)
        | record h => exact absurd rfl (h.ne_literal l)

theorem Emits.literalSource {ts : List Triple} (h : s.Emits ts) {t : Triple} (ht : t ∈ ts)
    {l : Literal} (hl : t.object = .literal l) : s.LiteralSource t := by
  cases h with
  | intro hentities hrecords =>
    rcases List.mem_append.1 ht with ht | ht
    · obtain ⟨block, hblock, hmem⟩ := List.mem_flatten.1 ht
      obtain ⟨e, he, hentity⟩ := exists_of_mem_right hentities hblock
      exact literalSource_of_entityBlock he hentity hmem hl
    · obtain ⟨block, hblock, hmem⟩ := List.mem_flatten.1 ht
      obtain ⟨⟨r, i⟩, hx, hrecord⟩ := exists_of_mem_right hrecords hblock
      have hr : s.records[i]? = some r := List.mem_zipIdx_iff_getElem?.1 hx
      exact literalSource_of_recordBlock hr hrecord hmem hl

/-- What is said of a subject under a predicate with a literal is said with one literal. -/
theorem LiteralSource.unique (hs : s.WellFormed) {a b : Triple} (ha : s.LiteralSource a)
    (hb : s.LiteralSource b) (hsubject : a.subject = b.subject)
    (hpredicate : a.predicate = b.predicate) : a = b := by
  cases ha with
  | @label e text he htext =>
    cases hb with
    | @label e' text' he' htext' =>
      have hiri : e.iri.text = e'.iri.text := congrArg Iri.text (Node.iri.inj hsubject)
      have heq : e = e' := List.inj_on_of_nodup_map hs.iris he he' hiri
      subst heq
      rw [htext] at htext'
      cases htext'
      rfl
    | field => cases hsubject
  | @field i r f l hr hl =>
    cases hb with
    | label => cases hsubject
    | @field i' r' f' l' hr' hl' =>
      have hi : i = i' := RecordId.node_injective (Node.blank.inj hsubject)
      subst hi
      rw [hr] at hr'
      cases hr'
      have hpath : f.path = f'.path := hpredicate
      have hname : f.name = f'.name := congrArg Iri.name hpath
      rw [← hname, hl] at hl'
      cases hl'
      rw [hpath]

theorem eq_of_normal_eq_of_ne_literal {o o' : Term} (h : ∀ l, o ≠ .literal l)
    (hnormal : o.normal = o'.normal) : o = o' := by
  cases o with
  | literal l => exact absurd rfl (h l)
  | iri i =>
    cases o' with
    | iri i' => exact hnormal
    | blank b => cases hnormal
    | literal l => cases hnormal
  | blank b =>
    cases o' with
    | iri i => cases hnormal
    | blank b' => exact hnormal
    | literal l => cases hnormal

/-- Statements of a session that have one normal form are one. -/
theorem Emits.eq_of_normal_eq {ts : List Triple} (hs : s.WellFormed) (h : s.Emits ts) {a b : Triple}
    (ha : a ∈ ts) (hb : b ∈ ts) (hnormal : a.normal = b.normal) : a = b := by
  obtain ⟨hsubject, hpredicate, hobject⟩ := Triple.mk.inj hnormal
  by_cases hao : ∃ l, a.object = .literal l
  · obtain ⟨l, hl⟩ := hao
    have hbo : ∃ l', b.object = .literal l' := by
      by_contra hbo
      have heq : b.object = a.object :=
        eq_of_normal_eq_of_ne_literal (fun l' hl' => hbo ⟨l', hl'⟩) hobject.symm
      exact hbo ⟨l, heq.trans hl⟩
    obtain ⟨l', hl'⟩ := hbo
    exact (h.literalSource ha hl).unique hs (h.literalSource hb hl') hsubject hpredicate
  · have heq : a.object = b.object :=
      eq_of_normal_eq_of_ne_literal (fun l hl => hao ⟨l, hl⟩) hobject
    cases a
    cases b
    simp_all

/-! ## Compilation -/

theorem badNamespace?_eq_none_iff {bindings : List NamespaceBinding} :
    badNamespace? bindings = none ↔ ∀ b ∈ bindings, (Iri.parse? b.namespaceText).isSome := by
  simp [badNamespace?, Option.isSome_iff_ne_none]

/-- A session compiles into the statements that it says, each of them once and in order, if a
validator finds that the dataset of their normal forms conforms; what keeps it from compiling is the
report, or that the validator failed. -/
theorem compileWith_of_run (schema : Schema) (number : ℕ) (rs : List Request) :
    ∃ (ts : List Triple) (store : Dataset),
      ((start schema number).run rs).Emits ts ∧
      (∀ ts', ((start schema number).run rs).Emits ts' → ts' = ts) ∧
      ((start schema number).run rs).statements = .ok ts ∧
      (∀ q, q ∈ store ↔ ∃ t ∈ ts, q = t.normal.inDefault) ∧
      store.size = (distinct ts).length ∧
      ∀ (bindings : List NamespaceBinding) (validator : GraphValidator),
        (∀ b ∈ bindings, (Iri.parse? b.namespaceText).isSome) →
        ((start schema number).run rs).compileWith bindings validator =
          match validator.validate store with
          | .error reason => .error (.validationEngine reason)
          | .ok report =>
            if report.conforms then .ok ⟨bindings, distinct ts, store⟩
            else .error (.nonconforming report) := by
  have hs := wellFormed_run (wellFormed_start schema number) rs
  obtain ⟨ts, hts, hemits⟩ := exists_emits hs
  have htriples : (Emitted.ofList ts).triples = distinct ts :=
    Emitted.triples_ofList fun a ha b hb => hemits.eq_of_normal_eq hs ha hb
  refine ⟨ts, (Emitted.ofList ts).store, hemits, fun ts' h' => h'.unique hemits, hts,
    fun q => Emitted.mem_store_ofList, ?_, ?_⟩
  · rw [Emitted.size_store_ofList, htriples]
  · intro bindings validator hbindings
    rw [compileWith, badNamespace?_eq_none_iff.2 hbindings]
    simp only [hts]
    cases hreport : validator.validate (Emitted.ofList ts).store with
    | error reason => simp [bind, Except.bind, hreport]
    | ok report =>
      by_cases hconforms : report.conforms = true
      · simp [bind, Except.bind, pure, Except.pure, hreport, hconforms, htriples]
      · simp [bind, Except.bind, hreport, hconforms]

/-- What is said of the two entities and of the rating, each statement once. -/
def feedingStatements : List Triple :=
  [⟨.iri ⟨"urn:a"⟩, Vocabulary.type, .iri ⟨"urn:b#Entity"⟩⟩,
    ⟨.iri ⟨"urn:a"⟩, ⟨"urn:b#feeds"⟩, .iri ⟨"urn:b"⟩⟩,
    ⟨.iri ⟨"urn:a"⟩, ⟨"urn:b#feeds"⟩, .iri ⟨"urn:a"⟩⟩,
    ⟨.iri ⟨"urn:a"⟩, ⟨"urn:b#rated"⟩, .blank ⟨"r0"⟩⟩,
    ⟨.iri ⟨"urn:b"⟩, Vocabulary.type, .iri ⟨"urn:b#Entity"⟩⟩,
    ⟨.iri ⟨"urn:b"⟩, Vocabulary.label, .literal (.plain "b")⟩,
    ⟨.blank ⟨"r0"⟩, Vocabulary.type, .iri ⟨"urn:b#Rating"⟩⟩,
    ⟨.blank ⟨"r0"⟩, ⟨"urn:b#value"⟩, .literal (.typed "5" Xsd.integer)⟩]

theorem compileWith_of_feeding :
    ∃ store : Dataset, ((start feeding 0).run feedingRequests).compileWith [⟨"b", "urn:b#"⟩]
        ⟨fun _ => .ok ⟨[]⟩, none⟩ = .ok ⟨[⟨"b", "urn:b#"⟩], feedingStatements, store⟩ ∧
      store.size = 8 := by
  obtain ⟨ts, store, -, -, hts, -, hsize, hcompile⟩ := compileWith_of_run feeding 0 feedingRequests
  have hdistinct : ((start feeding 0).run feedingRequests).statements.map distinct =
      .ok feedingStatements := by decide +kernel
  rw [hts] at hdistinct
  have hsame : distinct ts = feedingStatements := Except.ok.inj hdistinct
  refine ⟨store, ?_, ?_⟩
  · rw [hcompile [⟨"b", "urn:b#"⟩] ⟨fun _ => .ok ⟨[]⟩, none⟩ (by decide +kernel), hsame]
    rfl
  · rw [hsize, hsame]
    rfl

end Session

end BuildingModel
