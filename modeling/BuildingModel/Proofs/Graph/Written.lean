import BuildingModel.Proofs.Graph.Growth
import BuildingModel.Proofs.Rdf.NTriples
import BuildingModel.Proofs.Session.Terms
import BuildingModel.Proofs.Validation.Acceptance

/-!
# Compiled graphs in N-Triples

A graph that is compiled from well-formed terms, those of an ontology and those of requests, is made
of well-formed statements. So what is written for it in N-Triples has a line for each of them, in
the order in which they are emitted, and no other graph of this kind is written alike.
-/
namespace BuildingModel

open BuildingModel.Rdf BuildingModel.Validation

/-! ## Statements of a session -/

theorem wellFormed_type : Vocabulary.type.WellFormed := by decide

theorem wellFormed_label : Vocabulary.label.WellFormed := by decide

theorem isInner_of_mem_repr {n : ℕ} {c : Char} (hc : c ∈ (Nat.repr n).toList) :
    Name.isInner c = true := by
  simp [Name.isInner, Number.isDigit_of_mem_repr hc]

/-- The blank node of a record has a label of letters and digits. -/
theorem RecordId.wellFormed_node (id : RecordId) : id.node.WellFormed := by
  obtain ⟨session, index⟩ := id
  have hindex : ∀ c ∈ (Nat.repr index).toList, Name.isInner c = true :=
    fun c hc => isInner_of_mem_repr hc
  unfold RecordId.node BlankNode.WellFormed
  by_cases hsession : session = 0
  · simp only [if_pos hsession, String.toList_append]
    exact Name.isLabelTail_of_isInner hindex
  · simp only [if_neg hsession, String.toList_append]
    refine Name.isLabelTail_of_isInner (List.forall_mem_append.2 ⟨?_, ?_⟩)
    · exact List.forall_mem_append.2 ⟨by simp, fun c hc => isInner_of_mem_repr hc⟩
    · exact List.forall_mem_cons.2 ⟨by decide, hindex⟩

namespace Session

variable {schema : Schema} {s : Session schema} {ts : List Triple}

theorem Denotes.wellFormed (hs : s.TermsWellFormed) {t : Target} {o : Term} (h : s.Denotes t o) :
    o.WellFormed := by
  cases h with
  | entity he => exact hs.iris _ he.mem
  | record => exact RecordId.wellFormed_node _

theorem DenotesValue.wellFormed (hs : s.TermsWellFormed) {v : FieldValue} {o : Term}
    (hv : ∀ t, v = .term t → t.WellFormed) (h : s.DenotesValue v o) : o.WellFormed := by
  cases h with
  | term => exact hv _ rfl
  | entity h => exact h.wellFormed hs
  | record h => exact h.wellFormed hs

theorem EntityBlock.wellFormed (hschema : schema.TermsWellFormed) (hs : s.TermsWellFormed)
    {e : Entity} (he : e ∈ s.entities) {block : List Triple} (h : s.EntityBlock e block) :
    ∀ t ∈ block, t.WellFormed := by
  have hsubject : e.iri.WellFormed := hs.iris e he
  cases h with
  | @intro c blocks hclass hblocks =>
    refine List.forall_mem_append.2 ⟨List.forall_mem_append.2 ⟨?_, ?_⟩, ?_⟩
    · refine List.forall_mem_singleton.2 ⟨hsubject, wellFormed_type, ?_⟩
      exact hschema.classes c (List.mem_of_getElem? hclass)
    · intro t ht
      split at ht
      · obtain ⟨text, -, rfl⟩ := List.mem_map.1 ht
        exact ⟨hsubject, wellFormed_label, trivial⟩
      · cases ht
    · intro t ht
      obtain ⟨block, hblock, ht⟩ := List.mem_flatten.1 ht
      obtain ⟨a, -, r, hr, htargets⟩ := exists_of_mem_right hblocks hblock
      obtain ⟨target, -, o, ho, rfl⟩ := exists_of_mem_right htargets ht
      exact ⟨hsubject, hschema.relations r (RelationRegistry.mem_relations_of_get? hr).1,
        ho.wellFormed hs⟩

theorem RecordBlock.wellFormed (hschema : schema.TermsWellFormed) (hs : s.TermsWellFormed)
    {id : RecordId} {r : Record} (hr : r ∈ s.records) {block : List Triple}
    (h : s.RecordBlock id r block) : ∀ t ∈ block, t.WellFormed := by
  have hsubject : id.node.WellFormed := id.wellFormed_node
  cases h with
  | @intro shape blocks hshape hblocks =>
    have hmem : shape ∈ schema.shapes.shapes := List.mem_of_getElem? hshape
    refine List.forall_mem_cons.2 ⟨⟨hsubject, wellFormed_type, hschema.shapes shape hmem⟩, ?_⟩
    intro t ht
    obtain ⟨block, hblock, ht⟩ := List.mem_flatten.1 ht
    obtain ⟨f, hf, hfield⟩ := exists_of_mem_right hblocks hblock
    cases hfield with
    | unset => cases ht
    | set hv hdenotes =>
      obtain ⟨x, hx, hvalue⟩ := Option.bind_eq_some_iff.1 hv
      rw [List.mem_singleton.1 ht]
      refine ⟨hsubject, hschema.paths shape hmem f hf, hdenotes.wellFormed hs fun t ht => ?_⟩
      exact hs.records r hr x (List.mem_of_find?_eq_some hx) t (hvalue.trans (congrArg some ht))

/-- What a session with well-formed terms says is well-formed. -/
theorem Emits.wellFormed (hschema : schema.TermsWellFormed) (hs : s.TermsWellFormed)
    (h : s.Emits ts) : ∀ t ∈ ts, t.WellFormed := by
  cases h with
  | intro hentities hrecords =>
    refine List.forall_mem_append.2 ⟨fun t ht => ?_, fun t ht => ?_⟩
    · obtain ⟨block, hblock, ht⟩ := List.mem_flatten.1 ht
      obtain ⟨e, he, hentity⟩ := exists_of_mem_right hentities hblock
      exact hentity.wellFormed hschema hs he t ht
    · obtain ⟨block, hblock, ht⟩ := List.mem_flatten.1 ht
      obtain ⟨x, hx, hrecord⟩ := exists_of_mem_right hrecords hblock
      exact hrecord.wellFormed hschema hs (List.fst_mem_of_mem_zipIdx hx) t ht

end Session

/-! ## Compiled graphs -/

/-- What a graph is compiled from: an ontology with a schema of it and requests, all of well-formed
terms. -/
structure Sources where
  ontology : Dataset
  settings : Settings
  schema : Schema
  number : ℕ
  requests : List Request
  comesFrom : schema.ComesFrom ontology settings
  ontologyWellFormed : ontology.WellFormed
  requestsWellFormed : ∀ r ∈ requests, r.WellFormed

namespace Sources

def session (S : Sources) : Session S.schema :=
  (Session.start S.schema S.number).run S.requests

/-- A graph is compiled from sources, by some validator. -/
def Compiles (S : Sources) (g : CompiledGraph) : Prop :=
  ∃ bindings validator, S.session.compileWith bindings validator = .ok g

variable {S : Sources} {g : CompiledGraph}

/-- A compiled graph has the statements of its session in order, each once, and all of them are
well-formed. -/
theorem Compiles.triples (h : S.Compiles g) : ∃ ts, S.session.statements = .ok ts ∧
    g.triples = distinct ts ∧ ∀ t ∈ g.triples, t.WellFormed := by
  obtain ⟨bindings, validator, hg⟩ := h
  have hs : S.session.WellFormed :=
    Session.wellFormed_run (Session.wellFormed_start S.schema S.number) S.requests
  have hschema : S.schema.TermsWellFormed := S.comesFrom.termsWellFormed S.ontologyWellFormed
  have hterms : S.session.TermsWellFormed :=
    Session.termsWellFormed_run hschema (Session.termsWellFormed_start S.schema S.number)
      S.requestsWellFormed
  obtain ⟨ts, -, hemits⟩ := Session.exists_emits hs
  obtain ⟨hts, htriples⟩ := Session.exists_emitted hs hemits
  obtain ⟨ts', hts', rfl⟩ := Session.exists_statements_of_compileWith hg
  rw [hts] at hts'
  cases hts'
  refine ⟨ts, hts, htriples, fun t ht => ?_⟩
  exact hemits.wellFormed hschema hterms t (mem_distinct.1 (htriples ▸ ht))

/-- What is written for a compiled graph in N-Triples has a line for each of its statements, in the
order in which they are emitted. Read alone each line is its statement, read together they are the
statements of the graph; and a graph of the same text has the same statements. -/
theorem nTriples_read_back (h : S.Compiles g) :
    (∃ ts, S.session.statements = .ok ts ∧ g.triples = distinct ts) ∧
    NTriples.lines g.nTriples = g.triples.map (fun t => t.written ++ " .") ++ [""] ∧
    (∀ t ∈ g.triples, NTriples.parse? false (t.written ++ " .") = some [t.inDefault]) ∧
    NTriples.parse? false g.nTriples = some (g.triples.map Triple.inDefault) ∧
    ∀ (S' : Sources) (g' : CompiledGraph), S'.Compiles g' → g'.nTriples = g.nTriples →
      g'.triples = g.triples := by
  obtain ⟨ts, hts, htriples, hwell⟩ := h.triples
  refine ⟨⟨ts, hts, htriples⟩, NTriples.lines_write hwell,
    fun t ht => NTriples.parse?_written (hwell t ht), NTriples.parse?_write hwell, ?_⟩
  intro S' g' h' hsame
  obtain ⟨-, -, -, hwell'⟩ := h'.triples
  exact NTriples.write_injective hwell' hwell hsame

/-! ## A label of two lines -/

/-- The schema of ratings, with labels. -/
def labelledSchema : Schema :=
  { ratingSchema with settings := { ratingSettings with emitLabels := true } }

theorem build_labelledSchema :
    Schema.build ratingOntology { ratingSettings with emitLabels := true } =
      .ok labelledSchema := by
  have hparts : Schema.Parts ratingOntology { ratingSettings with emitLabels := true } .expressions
      labelledSchema ⟨"urn:b#EntityProperty"⟩ ⟨ratingOntology, [ratingNodeShape]⟩ := by
    constructor
    · rfl
    · decide
    · exact build_ratingHierarchy
    · rfl
    · decide +kernel
    · decide +kernel
    · exact ofDataset_ratingOntology
    · rfl
  exact hparts.build_eq_ok

/-- An entity with a label of two lines in quotes, and a rating that is a bell. -/
def labelledSources : Sources where
  ontology := ratingOntology
  settings := { ratingSettings with emitLabels := true }
  schema := labelledSchema
  number := 0
  requests := [.create "Entity" "urn:a" (some "\"a\nb\""),
    .build "Rating" [⟨"value", .literal (.typed "\x07" Xsd.decimal)⟩]]
  comesFrom := .built build_labelledSchema
  ontologyWellFormed := by decide +kernel
  requestsWellFormed := by decide

def labelledTriples : List Triple :=
  [⟨.iri ⟨"urn:a"⟩, Vocabulary.type, .iri ⟨"urn:b#Entity"⟩⟩,
    ⟨.iri ⟨"urn:a"⟩, Vocabulary.label, .literal (.plain "\"a\nb\"")⟩,
    ⟨.blank ⟨"r0"⟩, Vocabulary.type, .iri ⟨"urn:b#Rating"⟩⟩,
    ⟨.blank ⟨"r0"⟩, ⟨"urn:b#value"⟩, .literal (.typed "\x07" Xsd.decimal)⟩]

theorem compiles_labelled : labelledSources.Compiles
    ⟨[], labelledTriples, (Emitted.ofList labelledTriples).store⟩ := by
  have hstatements : labelledSources.session.statements = .ok labelledTriples := by decide +kernel
  have htriples : (Emitted.ofList labelledTriples).triples = labelledTriples := by decide +kernel
  refine ⟨[], ⟨fun _ => .ok ⟨[]⟩, none⟩, ?_⟩
  rw [Session.compileWith, hstatements]
  simp only [bind, Except.bind, htriples]
  rfl

/-- The line break and the quotes of the label and the bell are escaped. -/
theorem nTriples_read_back_of_labelled : ∃ g, labelledSources.Compiles g ∧
    NTriples.lines g.nTriples = [
      "<urn:a> <http://www.w3.org/1999/02/22-rdf-syntax-ns#type> <urn:b#Entity> .",
      "<urn:a> <http://www.w3.org/2000/01/rdf-schema#label> \"\\\"a\\nb\\\"\" .",
      "_:r0 <http://www.w3.org/1999/02/22-rdf-syntax-ns#type> <urn:b#Rating> .",
      "_:r0 <urn:b#value> \"\\u0007\"^^<http://www.w3.org/2001/XMLSchema#decimal> .",
      ""] ∧
    NTriples.parse? false g.nTriples = some (labelledTriples.map Triple.inDefault) := by
  obtain ⟨-, hlines, -, hparsed, -⟩ := nTriples_read_back compiles_labelled
  refine ⟨_, compiles_labelled, ?_, hparsed⟩
  rw [hlines]
  decide +kernel

end Sources

end BuildingModel
