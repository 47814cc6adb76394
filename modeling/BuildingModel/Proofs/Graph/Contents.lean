import BuildingModel.Proofs.Graph.Compilation
import BuildingModel.Proofs.Hierarchy.Places

/-!
# The graph of a session

The graph that a session is compiled into holds what the session says. It says the class of each
entity. About a record it says its shape and the values of its fields, and nothing else: no other
record has its blank node.
-/
namespace BuildingModel.Session

open BuildingModel.Rdf BuildingModel.Validation

variable {schema : Schema} {s : Session schema} {ts : List Triple}

/-- The graph of a session: the dataset of the statements that it says. -/
def graph (s : Session schema) : Except ModelError Dataset :=
  s.statements.map fun ts => (Emitted.ofList ts).store

/-- What is handed out was made of the statements of the session. -/
theorem exists_statements_of_compileWith {bindings : List NamespaceBinding}
    {validator : GraphValidator} {g : CompiledGraph}
    (h : s.compileWith bindings validator = .ok g) :
    ∃ ts, s.statements = .ok ts ∧
      g = ⟨bindings, (Emitted.ofList ts).triples, (Emitted.ofList ts).store⟩ := by
  unfold compileWith at h
  cases hbad : badNamespace? bindings with
  | some ns =>
    rw [hbad] at h
    cases h
  | none =>
    rw [hbad] at h
    obtain ⟨ts, hts, h⟩ := bind_eq_ok h
    simp only at h
    split at h
    · cases h
    · split at h
      · cases h
        exact ⟨ts, hts, rfl⟩
      · cases h

theorem graph_of_compileWith {bindings : List NamespaceBinding} {validator : GraphValidator}
    {g : CompiledGraph} (h : s.compileWith bindings validator = .ok g) : s.graph = .ok g.store := by
  obtain ⟨ts, hts, rfl⟩ := exists_statements_of_compileWith h
  rw [graph, hts]
  rfl

/-- A graph that does not conform is not handed out, but the report on it is. -/
theorem compileWith_of_nonconforming {bindings : List NamespaceBinding} {validator : GraphValidator}
    {data : Dataset} {report : Report} (hbindings : badNamespace? bindings = none)
    (hgraph : s.graph = .ok data) (hreport : validator.validate data = .ok report)
    (hrefused : report.conforms = false) :
    s.compileWith bindings validator = .error (.nonconforming report) := by
  obtain ⟨ts, hts, rfl⟩ := map_eq_ok hgraph
  rw [compileWith, hbindings]
  simp [bind, Except.bind, hts, hreport, hrefused]

theorem exists_graph (hs : s.WellFormed) :
    ∃ ts, s.Emits ts ∧ s.graph = .ok (Emitted.ofList ts).store := by
  obtain ⟨ts, hts, hemits⟩ := exists_emits hs
  exact ⟨ts, hemits, by rw [graph, hts]; rfl⟩

theorem Emits.type_of_entity (h : s.Emits ts) {id : EntityId} {e : Entity} (he : s.IsEntity id e) :
    ∃ i, schema.hierarchy.iriAt? e.classId = some i ∧
      ⟨.iri e.iri, Vocabulary.type, .iri i⟩ ∈ ts := by
  cases h with
  | intro hentities hrecords =>
    obtain ⟨block, hblock, hentity⟩ := exists_of_mem_left hentities he.mem
    cases hentity with
    | intro hclass hblocks =>
      refine ⟨_, Hierarchy.iriAt?_of_classAt? hclass, ?_⟩
      apply List.mem_append_left
      exact List.mem_flatten.2 ⟨_, hblock, by simp⟩

theorem RecordBlock.mem_iff {id : RecordId} {r : Record} {block : List Triple} {shape : RecordShape}
    (h : s.RecordBlock id r block) (hshape : schema.shapes.get? r.shape = some shape)
    {n : Node} {p : Iri} {t : Term} :
    ⟨n, p, t⟩ ∈ block ↔ n = .blank id.node ∧ (p = Vocabulary.type ∧ t = .iri shape.iri ∨
      ∃ f ∈ shape.fields, f.path = p ∧ ∃ v, r.get? f.name = some v ∧ s.DenotesValue v t) := by
  cases h with
  | @intro shape' blocks hshape' hblocks =>
    rw [hshape] at hshape'
    cases hshape'
    rw [List.mem_cons, List.mem_flatten]
    constructor
    · rintro (heq | ⟨block, hblock, hmem⟩)
      · cases heq
        exact ⟨rfl, .inl ⟨rfl, rfl⟩⟩
      · obtain ⟨f, hf, hfield⟩ := exists_of_mem_right hblocks hblock
        cases hfield with
        | unset => cases hmem
        | @set v o hv hdenotes =>
          cases List.mem_singleton.1 hmem
          exact ⟨rfl, .inr ⟨f, hf, rfl, v, hv, hdenotes⟩⟩
    · rintro ⟨rfl, ⟨rfl, rfl⟩ | ⟨f, hf, rfl, v, hv, hdenotes⟩⟩
      · exact .inl rfl
      · obtain ⟨block, hblock, hfield⟩ := exists_of_mem_left hblocks hf
        refine .inr ⟨block, hblock, ?_⟩
        cases hfield with
        | unset hnone =>
          rw [hnone] at hv
          cases hv
        | set hv' hdenotes' =>
          rw [hv] at hv'
          cases hv'
          rw [hdenotes.unique hdenotes']
          exact List.mem_singleton_self _

theorem EntityBlock.subject_eq {e : Entity} {block : List Triple} (h : s.EntityBlock e block)
    {t : Triple} (ht : t ∈ block) : t.subject = .iri e.iri := by
  cases h with
  | intro hclass hblocks =>
    rcases List.mem_append.1 ht with ht | ht
    · rcases List.mem_append.1 ht with ht | ht
      · rw [List.mem_singleton.1 ht]
      · split at ht
        · obtain ⟨text, -, rfl⟩ := List.mem_map.1 ht
          rfl
        · cases ht
    · obtain ⟨block, hblock, hmem⟩ := List.mem_flatten.1 ht
      obtain ⟨a, -, r, -, htargets⟩ := exists_of_mem_right hblocks hblock
      obtain ⟨target, -, o, -, rfl⟩ := exists_of_mem_right htargets hmem
      rfl

/-- About a record its shape and the values of its fields are said. -/
theorem Emits.mem_iff_of_record (h : s.Emits ts) {id : RecordId} {r : Record}
    (hr : s.IsRecord id r) {shape : RecordShape} (hshape : schema.shapes.get? r.shape = some shape)
    {p : Iri} {t : Term} :
    ⟨.blank id.node, p, t⟩ ∈ ts ↔ p = Vocabulary.type ∧ t = .iri shape.iri ∨
      ∃ f ∈ shape.fields, f.path = p ∧ ∃ v, r.get? f.name = some v ∧ s.DenotesValue v t := by
  obtain ⟨number, i⟩ := id
  obtain ⟨rfl, hr⟩ : number = s.number ∧ s.records[i]? = some r := hr
  cases h with
  | @intro entities records hentities hrecords =>
    have hentity : ⟨.blank (RecordId.node ⟨s.number, i⟩), p, t⟩ ∉ entities.flatten := by
      intro hmem
      obtain ⟨block, hblock, hmem⟩ := List.mem_flatten.1 hmem
      obtain ⟨e, -, he⟩ := exists_of_mem_right hentities hblock
      cases he.subject_eq hmem
    rw [List.mem_append, or_iff_right hentity, List.mem_flatten]
    constructor
    · intro ⟨block, hblock, hmem⟩
      obtain ⟨⟨r', i'⟩, hx, hrecord⟩ := exists_of_mem_right hrecords hblock
      have hr' : s.records[i']? = some r' := List.mem_zipIdx_iff_getElem?.1 hx
      obtain ⟨shape', hshape'⟩ : ∃ shape', schema.shapes.get? r'.shape = some shape' := by
        cases hrecord with
        | intro hshape' => exact ⟨_, hshape'⟩
      obtain ⟨hnode, hmem⟩ := (hrecord.mem_iff hshape').1 hmem
      obtain rfl := RecordId.node_injective (Node.blank.inj hnode)
      rw [hr] at hr'
      cases hr'
      rw [hshape] at hshape'
      cases hshape'
      exact hmem
    · intro hmem
      obtain ⟨block, hblock, hrecord⟩ :=
        exists_of_mem_left hrecords (List.mem_zipIdx_iff_getElem?.2 hr : (r, i) ∈ s.records.zipIdx)
      exact ⟨block, hblock, (hrecord.mem_iff hshape).2 ⟨rfl, hmem⟩⟩

end BuildingModel.Session
