import BuildingModel.Proofs.Ontology.RelationRows
import BuildingModel.Proofs.Shape.Catalog

/-!
# Shapes that can be compiled

The shapes of records can be compiled if the names of the settings make IRIs and if each least count
that is read is a whole number of 64 bits. A least count is read if it is one of a property shape
with an IRI for its path. Unlike a validator, which ignores it, records do not admit a least count
that is no literal.
-/
namespace BuildingModel.ShapeCatalog

open BuildingModel.Rdf BuildingModel.Ontology

variable {d : Dataset} {propertyClass i : Iri} {ns name : String} {extra : List String}
  {c : ShapeCatalog}

/-- The least counts of the property shapes of a shape are whole numbers. -/
def Countable (d : Dataset) (i : Iri) : Prop :=
  ∀ m : Node, d.Says (.iri i) Shacl.property m.term → (∃ path, d.Says m Shacl.path (.iri path)) →
    ∀ t, d.Says m Shacl.minCount t →
      ∃ l k, t = .literal l ∧ Number.readSigned64 (Text.trim l.text) = .ok k

/-- A node shape is one of records: an instance of the class of properties ranges over it, or the
settings name it. -/
inductive Covers (d : Dataset) (propertyClass : Iri) (ns : String) (extra : List String) :
    Iri → Prop
  | ranged {property : Node} {i : Iri}
      (htyped : d.Says property Vocabulary.type (.iri propertyClass))
      (hrange : d.Says property Vocabulary.range (.iri i))
      (hshape : d.Says (.iri i) Vocabulary.type (.iri Shacl.nodeShape)) :
      Covers d propertyClass ns extra i
  | named {name : String} {i : Iri} (hname : name ∈ extra)
      (hi : Iri.parse? (extraText ns name) = some i)
      (hshape : d.Says (.iri i) Vocabulary.type (.iri Shacl.nodeShape)) :
      Covers d propertyClass ns extra i

/-! ## One shape -/

theorem forall_picks_readsInteger_iff {xs : List Term} :
    (∀ t, Picks xs t → ∃ k, ReadsInteger t k) ↔
      ∀ t ∈ xs, ∃ l k, t = .literal l ∧ Number.readSigned64 (Text.trim l.text) = .ok k := by
  constructor
  · intro hall t ht
    obtain ⟨k, hk⟩ := hall (some t) (.value ht)
    cases hk with
    | literal hk => exact ⟨_, _, rfl, hk⟩
  · intro hall t ht
    cases ht with
    | value ht =>
      obtain ⟨l, k, rfl, hk⟩ := hall _ ht
      exact ⟨some k, .literal hk⟩
    | absent => exact ⟨none, .absent⟩

theorem exists_shapeConstraints_iff :
    (∃ rows, shapeConstraints d i = .ok rows) ↔ Countable d i := by
  rw [shapeConstraints, exists_map_iff, Dataset.propertyRows, exists_decodeAll_iff]
  simp only [List.mem_mergeSort]
  constructor
  · intro hall m hm ⟨path, hpath⟩
    have hread : ∀ t, Picks (d.objectsOfTerm m.term Shacl.minCount) t →
        ∃ k, ReadsInteger t k := by
      intro least hleast
      obtain ⟨list, hlist⟩ := exists_picks (d.objectsOfTerm m.term Shacl.members)
      obtain ⟨datatype, hdatatype⟩ := exists_picks (d.objectsOfTerm m.term Shacl.datatype)
      obtain ⟨allowed, hallowed⟩ := exists_picks (d.objectsOfTerm m.term Shacl.class)
      obtain ⟨r, hr⟩ := hall _ (Dataset.mem_propertyAnswers_iff.2
        ⟨m.term, Dataset.mem_defaultObjects.2 hm, path,
          Dataset.mem_objectsOfTerm.2 ⟨m, rfl, hpath⟩, list, hlist, datatype, hdatatype, allowed,
          hallowed, least, hleast, rfl⟩)
      obtain ⟨k, hk, -⟩ := decode_propertyAnswer.1 hr
      exact ⟨k, hk⟩
    intro t ht
    exact forall_picks_readsInteger_iff.1 hread t (Dataset.mem_objectsOfTerm.2 ⟨m, rfl, ht⟩)
  · intro hc s hs
    obtain ⟨m', hm, path, hpath, list, -, datatype, -, allowed, -, least, hleast, rfl⟩ :=
      Dataset.mem_propertyAnswers_iff.1 hs
    obtain ⟨m, rfl, hsaid⟩ := Dataset.mem_objectsOfTerm.1 hpath
    have hread : ∀ t ∈ d.objectsOfTerm m.term Shacl.minCount, ∃ l k, t = .literal l ∧
        Number.readSigned64 (Text.trim l.text) = .ok k := by
      intro t ht
      obtain ⟨n, hn, hcount⟩ := Dataset.mem_objectsOfTerm.1 ht
      rw [Node.term_injective hn] at hcount
      exact hc m (Dataset.mem_defaultObjects.1 hm) ⟨path, hsaid⟩ t hcount
    obtain ⟨k, hk⟩ := forall_picks_readsInteger_iff.2 hread least hleast
    exact ⟨_, decode_propertyAnswer.2 ⟨k, hk, rfl⟩⟩

/-- A shape that has been compiled before can be compiled. -/
theorem Faithful.exists_compile_iff (hc : c.Faithful d) :
    (∃ c', ShapeCatalog.compile d c i = .ok c') ↔ Countable d i := by
  rw [← exists_shapeConstraints_iff]
  unfold ShapeCatalog.compile
  by_cases hsome : (c.byIri i).isSome = true
  · rw [if_pos hsome]
    have hi : i ∈ c.shapes.map RecordShape.iri := by
      by_contra hno
      rw [byIri_eq_none_iff.2 hno] at hsome
      cases hsome
    obtain ⟨shape, hshape, rfl⟩ := List.mem_map.1 hi
    obtain ⟨rows, hrows, -⟩ := hc.compiled shape hshape
    exact ⟨fun _ => ⟨rows, hrows⟩, fun _ => ⟨c, rfl⟩⟩
  · rw [if_neg hsome]
    cases shapeConstraints d i <;> simp

theorem isNodeShape_iff : d.isNodeShape i = true ↔
    d.Says (.iri i) Vocabulary.type (.iri Shacl.nodeShape) :=
  decide_eq_true_iff

theorem Faithful.exists_compileExtra_iff (hc : c.Faithful d) :
    (∃ c', ShapeCatalog.compileExtra d ns c name = .ok c') ↔
      ∃ i, Iri.parse? (extraText ns name) = some i ∧
        (d.Says (.iri i) Vocabulary.type (.iri Shacl.nodeShape) → Countable d i) := by
  unfold ShapeCatalog.compileExtra
  cases hi : Iri.parse? (extraText ns name) with
  | none => simp
  | some i =>
    simp only [Option.some.injEq, exists_eq_left', ← isNodeShape_iff]
    by_cases hshape : d.isNodeShape i = true
    · simp [hshape, hc.exists_compile_iff]
    · simp [hshape]

/-! ## All shapes -/

theorem mem_entityPropertyShapes_iff : i ∈ d.entityPropertyShapes propertyClass ↔
    (∃ property : Node, d.Says property Vocabulary.type (.iri propertyClass) ∧
      d.Says property Vocabulary.range (.iri i)) ∧
    d.Says (.iri i) Vocabulary.type (.iri Shacl.nodeShape) := by
  simp only [Dataset.entityPropertyShapes, mem_sortIris, mem_distinct, List.mem_filter,
    List.mem_flatMap, List.mem_filterMap, Dataset.mem_defaultSubjects, Dataset.mem_defaultObjects,
    Term.iri?_eq_some_iff, exists_eq_right, isNodeShape_iff]
  rfl

/-- The shapes of records can be compiled if all names make IRIs and all least counts can be
read. -/
theorem exists_build_iff : (∃ c, build d propertyClass ns extra = .ok c) ↔
    (∀ name ∈ extra, (Iri.parse? (extraText ns name)).isSome) ∧
      ∀ i, Covers d propertyClass ns extra i → Countable d i := by
  rw [build, exists_bind_iff]
  have hranged : (∃ c, (d.entityPropertyShapes propertyClass).foldlM (compile d) empty = .ok c) ↔
      ∀ i ∈ d.entityPropertyShapes propertyClass, Countable d i :=
    exists_foldlM_iff Faithful.compile Faithful.exists_compile_iff (faithful_empty d)
  have hnamed : ∀ {c}, (d.entityPropertyShapes propertyClass).foldlM (compile d) empty = .ok c →
      ((∃ c', extra.foldlM (compileExtra d ns) c = .ok c') ↔
        ∀ name ∈ extra, ∃ i, Iri.parse? (extraText ns name) = some i ∧
          (d.Says (.iri i) Vocabulary.type (.iri Shacl.nodeShape) → Countable d i)) := by
    intro c hc
    exact exists_foldlM_iff Faithful.compileExtra Faithful.exists_compileExtra_iff
      (foldlM_induction Faithful.compile hc (faithful_empty d))
  constructor
  · rintro ⟨c, hc, hextra⟩
    have hfirst := hranged.1 ⟨c, hc⟩
    have hsecond := (hnamed hc).1 hextra
    constructor
    · intro name hname
      obtain ⟨i, hi, -⟩ := hsecond name hname
      rw [hi]
      rfl
    · intro i hi
      cases hi with
      | ranged htyped hrange hshape =>
        exact hfirst i (mem_entityPropertyShapes_iff.2 ⟨⟨_, htyped, hrange⟩, hshape⟩)
      | named hname hi hshape =>
        obtain ⟨i', hi', hcountable⟩ := hsecond _ hname
        rw [hi] at hi'
        cases hi'
        exact hcountable hshape
  · rintro ⟨hvalid, hcountable⟩
    obtain ⟨c, hc⟩ := hranged.2 fun i hi => by
      obtain ⟨⟨property, htyped, hrange⟩, hshape⟩ := mem_entityPropertyShapes_iff.1 hi
      exact hcountable i (.ranged htyped hrange hshape)
    refine ⟨c, hc, (hnamed hc).2 fun name hname => ?_⟩
    obtain ⟨i, hi⟩ := Option.isSome_iff_exists.1 (hvalid name hname)
    exact ⟨i, hi, fun hshape => hcountable i (.named hname hi hshape)⟩

/-! ## Declared shapes -/

/-- All shapes of a catalog are declared as node shapes. -/
def Declared (d : Dataset) (c : ShapeCatalog) : Prop :=
  ∀ shape ∈ c.shapes, d.isNodeShape shape.iri = true

theorem Declared.compile {c' : ShapeCatalog} (hc : Declared d c) (hi : d.isNodeShape i = true)
    (h : ShapeCatalog.compile d c i = .ok c') : Declared d c' := by
  unfold ShapeCatalog.compile at h
  by_cases hsome : (c.byIri i).isSome = true
  · rw [if_pos hsome] at h
    cases h
    exact hc
  · rw [if_neg hsome] at h
    cases hrows : shapeConstraints d i with
    | error faults =>
      rw [hrows] at h
      cases h
    | ok rows =>
      rw [hrows] at h
      cases h
      intro shape hshape
      rcases List.mem_append.1 hshape with hshape | hshape
      · exact hc shape hshape
      · rw [List.mem_singleton.1 hshape]
        exact hi

theorem Declared.compileExtra {c' : ShapeCatalog} (hc : Declared d c)
    (h : ShapeCatalog.compileExtra d ns c name = .ok c') : Declared d c' := by
  unfold ShapeCatalog.compileExtra at h
  cases hi : Iri.parse? (extraText ns name) with
  | none =>
    rw [hi] at h
    cases h
  | some i =>
    simp only [hi] at h
    by_cases hshape : d.isNodeShape i = true
    · rw [if_pos hshape] at h
      exact hc.compile hshape h
    · rw [if_neg hshape] at h
      cases h
      exact hc

theorem declared_of_build (h : build d propertyClass ns extra = .ok c) : Declared d c := by
  obtain ⟨c₁, hc₁, h⟩ := bind_eq_ok h
  have hempty : Declared d empty := by simp [Declared, empty]
  have hfirst : Declared d c₁ := by
    refine foldlM_induction_of_mem ?_ hc₁ hempty
    intro c i c' hi hc h
    exact hc.compile (isNodeShape_iff.2 (mem_entityPropertyShapes_iff.1 hi).2) h
  exact foldlM_induction Declared.compileExtra h hfirst

end BuildingModel.ShapeCatalog
