import BuildingModel.Proofs.Validation.Report

/-!
# Shapes that can be loaded

The shapes of an ontology can be loaded if every property shape with an IRI for its path says what
can be read: counts that are whole numbers, bounds that are numbers, and a pattern that the engine
compiles. What is no literal is not read.
-/
namespace BuildingModel.Validation

open BuildingModel.Rdf BuildingModel.Number

variable {d : Dataset} {m : Node} {p path i : Iri} {E : PatternEngine}

/-- The properties that give counts. -/
def countPredicates : List Iri :=
  [Shacl.minCount, Shacl.maxCount, Shacl.minLength, Shacl.maxLength]

/-- The properties that give bounds. -/
def boundPredicates : List Iri := [Shacl.minInclusive, Shacl.maxInclusive]

/-- What of a property shape can keep it from being loaded. -/
def loadedPredicates : List Iri :=
  Shacl.path :: Shacl.pattern :: (countPredicates ++ boundPredicates)

/-- The literals of a property shape can be read, its pattern by an engine. -/
structure Loadable (d : Dataset) (E : PatternEngine) (m : Node) : Prop where
  counts : ∀ p ∈ countPredicates, ∀ l, .literal l ∈ d.objects m p →
    ∃ k, readCount (Text.trim l.text) = .ok k
  bounds : ∀ p ∈ boundPredicates, ∀ l, .literal l ∈ d.objects m p →
    ∃ x, readBinary binary64 (Text.trim l.text) = .ok x
  pattern : ∀ l, .literal l ∈ d.objects m Shacl.pattern → (E.compile? l.text).isSome

/-! ## Single values -/

section Single

variable (h : d.AtMostOne m p)

include h

theorem forall_textOf?_iff {P : String → Prop} :
    (∀ t, textOf? d m p = some t → P t) ↔ ∀ l, .literal l ∈ d.objects m p → P l.text := by
  simp only [textOf?_eq_some_iff h]
  constructor
  · intro hall l hl
    exact hall _ ⟨l, hl, rfl⟩
  · rintro hall t ⟨l, hl, rfl⟩
    exact hall l hl

theorem exists_countOf_iff : (∃ b, countOf d m p = .ok b) ↔
    ∀ l, .literal l ∈ d.objects m p → ∃ k, readCount (Text.trim l.text) = .ok k := by
  rw [← forall_textOf?_iff h (P := fun t => ∃ k, readCount (Text.trim t) = .ok k)]
  unfold countOf
  cases textOf? d m p with
  | none => simp
  | some t => cases hk : readCount (Text.trim t) <;> simp [hk]

theorem exists_numberOf_iff : (∃ b, numberOf d m p = .ok b) ↔
    ∀ l, .literal l ∈ d.objects m p → ∃ x, readBinary binary64 (Text.trim l.text) = .ok x := by
  rw [← forall_textOf?_iff h (P := fun t => ∃ x, readBinary binary64 (Text.trim t) = .ok x)]
  unfold numberOf
  cases textOf? d m p with
  | none => simp
  | some t => cases hx : readBinary binary64 (Text.trim t) <;> simp [hx]

end Single

theorem exists_patternOf_iff (h : d.AtMostOne m Shacl.pattern) :
    (∃ b, patternOf d m E path = .ok b) ↔
      ∀ l, .literal l ∈ d.objects m Shacl.pattern → (E.compile? l.text).isSome := by
  rw [← forall_textOf?_iff h (P := fun t => (E.compile? t).isSome)]
  unfold patternOf
  cases textOf? d m Shacl.pattern with
  | none => simp
  | some t => cases hr : E.compile? t <;> simp [PatternEngine.pattern?, hr]

/-! ## Shapes -/

/-- A property shape with an IRI for its path can be loaded if its literals can be read. -/
theorem exists_loadProperty_of_path (hone : ∀ p ∈ loadedPredicates, d.AtMostOne m p)
    (hpath : iriOf? d m Shacl.path = some path) :
    (∃ b, loadProperty d m E = .ok b) ↔ Loadable d E m := by
  have hcount : ∀ p ∈ countPredicates, (∃ b, countOf d m p = .ok b) ↔
      ∀ l, .literal l ∈ d.objects m p → ∃ k, readCount (Text.trim l.text) = .ok k :=
    fun p hp => exists_countOf_iff (hone p (by simp [loadedPredicates, hp]))
  have hnumber : ∀ p ∈ boundPredicates, (∃ b, numberOf d m p = .ok b) ↔
      ∀ l, .literal l ∈ d.objects m p → ∃ x, readBinary binary64 (Text.trim l.text) = .ok x :=
    fun p hp => exists_numberOf_iff (hone p (by simp [loadedPredicates, hp]))
  have hpattern : (∃ b, patternOf d m E path = .ok b) ↔
      ∀ l, .literal l ∈ d.objects m Shacl.pattern → (E.compile? l.text).isSome :=
    exists_patternOf_iff (hone _ (by simp [loadedPredicates]))
  simp only [loadProperty, hpath, exists_bind_iff]
  constructor
  · rintro ⟨_, h₁, _, h₂, _, h₃, _, h₄, _, h₅, _, h₆, _, h₇, -⟩
    constructor
    · intro p hp
      rw [← hcount p hp]
      simp only [countPredicates, List.mem_cons, List.not_mem_nil, or_false] at hp
      rcases hp with rfl | rfl | rfl | rfl
      · exact ⟨_, h₁⟩
      · exact ⟨_, h₂⟩
      · exact ⟨_, h₃⟩
      · exact ⟨_, h₄⟩
    · intro p hp
      rw [← hnumber p hp]
      simp only [boundPredicates, List.mem_cons, List.not_mem_nil, or_false] at hp
      rcases hp with rfl | rfl
      · exact ⟨_, h₅⟩
      · exact ⟨_, h₆⟩
    · exact hpattern.1 ⟨_, h₇⟩
  · intro hl
    have hcounts := fun p hp => (hcount p hp).2 (hl.counts p hp)
    have hbounds := fun p hp => (hnumber p hp).2 (hl.bounds p hp)
    obtain ⟨_, h₁⟩ := hcounts Shacl.minCount (by simp [countPredicates])
    obtain ⟨_, h₂⟩ := hcounts Shacl.maxCount (by simp [countPredicates])
    obtain ⟨_, h₃⟩ := hcounts Shacl.minLength (by simp [countPredicates])
    obtain ⟨_, h₄⟩ := hcounts Shacl.maxLength (by simp [countPredicates])
    obtain ⟨_, h₅⟩ := hbounds Shacl.minInclusive (by simp [boundPredicates])
    obtain ⟨_, h₆⟩ := hbounds Shacl.maxInclusive (by simp [boundPredicates])
    obtain ⟨_, h₇⟩ := hpattern.2 hl.pattern
    exact ⟨_, h₁, _, h₂, _, h₃, _, h₄, _, h₅, _, h₆, _, h₇, _, rfl⟩

/-- A property shape can be loaded if its literals can be read, or if it has no IRI for its path. -/
theorem exists_loadProperty_iff (hone : ∀ p ∈ loadedPredicates, d.AtMostOne m p) :
    (∃ b, loadProperty d m E = .ok b) ↔
      ((∃ path, .iri path ∈ d.objects m Shacl.path) → Loadable d E m) := by
  have hpath : ∀ i, iriOf? d m Shacl.path = some i ↔ .iri i ∈ d.objects m Shacl.path :=
    fun _ => iriOf?_eq_some_iff (hone _ (by simp [loadedPredicates]))
  simp only [← hpath]
  cases hp : iriOf? d m Shacl.path with
  | none => simp [loadProperty, hp]
  | some path => simp [exists_loadProperty_of_path hone hp]

theorem exists_loadProperties_iff {ms : List Node} :
    (∃ ps, loadProperties d E ms = .ok ps) ↔ ∀ m ∈ ms, ∃ b, loadProperty d m E = .ok b := by
  induction ms with
  | nil => simp [loadProperties]
  | cons m ms ih =>
    rw [loadProperties, exists_bind_iff, List.forall_mem_cons, ← ih]
    simp only [exists_bind_iff]
    constructor
    · rintro ⟨b, hb, ps, hps, -⟩
      exact ⟨⟨b, hb⟩, ⟨ps, hps⟩⟩
    · rintro ⟨⟨b, hb⟩, ⟨ps, hps⟩⟩
      exact ⟨b, hb, ps, hps, _, rfl⟩

theorem exists_loadShape_iff : (∃ s, loadShape d E i = .ok s) ↔
    ∀ m : Node, m.term ∈ d.objects (.iri i) Shacl.property → ∃ b, loadProperty d m E = .ok b := by
  have hnodes : ∀ m : Node, m ∈ (d.objects (.iri i) Shacl.property).filterMap Term.node? ↔
      m.term ∈ d.objects (.iri i) Shacl.property := by
    intro m
    simp [Term.node?_eq_some_iff]
  simp only [loadShape, exists_bind_iff, ← hnodes, ← exists_loadProperties_iff]
  constructor
  · rintro ⟨ps, hps, -⟩
    exact ⟨ps, hps⟩
  · rintro ⟨ps, hps⟩
    exact ⟨ps, hps, _, rfl⟩

theorem exists_loadShapesOf_iff {is : List Iri} :
    (∃ ss, loadShapesOf d E is = .ok ss) ↔ ∀ i ∈ is, ∃ s, loadShape d E i = .ok s := by
  induction is with
  | nil => simp [loadShapesOf]
  | cons i is ih =>
    rw [loadShapesOf, exists_bind_iff, List.forall_mem_cons, ← ih]
    simp only [exists_bind_iff]
    constructor
    · rintro ⟨s, hs, ss, hss, -⟩
      exact ⟨⟨s, hs⟩, ⟨ss, hss⟩⟩
    · rintro ⟨⟨s, hs⟩, ⟨ss, hss⟩⟩
      exact ⟨s, hs, ss, hss, _, rfl⟩

/-- There is a validator of an ontology if all of its node shapes can be loaded. -/
theorem exists_ofDataset_iff
    (hone : ∀ s m : Node, m.term ∈ d.objects s Shacl.property →
      ∀ p ∈ loadedPredicates, d.AtMostOne m p) :
    (∃ v, ShapeValidator.ofDataset d E = .ok v) ↔
      ∀ i : Iri, .iri Shacl.nodeShape ∈ d.objects (.iri i) Vocabulary.type →
        ∀ m : Node, m.term ∈ d.objects (.iri i) Shacl.property →
          (∃ path, .iri path ∈ d.objects m Shacl.path) → Loadable d E m := by
  have hshapes : ∀ i, i ∈ shapeIris d ↔
      .iri Shacl.nodeShape ∈ d.objects (.iri i) Vocabulary.type := by
    intro i
    simp only [shapeIris, List.mem_filterMap, Dataset.mem_subjects, Dataset.mem_objects,
      Term.iri?_eq_some_iff]
    constructor
    · rintro ⟨n, hn, hi⟩
      obtain rfl : n = .iri i := Node.term_injective hi
      exact hn
    · intro hi
      exact ⟨.iri i, hi, rfl⟩
  rw [ShapeValidator.ofDataset, exists_map_iff, loadShapes, exists_map_iff,
    exists_loadShapesOf_iff]
  simp only [hshapes, exists_loadShape_iff]
  constructor
  · intro hall i hi m hm
    exact (exists_loadProperty_iff (hone _ m hm)).1 (hall i hi m hm)
  · intro hall i hi m hm
    exact (exists_loadProperty_iff (hone _ m hm)).2 (hall i hi m hm)

end BuildingModel.Validation
