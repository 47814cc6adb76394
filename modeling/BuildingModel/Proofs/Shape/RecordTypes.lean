import BuildingModel.Proofs.Shape.Compilable
import BuildingModel.Proofs.Shape.Properties

/-!
# The record types of an ontology

Which shapes of records an ontology makes can be read off its statements and the settings: the node
shapes that properties range over come first, in the order of their IRIs, and then those that the
settings name, in their order, as far as they are new. Where property shapes are stated plainly, so
can their fields: each path has one, which is required if the least count is positive and takes the
elements of a list that is named, in the order of the list.
-/
namespace BuildingModel

open BuildingModel.Rdf BuildingModel.Ontology

namespace ShapeCatalog

variable {d : Dataset} {propertyClass i : Iri} {ns name : String} {extra : List String}
  {c c' : ShapeCatalog}

/-! ## Which shapes there are -/

/-- The node shape that a name of the settings stands for. -/
def named? (d : Dataset) (ns name : String) : Option Iri :=
  (Iri.parse? (extraText ns name)).filter d.isNodeShape

theorem iris_compile (h : compile d c i = .ok c') :
    c'.shapes.map RecordShape.iri = PathDraft.withNew (c.shapes.map RecordShape.iri) (some i) := by
  unfold compile at h
  by_cases hi : i ∈ c.shapes.map RecordShape.iri
  · have hsome : (c.byIri i).isSome = true := by
      rw [Option.isSome_iff_ne_none]
      exact fun hnone => byIri_eq_none_iff.1 hnone hi
    rw [if_pos hsome] at h
    cases h
    simp only [PathDraft.withNew, if_pos hi]
  · rw [byIri_eq_none_iff.2 hi] at h
    cases hrows : shapeConstraints d i with
    | error faults =>
      rw [hrows] at h
      cases h
    | ok rows =>
      rw [hrows] at h
      cases h
      simp only [insert, List.map_append, List.map_singleton, PathDraft.withNew, if_neg hi]
      rfl

theorem iris_compileExtra (h : compileExtra d ns c name = .ok c') :
    c'.shapes.map RecordShape.iri =
      PathDraft.withNew (c.shapes.map RecordShape.iri) (named? d ns name) := by
  unfold compileExtra at h
  unfold named?
  cases hi : Iri.parse? (extraText ns name) with
  | none =>
    rw [hi] at h
    cases h
  | some i =>
    simp only [hi] at h
    by_cases hshape : d.isNodeShape i = true
    · rw [if_pos hshape] at h
      rw [Option.filter_some, if_pos hshape]
      exact iris_compile h
    · rw [if_neg hshape] at h
      cases h
      rw [Option.filter_some, if_neg hshape]
      rfl

theorem withNew_distinct {α : Type} [DecidableEq α] (xs : List α) (x : Option α) :
    PathDraft.withNew (distinct xs) x = distinct (xs ++ x.toList) := by
  cases x with
  | none => simp [PathDraft.withNew]
  | some x => simp [PathDraft.withNew, distinct_append_singleton]

/-- Where each step enters at most one IRI, all steps enter theirs in order, each once. -/
theorem iris_foldlM {α : Type} {step : ShapeCatalog → α → Except ShapeError ShapeCatalog}
    {enters : α → Option Iri} {xs : List α} {entered : List Iri}
    (h : xs.foldlM step c = .ok c') (hc : c.shapes.map RecordShape.iri = distinct entered)
    (hstep : ∀ {c x c'}, step c x = .ok c' → c'.shapes.map RecordShape.iri =
      PathDraft.withNew (c.shapes.map RecordShape.iri) (enters x)) :
    c'.shapes.map RecordShape.iri = distinct (entered ++ xs.filterMap enters) := by
  induction xs generalizing c entered with
  | nil =>
    cases h
    rw [List.filterMap_nil, List.append_nil, hc]
  | cons x xs ih =>
    rw [List.foldlM_cons] at h
    obtain ⟨c₁, hc₁, h⟩ := bind_eq_ok h
    have hentered : c₁.shapes.map RecordShape.iri = distinct (entered ++ (enters x).toList) := by
      rw [hstep hc₁, hc, withNew_distinct]
    rw [ih h hentered, List.append_assoc]
    cases hx : enters x with
    | none => simp [hx]
    | some i => simp [hx]

/-- The node shapes that properties range over come in strict order. -/
theorem pairwise_entityPropertyShapes (d : Dataset) (propertyClass : Iri) :
    (d.entityPropertyShapes propertyClass).Pairwise fun i j => i.text < j.text :=
  pairwise_lt_mergeSort_text (fun _ _ h => congrArg Iri.mk h) (nodup_distinct _)

/-- The shapes are those that properties range over and then those that the settings name, as far as
they are new. -/
theorem iris_of_build (h : build d propertyClass ns extra = .ok c) :
    c.shapes.map RecordShape.iri = d.entityPropertyShapes propertyClass ++
      (distinct (extra.filterMap (named? d ns))).filter
        (· ∉ d.entityPropertyShapes propertyClass) := by
  obtain ⟨c₁, hc₁, h⟩ := bind_eq_ok h
  have hranged : c₁.shapes.map RecordShape.iri =
      distinct ([] ++ (d.entityPropertyShapes propertyClass).filterMap some) :=
    iris_foldlM hc₁ rfl iris_compile
  have hall := iris_foldlM h hranged iris_compileExtra
  have hnodup : (d.entityPropertyShapes propertyClass).Nodup := by
    refine (pairwise_entityPropertyShapes d propertyClass).imp fun hlt heq => ?_
    rw [heq] at hlt
    exact String.lt_irrefl _ hlt
  rw [hall, distinct_append, List.filterMap_some, List.nil_append, distinct_of_nodup hnodup]

/-- The shape of a name is the first one that has it. -/
theorem byName_eq_some_iff {id : ShapeId} : c.byName name = some id ↔
    (∃ shape, c.get? id = some shape ∧ shape.name = name) ∧
      ∀ j < id.index, ∀ shape, c.get? ⟨j⟩ = some shape → shape.name ≠ name := by
  obtain ⟨i⟩ := id
  rw [byName, nameIndex_eq, Option.map_eq_some_iff]
  simp only [ShapeId.mk.injEq, exists_eq_right, Index.get?_first_eq_some_iff, List.getElem?_map,
    Option.map_eq_some_iff, get?, ne_eq, not_exists, not_and]

end ShapeCatalog

/-! ## Plainly stated property shapes -/

/-- The property shapes of a shape are stated plainly: each names at most one path and one list, and
they can be told apart by the local names of their paths. -/
structure PlainlyStated (d : Dataset) (s : Iri) : Prop where
  path : ∀ m : Node, d.Says (.iri s) Shacl.property m.term → ∀ p p' : Iri,
    d.Says m Shacl.path (.iri p) → d.Says m Shacl.path (.iri p') → p = p'
  members : ∀ m : Node, d.Says (.iri s) Shacl.property m.term → ∀ head head' : Term,
    d.Says m Shacl.members head → d.Says m Shacl.members head' → head = head'
  names : ∀ m m' : Node, d.Says (.iri s) Shacl.property m.term →
    d.Says (.iri s) Shacl.property m'.term → ∀ p p' : Iri, d.Says m Shacl.path (.iri p) →
    d.Says m' Shacl.path (.iri p') → p.name = p'.name → m = m'

/-- A field says what is stated of a property shape: whether a value is required, and, unless it is
the one of units, which elements a well-formed list has. -/
structure Field.StatedBy (d : Dataset) (m : Node) (f : Field) : Prop where
  required : f.required = true ↔ ∃ l k, d.Says m Shacl.minCount (.literal l) ∧
    Number.readSigned64 (Text.trim l.text) = .ok k ∧ 0 < k
  members : f.name ≠ "hasUnit" → ∀ head xs, d.Says m Shacl.members head → d.Collects head xs →
    xs ≠ [] → f.kind = .enumeration (distinct xs)

namespace PlainlyStated

variable {d : Dataset} {s p : Iri} {m : Node} {rows : List ConstraintRow}

theorem soleOnPath (h : PlainlyStated d s) (hm : d.Says (.iri s) Shacl.property m.term)
    (hp : d.Says m Shacl.path (.iri p)) : SoleOnPath d s m p where
  property := hm
  path := hp
  sole m' hm' hp' := h.names m' m hm' hm p p hp' hp rfl

/-- There is a field on each path. -/
theorem mem_fields (h : PlainlyStated d s) (hrows : ShapeCatalog.shapeConstraints d s = .ok rows)
    (hm : d.Says (.iri s) Shacl.property m.term) (hp : d.Says m Shacl.path (.iri p)) :
    (PathDraft.ofRows rows p).field ∈ (RecordShape.ofRows s rows).fields := by
  apply (h.soleOnPath hm hp).mem_fields hrows
  intro n n' hn hn' q q' hq hq' hname
  obtain rfl := h.names n n' hn hn' q q' hq hq' hname
  exact h.path n hn q q' hq hq'

theorem statedBy_field (h : PlainlyStated d s)
    (hrows : ShapeCatalog.shapeConstraints d s = .ok rows)
    (hm : d.Says (.iri s) Shacl.property m.term) (hp : d.Says m Shacl.path (.iri p)) :
    (PathDraft.ofRows rows p).field.StatedBy d m where
  required := (h.soleOnPath hm hp).required_iff hrows
  members hname head xs hhead hxs hne := by
    have hvalues : (PathDraft.ofRows rows p).values = distinct xs := by
      rw [(h.soleOnPath hm hp).values_eq hrows hhead fun head' hhead' =>
        h.members m hm head' head hhead' hhead, hxs.members_eq]
    have hsome : (PathDraft.ofRows rows p).values ≠ [] := by
      obtain ⟨x, hx⟩ := List.exists_mem_of_ne_nil xs hne
      rw [hvalues]
      exact List.ne_nil_of_mem (mem_distinct.2 hx)
    rw [PathDraft.kind_field, PathDraft.kind_of_values hname hsome, hvalues]

/-- There is one field on each path, and it says what is stated of the property shape. -/
theorem exists_field (h : PlainlyStated d s) (hrows : ShapeCatalog.shapeConstraints d s = .ok rows)
    (hm : d.Says (.iri s) Shacl.property m.term) (hp : d.Says m Shacl.path (.iri p)) :
    ∃ f ∈ (RecordShape.ofRows s rows).fields, f.path = p ∧ f.StatedBy d m ∧
      ∀ f' ∈ (RecordShape.ofRows s rows).fields, f'.path = p → f' = f := by
  have hfield := h.mem_fields hrows hm hp
  refine ⟨_, hfield, rfl, h.statedBy_field hrows hm hp, fun f' hf' hpath => ?_⟩
  exact List.inj_on_of_nodup_map (nodup_names_ofRows s rows) hf' hfield (congrArg Iri.name hpath)

end PlainlyStated

/-- The shapes of records that an ontology makes are the node shapes that properties range over, in
the order of their IRIs, and then those that the settings name, in their order, each of them once;
what the settings name are IRIs.
They are found by their IRIs and by their names, where the first one of a name counts. If the
property shapes of one of them are stated plainly, it has one field on each path, which says what is
stated of the property shape. -/
theorem record_types_of_build {d : Dataset} {propertyClass : Iri} {ns : String}
    {extra : List String} {c : ShapeCatalog}
    (h : ShapeCatalog.build d propertyClass ns extra = .ok c) :
    (∀ name ∈ extra, (Iri.parse? (ShapeCatalog.extraText ns name)).isSome) ∧
    (∃ ranged, c.shapes.map RecordShape.iri = ranged ++
        (distinct (extra.filterMap (ShapeCatalog.named? d ns))).filter (· ∉ ranged) ∧
      ranged.Pairwise (fun i j => i.text < j.text) ∧
      ∀ i, i ∈ ranged ↔ (∃ property : Node,
          d.Says property Vocabulary.type (.iri propertyClass) ∧
          d.Says property Vocabulary.range (.iri i)) ∧
        d.Says (.iri i) Vocabulary.type (.iri Shacl.nodeShape)) ∧
    (c.shapes.map RecordShape.iri).Nodup ∧
    (∀ i id, c.byIri i = some id ↔ ∃ shape, c.get? id = some shape ∧ shape.iri = i) ∧
    (∀ name id, c.byName name = some id ↔
      (∃ shape, c.get? id = some shape ∧ shape.name = name) ∧
        ∀ j < id.index, ∀ shape, c.get? ⟨j⟩ = some shape → shape.name ≠ name) ∧
    ∀ shape ∈ c.shapes, PlainlyStated d shape.iri → ∀ (m : Node) (p : Iri),
      d.Says (.iri shape.iri) Shacl.property m.term → d.Says m Shacl.path (.iri p) →
        ∃ f ∈ shape.fields, f.path = p ∧ f.StatedBy d m ∧ ∀ f' ∈ shape.fields, f'.path = p →
          f' = f := by
  have hfaithful := ShapeCatalog.faithful_of_build h
  have hnamed : ∀ name ∈ extra, (Iri.parse? (ShapeCatalog.extraText ns name)).isSome :=
    (ShapeCatalog.exists_build_iff.1 ⟨c, h⟩).1
  have hordered := ShapeCatalog.pairwise_entityPropertyShapes d propertyClass
  have hranged : ∀ i, i ∈ d.entityPropertyShapes propertyClass ↔ _ :=
    fun _ => ShapeCatalog.mem_entityPropertyShapes_iff
  have hbyIri : ∀ i id, c.byIri i = some id ↔ ∃ shape, c.get? id = some shape ∧ shape.iri = i :=
    fun i id => ShapeCatalog.byIri_eq_some_iff hfaithful.iris_nodup
  refine ⟨hnamed, ⟨_, ShapeCatalog.iris_of_build h, hordered, hranged⟩, hfaithful.iris_nodup,
    hbyIri, fun name id => ShapeCatalog.byName_eq_some_iff, ?_⟩
  intro shape hshape hplain m p hm hp
  obtain ⟨rows, hrows, hcompiled⟩ := hfaithful.compiled shape hshape
  have hfields : shape.fields = (RecordShape.ofRows shape.iri rows).fields :=
    congrArg RecordShape.fields hcompiled
  rw [hfields]
  exact hplain.exists_field hrows hm hp

/-! ## Grades -/

/-- An ontology with a property that ranges over grades, whose level is to be on a list, and with a
shape of notes that no property ranges over. -/
def gradeOntology : Dataset := .ofTriples
  [⟨.iri ⟨"urn:b#graded"⟩, Vocabulary.type, .iri ⟨"urn:b#EntityProperty"⟩⟩,
    ⟨.iri ⟨"urn:b#graded"⟩, Vocabulary.range, .iri ⟨"urn:b#Grade"⟩⟩,
    ⟨.iri ⟨"urn:b#Note"⟩, Vocabulary.type, .iri Shacl.nodeShape⟩,
    ⟨.iri ⟨"urn:b#Grade"⟩, Vocabulary.type, .iri Shacl.nodeShape⟩,
    ⟨.iri ⟨"urn:b#Grade"⟩, Shacl.property, .blank ⟨"p"⟩⟩,
    ⟨.blank ⟨"p"⟩, Shacl.path, .iri ⟨"urn:b#level"⟩⟩,
    ⟨.blank ⟨"p"⟩, Shacl.minCount, .literal (.typed "1" Xsd.integer)⟩,
    ⟨.blank ⟨"p"⟩, Shacl.members, .blank ⟨"a"⟩⟩,
    ⟨.blank ⟨"a"⟩, Vocabulary.first, .literal (.plain "low")⟩,
    ⟨.blank ⟨"a"⟩, Vocabulary.rest, .blank ⟨"b"⟩⟩,
    ⟨.blank ⟨"b"⟩, Vocabulary.first, .literal (.plain "high")⟩,
    ⟨.blank ⟨"b"⟩, Vocabulary.rest, .blank ⟨"c"⟩⟩,
    ⟨.blank ⟨"c"⟩, Vocabulary.first, .literal (.plain "low")⟩,
    ⟨.blank ⟨"c"⟩, Vocabulary.rest, .iri Vocabulary.nil⟩]

def gradeCatalog : ShapeCatalog := .ofShapes [
  ⟨⟨"urn:b#Grade"⟩, [⟨⟨"urn:b#level"⟩,
    .enumeration [.literal (.plain "low"), .literal (.plain "high")], true⟩]⟩,
  ⟨⟨"urn:b#Note"⟩, []⟩]

theorem collects_levels : gradeOntology.Collects (Node.blank ⟨"a"⟩).term
    [.literal (.plain "low"), .literal (.plain "high"), .literal (.plain "low")] := by
  have hlast : gradeOntology.Collects (Node.blank ⟨"c"⟩).term [.literal (.plain "low")] :=
    .of_objects_eq (by decide) (by decide) (by decide) .nil
  have hsecond : gradeOntology.Collects (Node.blank ⟨"b"⟩).term
      [.literal (.plain "high"), .literal (.plain "low")] :=
    .of_objects_eq (by decide) (by decide) (by decide) hlast
  exact .of_objects_eq (by decide) (by decide) (by decide) hsecond

theorem build_gradeCatalog :
    ShapeCatalog.build gradeOntology ⟨"urn:b#EntityProperty"⟩ "urn:b#" ["Grade", "Note"] =
      .ok gradeCatalog := by
  have hranged : gradeOntology.entityPropertyShapes ⟨"urn:b#EntityProperty"⟩ =
      [⟨"urn:b#Grade"⟩] := by decide +kernel
  have hlevels : gradeOntology.propertyRows ⟨"urn:b#Grade"⟩ =
      .ok [⟨⟨"urn:b#level"⟩, some (.blank ⟨"a"⟩), none, none, some 1⟩] := by decide +kernel
  have hgrades : ShapeCatalog.shapeConstraints gradeOntology ⟨"urn:b#Grade"⟩ =
      .ok ([.literal (.plain "low"), .literal (.plain "high"), .literal (.plain "low")].map
        fun v => ⟨⟨"urn:b#level"⟩, some v, none, none, some 1⟩) := by
    have hlist : gradeOntology.members (.blank ⟨"a"⟩) = _ := collects_levels.members_eq
    rw [ShapeCatalog.shapeConstraints, hlevels]
    simp [Except.map, ShapeCatalog.constraintRows, hlist, Dataset.orAbsent]
  have hnotes : ShapeCatalog.shapeConstraints gradeOntology ⟨"urn:b#Note"⟩ = .ok [] := by
    have hnone : gradeOntology.propertyRows ⟨"urn:b#Note"⟩ = .ok [] := by decide +kernel
    rw [ShapeCatalog.shapeConstraints, hnone]
    rfl
  have hgrade : RecordShape.ofRows ⟨"urn:b#Grade"⟩
      ([.literal (.plain "low"), .literal (.plain "high"), .literal (.plain "low")].map
        fun v => ⟨⟨"urn:b#level"⟩, some v, none, none, some 1⟩) =
      ⟨⟨"urn:b#Grade"⟩, [⟨⟨"urn:b#level"⟩,
        .enumeration [.literal (.plain "low"), .literal (.plain "high")], true⟩]⟩ := by
    decide +kernel
  have hfirst : ShapeCatalog.compile gradeOntology .empty ⟨"urn:b#Grade"⟩ =
      .ok (.ofShapes (gradeCatalog.shapes.take 1)) := by
    rw [ShapeCatalog.compile, hgrades, if_neg (by decide)]
    simp only [hgrade]
    rfl
  have hknown : ShapeCatalog.compileExtra gradeOntology "urn:b#"
      (.ofShapes (gradeCatalog.shapes.take 1))
      "Grade" = .ok (.ofShapes (gradeCatalog.shapes.take 1)) := by decide +kernel
  have hsecond : ShapeCatalog.compileExtra gradeOntology "urn:b#"
      (.ofShapes (gradeCatalog.shapes.take 1))
      "Note" = .ok gradeCatalog := by
    have hiri : Iri.parse? (ShapeCatalog.extraText "urn:b#" "Note") = some ⟨"urn:b#Note"⟩ := by
      decide +kernel
    have hdeclared : gradeOntology.isNodeShape ⟨"urn:b#Note"⟩ = true := by decide +kernel
    have hnote : RecordShape.ofRows ⟨"urn:b#Note"⟩ [] = ⟨⟨"urn:b#Note"⟩, []⟩ := by decide +kernel
    simp only [ShapeCatalog.compileExtra, hiri]
    rw [if_pos hdeclared, ShapeCatalog.compile, hnotes, if_neg (by decide)]
    simp only [hnote]
    rfl
  rw [ShapeCatalog.build, hranged, List.foldlM_cons, hfirst]
  simp [bind, Except.bind, pure, Except.pure, hknown, hsecond]

theorem plainlyStated_grade : PlainlyStated gradeOntology ⟨"urn:b#Grade"⟩ := by
  have hone : ∀ {n : Node} {q : Iri} {x y : Term}, gradeOntology.defaultObjects n q = [x] →
      gradeOntology.Says n q y → y = x := by
    intro n q x y hq hy
    rw [Dataset.Says, ← Dataset.mem_defaultObjects, hq] at hy
    exact List.mem_singleton.1 hy
  have hproperty : ∀ m : Node, gradeOntology.Says (.iri ⟨"urn:b#Grade"⟩) Shacl.property m.term →
      m = .blank ⟨"p"⟩ := by
    intro m hm
    have hterm : m.term = (Node.blank ⟨"p"⟩).term := hone (by decide) hm
    exact Node.term_injective hterm
  have hpath : ∀ p, gradeOntology.Says (.blank ⟨"p"⟩) Shacl.path (.iri p) →
      p = ⟨"urn:b#level"⟩ := by
    intro p hp
    exact Term.iri.inj (hone (by decide) hp)
  constructor
  · intro m hm p p' hp hp'
    rw [hproperty m hm] at hp hp'
    rw [hpath p hp, hpath p' hp']
  · intro m hm head head' hhead hhead'
    rw [hproperty m hm] at hhead hhead'
    have hlist : gradeOntology.defaultObjects (.blank ⟨"p"⟩) Shacl.members = [.blank ⟨"a"⟩] := by
      decide
    rw [hone hlist hhead, hone hlist hhead']
  · intro m m' hm hm' _ _ _ _ _
    rw [hproperty m hm, hproperty m' hm']

/-- The shape of grades comes before the one of notes, and its field of levels has to have one of
the two levels, in the order of the list. -/
theorem record_types_of_grades :
    gradeCatalog.byIri ⟨"urn:b#Grade"⟩ = some ⟨0⟩ ∧ gradeCatalog.byName "Note" = some ⟨1⟩ ∧
      ∃ f : Field, f.path = ⟨"urn:b#level"⟩ ∧ f.required = true ∧
        f.kind = .enumeration [.literal (.plain "low"), .literal (.plain "high")] := by
  obtain ⟨-, -, -, hiri, hname, hfields⟩ := record_types_of_build build_gradeCatalog
  refine ⟨(hiri _ _).2 ⟨_, rfl, rfl⟩, (hname _ _).2 ⟨⟨_, rfl, by decide +kernel⟩, ?_⟩, ?_⟩
  · intro j hj shape hshape
    obtain rfl : j = 0 := Nat.lt_one_iff.1 hj
    cases hshape
    decide +kernel
  · obtain ⟨f, -, hpath, hf, -⟩ := hfields _ List.mem_cons_self plainlyStated_grade
      (.blank ⟨"p"⟩) ⟨"urn:b#level"⟩ (by decide) (by decide)
    have hsaid : gradeOntology.Says (.blank ⟨"p"⟩) Shacl.minCount
        (.literal (.typed "1" Xsd.integer)) := by decide
    have hcount : Number.readSigned64 (Text.trim (Literal.typed "1" Xsd.integer).text) = .ok 1 := by
      decide +kernel
    refine ⟨f, hpath, hf.required.2 ⟨_, 1, hsaid, hcount, Int.one_pos⟩, ?_⟩
    have hother : f.name ≠ "hasUnit" := by
      rw [Field.name, hpath]
      decide +kernel
    rw [hf.members hother _ _ (by decide) collects_levels (by simp)]
    decide +kernel

end BuildingModel
