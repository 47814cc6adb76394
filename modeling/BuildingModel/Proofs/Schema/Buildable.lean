import BuildingModel.Proofs.Hierarchy.Policies
import BuildingModel.Proofs.Relation.Faithful
import BuildingModel.Proofs.Schema.Parts
import BuildingModel.Proofs.Shape.Compilable
import BuildingModel.Proofs.Validation.Loadable

/-!
# Ontologies that have a schema

A schema can be built just where each of its parts can. The parts fail for reasons of their own: the
names of the settings, further parents, the labels of units, the least counts of records, properties
without an IRI and the literals of property shapes. Where a property shape says nothing twice, these
reasons are all there are.
-/
namespace BuildingModel

open BuildingModel.Rdf BuildingModel.Ontology BuildingModel.Validation

variable {d : Dataset} {settings : Settings} {E : PatternEngine}

/-! ## Units -/

namespace Rdf.Dataset

/-- The answer that binds the columns of a unit. -/
def unitAnswer (unit : Iri) (label : Term) (symbol expression description : Option Term) :
    Solution :=
  ⟨[("unit", .iri unit), ("label", label)] ++ bound "symbol" symbol ++ bound "expr" expression ++
    bound "defn" description⟩

theorem mem_unitAnswers_iff {s : Solution} :
    s ∈ d.unitAnswers ↔ ∃ unit, d.Says (.iri unit) Vocabulary.type (.iri Vocabulary.unit) ∧
      ∃ label, d.Says (.iri unit) Vocabulary.label label ∧
      ∃ symbol, Picks (d.defaultObjects (.iri unit) Vocabulary.symbol) symbol ∧
      ∃ expression, Picks (d.defaultObjects (.iri unit) Vocabulary.expression) expression ∧
      ∃ description, Picks (d.defaultObjects (.iri unit) Vocabulary.description) description ∧
        unitAnswer unit label symbol expression description = s := by
  have hunit : ∀ unit, unit ∈ sortIris ((d.defaultSubjects Vocabulary.type
      (.iri Vocabulary.unit)).filterMap fun n => n.term.iri?) ↔
      d.Says (.iri unit) Vocabulary.type (.iri Vocabulary.unit) := by
    intro unit
    simp only [mem_sortIris, List.mem_filterMap, mem_defaultSubjects, Term.iri?_eq_some_iff]
    constructor
    · rintro ⟨n, hn, hi⟩
      obtain rfl : n = .iri unit := Node.term_injective hi
      exact hn
    · intro h
      exact ⟨.iri unit, h, rfl⟩
  have hlabel : ∀ unit label, label ∈ sortTerms (d.defaultObjects (.iri unit) Vocabulary.label) ↔
      d.Says (.iri unit) Vocabulary.label label := by
    intro unit label
    rw [mem_sortTerms, mem_defaultObjects]
    rfl
  simp only [unitAnswers, List.mem_flatMap, List.mem_map, hunit, hlabel, mem_orAbsent_iff,
    unitAnswer]

theorem exists_decode_unitAnswer_iff {unit : Iri} {label : Term}
    {symbol expression description : Option Term} :
    (∃ r, UnitRow.decode (unitAnswer unit label symbol expression description) = .ok r) ↔
      ∃ l, label = .literal l := by
  have hunit : (unitAnswer unit label symbol expression description).iri "unit" = .ok unit :=
    Solution.iri_eq_ok_iff.2 rfl
  have hlabel : (unitAnswer unit label symbol expression description).term? "label" =
      some label := rfl
  rw [UnitRow.decode, exists_bind_iff]
  simp only [Solution.text_eq_ok_iff, hlabel, Option.some.injEq, exists_bind_iff, hunit]
  constructor
  · rintro ⟨-, ⟨l, hl, -⟩, -⟩
    exact ⟨l, hl⟩
  · rintro ⟨l, rfl⟩
    exact ⟨l.text, ⟨l, rfl, rfl⟩, unit, rfl, _, rfl⟩

/-- The units can be read if all that labels them is literals. -/
theorem exists_unitRows_iff : (∃ rows, d.unitRows = .ok rows) ↔
    ∀ unit, d.Says (.iri unit) Vocabulary.type (.iri Vocabulary.unit) →
      ∀ t, d.Says (.iri unit) Vocabulary.label t → ∃ l, t = .literal l := by
  rw [unitRows, exists_map_iff, exists_decodeAll_iff]
  constructor
  · intro hall unit hunit label hlabel
    obtain ⟨symbol, hsymbol⟩ := exists_picks (d.defaultObjects (.iri unit) Vocabulary.symbol)
    obtain ⟨expression, hexpression⟩ :=
      exists_picks (d.defaultObjects (.iri unit) Vocabulary.expression)
    obtain ⟨description, hdescription⟩ :=
      exists_picks (d.defaultObjects (.iri unit) Vocabulary.description)
    exact exists_decode_unitAnswer_iff.1 (hall _ (mem_unitAnswers_iff.2 ⟨unit, hunit, label, hlabel,
      symbol, hsymbol, expression, hexpression, description, hdescription, rfl⟩))
  · intro hall s hs
    obtain ⟨unit, hunit, label, hlabel, symbol, -, expression, -, description, -, rfl⟩ :=
      mem_unitAnswers_iff.1 hs
    exact exists_decode_unitAnswer_iff.2 (hall unit hunit label hlabel)

end Rdf.Dataset

namespace Schema

/-- The IRI of the class of entity properties, if it is one. -/
def propertyClassIri (s : Settings) : Iri := inNamespace s.ns s.entityPropertyClass

/-- All that has to hold of an ontology and of settings for a schema to be built with an engine for
patterns. -/
structure Buildable (d : Dataset) (s : Settings) (E : PatternEngine) : Prop where
  names : ∀ name ∈ s.entityPropertyClass :: s.baseClass :: s.roots,
    (Iri.parse? (s.ns ++ name)).isSome
  extraShapes : ∀ name ∈ s.extraShapes, (Iri.parse? (ShapeCatalog.extraText s.ns name)).isSome
  parents : s.hierarchy = .firstWins ∨
    ∀ h, Hierarchy.build d s.ns s.baseClass s.roots .firstWins = .ok h →
      ∀ e ∈ h.classes, e.otherParents = []
  labels : s.loadUnits = false ∨
    ∀ unit, d.Says (.iri unit) Vocabulary.type (.iri Vocabulary.unit) →
      ∀ t, d.Says (.iri unit) Vocabulary.label t → ∃ l, t = .literal l
  leastCounts : ∀ i, ShapeCatalog.Covers d (propertyClassIri s) s.ns s.extraShapes i →
    ShapeCatalog.Countable d i
  properties : ∀ c, c = Vocabulary.objectProperty ∨ c = propertyClassIri s →
    ∀ n : Node, d.Says n Vocabulary.type (.iri c) → ∃ p, n = .iri p
  shapes : ∀ i : Iri, .iri Shacl.nodeShape ∈ d.objects (.iri i) Vocabulary.type →
    ∀ m : Node, m.term ∈ d.objects (.iri i) Shacl.property →
      (∃ path, .iri path ∈ d.objects m Shacl.path) → Loadable d E m

theorem propertyClassOf_eq_ok_iff {c : Iri} : propertyClassOf settings = .ok c ↔
    (Iri.parse? (settings.ns ++ settings.entityPropertyClass)).isSome ∧
      c = propertyClassIri settings := by
  unfold propertyClassOf Settings.iriText
  cases hp : Iri.parse? (settings.ns ++ settings.entityPropertyClass) with
  | none => simp
  | some i =>
    have hi : i = propertyClassIri settings := congrArg Iri.mk (Iri.parse?_eq_some_iff.1 hp).1
    simp [hi, eq_comm]

theorem exists_unitsOf_iff : (∃ units, unitsOf d settings = .ok units) ↔
    settings.loadUnits = false ∨ ∃ rows, d.unitRows = .ok rows := by
  unfold unitsOf
  cases settings.loadUnits with
  | false => simp
  | true => simp [exists_mapError_iff, exists_map_iff]

/-- A schema can be built if all of its parts can, one after the other. -/
theorem exists_build_iff_parts : (∃ schema, build d settings E = .ok schema) ↔
    ∃ c, propertyClassOf settings = .ok c ∧
      ∃ h, Hierarchy.build d settings.ns settings.baseClass settings.roots settings.hierarchy =
        .ok h ∧
      (∃ units, unitsOf d settings = .ok units) ∧
      ∃ shapes, ShapeCatalog.build d c settings.ns settings.extraShapes = .ok shapes ∧
        (∃ rs, RelationRegistry.build d h shapes c = .ok rs) ∧
        ∃ v, ShapeValidator.ofDataset d E = .ok v := by
  constructor
  · rintro ⟨schema, hb⟩
    obtain ⟨c, v, hparts⟩ := parts_of_build hb
    exact ⟨c, hparts.class_eq, _, hparts.hierarchy, ⟨_, hparts.units⟩, _, hparts.shapes,
      ⟨_, hparts.relations⟩, v, hparts.loaded⟩
  · rintro ⟨c, hclass, h, hhierarchy, ⟨units, hunits⟩, shapes, hshapes, ⟨rs, hrs⟩, v, hv⟩
    have hparts : Parts d settings E ⟨settings, h, rs, shapes, units, v.graphValidator⟩ c v :=
      ⟨rfl, hclass, hhierarchy, hunits, hshapes, hrs, hv, rfl⟩
    exact ⟨_, hparts.build_eq_ok⟩

/-- A schema can be built if and only if nothing stands in its way. -/
theorem exists_build_iff_buildable (d : Dataset) (settings : Settings) (E : PatternEngine)
    (hone : ∀ s m : Node, m.term ∈ d.objects s Shacl.property →
      ∀ p ∈ loadedPredicates, d.AtMostOne m p) :
    (∃ schema, build d settings E = .ok schema) ↔ Buildable d settings E := by
  rw [exists_build_iff_parts]
  constructor
  · rintro ⟨c, hclass, h, hhierarchy, hunits, shapes, hshapes, hrelations, hvalidator⟩
    obtain ⟨hvalid, rfl⟩ := propertyClassOf_eq_ok_iff.1 hclass
    obtain ⟨hnames, hparents⟩ := Hierarchy.exists_build_iff.1 ⟨h, hhierarchy⟩
    obtain ⟨hextra, hcounts⟩ := ShapeCatalog.exists_build_iff.1 ⟨shapes, hshapes⟩
    constructor
    case names => exact List.forall_mem_cons.2 ⟨hvalid, hnames⟩
    case extraShapes => exact hextra
    case parents => exact hparents
    case labels => exact (exists_unitsOf_iff.1 hunits).imp id Dataset.exists_unitRows_iff.1
    case leastCounts => exact hcounts
    case properties => exact RelationRegistry.exists_build_iff.1 hrelations
    case shapes => exact (exists_ofDataset_iff hone).1 hvalidator
  · intro hb
    obtain ⟨hvalid, hnames⟩ := List.forall_mem_cons.1 hb.names
    obtain ⟨h, hhierarchy⟩ := Hierarchy.exists_build_iff.2 ⟨hnames, hb.parents⟩
    obtain ⟨shapes, hshapes⟩ := ShapeCatalog.exists_build_iff.2 ⟨hb.extraShapes, hb.leastCounts⟩
    exact ⟨_, propertyClassOf_eq_ok_iff.2 ⟨hvalid, rfl⟩, h, hhierarchy,
      exists_unitsOf_iff.2 (hb.labels.imp id Dataset.exists_unitRows_iff.2), shapes, hshapes,
      RelationRegistry.exists_build_iff.2 hb.properties, (exists_ofDataset_iff hone).2 hb.shapes⟩

/-- An ontology with a shape of scores, whose least count and pattern are given by texts. -/
def scoreOntology (least pattern : String) : Dataset :=
  .ofTriples [
    ⟨.iri ⟨"urn:s#Score"⟩, Vocabulary.type, .iri Shacl.nodeShape⟩,
    ⟨.iri ⟨"urn:s#Score"⟩, Shacl.property, .blank ⟨"p"⟩⟩,
    ⟨.blank ⟨"p"⟩, Shacl.path, .iri ⟨"urn:s#value"⟩⟩,
    ⟨.blank ⟨"p"⟩, Shacl.minCount, .literal (.typed least Xsd.integer)⟩,
    ⟨.blank ⟨"p"⟩, Shacl.pattern, .literal (.plain pattern)⟩]

/-- The settings under which the shape of scores is compiled. -/
def scoreSettings : Settings :=
  { Settings.standard with
    ns := "urn:s#", roots := [], extraShapes := ["Score"], loadUnits := false }

theorem eq_blank_of_mem_property {least pattern : String} {s m : Node}
    (hm : m.term ∈ (scoreOntology least pattern).objects s Shacl.property) : m = .blank ⟨"p"⟩ := by
  obtain ⟨g, hq⟩ := Dataset.mem_objects.1 hm
  obtain ⟨t, ht, heq⟩ := Dataset.mem_ofTriples_iff.1 hq
  have hpredicate : t.predicate = Shacl.property := (congrArg (·.predicate) heq).symm
  have hobject : m.term = t.object.normal := congrArg (·.object) heq
  simp only [List.mem_cons, List.not_mem_nil, or_false] at ht
  rcases ht with rfl | rfl | rfl | rfl | rfl
  · exact absurd hpredicate (show ¬ Vocabulary.type = Shacl.property by decide)
  · exact Node.term_injective hobject
  · exact absurd hpredicate (show ¬ Shacl.path = Shacl.property by decide)
  · exact absurd hpredicate (show ¬ Shacl.minCount = Shacl.property by decide)
  · exact absurd hpredicate (show ¬ Shacl.pattern = Shacl.property by decide)

theorem atMostOne_scoreOntology : ∀ least ∈ ["1", "-1"], ∀ pattern ∈ ["[0-9]+", "([0-9]+"],
    ∀ s m : Node, m.term ∈ (scoreOntology least pattern).objects s Shacl.property →
      ∀ p ∈ loadedPredicates, (scoreOntology least pattern).AtMostOne m p := by
  have hone : ∀ least ∈ ["1", "-1"], ∀ pattern ∈ ["[0-9]+", "([0-9]+"], ∀ p ∈ loadedPredicates,
      (scoreOntology least pattern).AtMostOne (.blank ⟨"p"⟩) p := by decide
  intro least hleast pattern hpattern s m hm
  rw [eq_blank_of_mem_property hm]
  exact hone least hleast pattern hpattern

theorem buildable_scoreOntology :
    Buildable (scoreOntology "1" "[0-9]+") scoreSettings .expressions := by
  have hliterals : ∀ p ∈ loadedPredicates,
      ∀ t ∈ (scoreOntology "1" "[0-9]+").objects (.blank ⟨"p"⟩) p, ∀ l ∈ t.literal?,
        p = Shacl.minCount ∧ l = .typed "1" Xsd.integer ∨
          p = Shacl.pattern ∧ l = .plain "[0-9]+" := by decide
  constructor
  case names => decide
  case extraShapes => decide
  case parents => exact .inl rfl
  case labels => exact .inl rfl
  case leastCounts =>
    rintro i - m hm - t ht
    obtain rfl := eq_blank_of_mem_property (Dataset.mem_objects.2 ⟨none, hm⟩)
    have hleast : ∀ t ∈ (scoreOntology "1" "[0-9]+").objects (.blank ⟨"p"⟩) Shacl.minCount,
        t = .literal (.typed "1" Xsd.integer) := by decide
    exact ⟨_, 1, hleast t (Dataset.mem_objects.2 ⟨none, ht⟩), by rfl⟩
  case properties =>
    have hnone : ∀ c ∈ [Vocabulary.objectProperty, propertyClassIri scoreSettings],
        (scoreOntology "1" "[0-9]+").defaultSubjects Vocabulary.type (.iri c) = [] := by decide
    intro c hc n hn
    rw [Dataset.Says, ← Dataset.mem_defaultSubjects, hnone c (by simpa using hc)] at hn
    cases hn
  case shapes =>
    rintro i - m hm -
    obtain rfl := eq_blank_of_mem_property hm
    constructor
    case counts =>
      intro p hp l hl
      obtain ⟨-, rfl⟩ | ⟨rfl, -⟩ := hliterals p (by simp [loadedPredicates, hp]) _ hl l rfl
      · exact ⟨1, by rfl⟩
      · exact absurd hp (by decide)
    case bounds =>
      intro p hp l hl
      obtain ⟨rfl, -⟩ | ⟨rfl, -⟩ := hliterals p (by simp [loadedPredicates, hp]) _ hl l rfl
      · exact absurd hp (by decide)
      · exact absurd hp (by decide)
    case pattern =>
      intro l hl
      obtain ⟨hp, -⟩ | ⟨-, rfl⟩ := hliterals _ (by simp [loadedPredicates]) _ hl l rfl
      · exact absurd hp (by decide)
      · decide +kernel

/-- There is a schema if scores have at least one value and a pattern. A least count of minus one
can be compiled but not loaded, and a pattern with an open group is none: with either there is no
schema. -/
theorem exists_build_score :
    (∃ schema, build (scoreOntology "1" "[0-9]+") scoreSettings .expressions = .ok schema) ∧
      (¬ ∃ schema, build (scoreOntology "-1" "[0-9]+") scoreSettings .expressions = .ok schema) ∧
      ¬ ∃ schema, build (scoreOntology "1" "([0-9]+") scoreSettings .expressions = .ok schema := by
  have hone := atMostOne_scoreOntology "1" (by simp) "[0-9]+" (by simp)
  have hminus := atMostOne_scoreOntology "-1" (by simp) "[0-9]+" (by simp)
  have hopen := atMostOne_scoreOntology "1" (by simp) "([0-9]+" (by simp)
  refine ⟨(exists_build_iff_buildable _ _ _ hone).2 buildable_scoreOntology, ?_, ?_⟩
  · rw [exists_build_iff_buildable _ _ _ hminus]
    intro hb
    have hl := hb.shapes ⟨"urn:s#Score"⟩ (by decide +kernel) (.blank ⟨"p"⟩) (by decide +kernel)
      ⟨⟨"urn:s#value"⟩, by decide +kernel⟩
    obtain ⟨k, hk⟩ := hl.counts Shacl.minCount (by simp [countPredicates])
      (.typed "-1" Xsd.integer) (by decide +kernel)
    cases hk
  · rw [exists_build_iff_buildable _ _ _ hopen]
    intro hb
    have hl := hb.shapes ⟨"urn:s#Score"⟩ (by decide +kernel) (.blank ⟨"p"⟩) (by decide +kernel)
      ⟨⟨"urn:s#value"⟩, by decide +kernel⟩
    exact absurd (hl.pattern (.plain "([0-9]+") (by decide +kernel)) (by decide +kernel)

end Schema

end BuildingModel
