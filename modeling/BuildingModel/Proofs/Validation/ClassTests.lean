import BuildingModel.Proofs.Graph.Contents
import BuildingModel.Proofs.Hierarchy.Superclasses
import BuildingModel.Proofs.Session.Fields
import BuildingModel.Proofs.Validation.Constraint

/-!
# The class tests of modeling and of validation

While a model is made, classes are compared in the hierarchy; when its graph is validated, they are
compared by the statements of the ontology. Both tests agree, so what has been accepted as an
instance of a class is one for the validator.
-/
namespace BuildingModel.Session

open BuildingModel.Rdf BuildingModel.Validation

variable {d : Dataset} {base j : Iri} {roots : List Iri} {schema : Schema} {s : Session schema}
  {ts : List Triple}

/-- A validator over an ontology accepts a term of a graph as an instance of a class, whatever has
been looked up before. -/
def ClassAccepted (o data : Dataset) (v : Term) (c : Iri) : Prop :=
  ∀ m : ClassMemo o, ((ValueConstraint.class c).satisfiedBy data v m).1 = true

theorem classAccepted_of_descends (hf : Hierarchy.Faithful d base roots schema.hierarchy)
    (hd : d.IsGraph) (ht : Hierarchy.OnTop d base schema.hierarchy) (hemits : s.Emits ts)
    {id : EntityId} {e : Entity} (he : s.IsEntity id e) {a : ClassId}
    (ha : schema.hierarchy.iriAt? a = some j) (hne : a ≠ Hierarchy.base)
    (hdesc : schema.hierarchy.Descends e.classId a) :
    ClassAccepted d (Emitted.ofList ts).store (.iri e.iri) j := by
  intro m
  obtain ⟨i, hi, htype⟩ := hemits.type_of_entity he
  have hbelow : Below d i j :=
    mem_superclasses_iff.1 ((hf.isSubclass_iff_mem_superclasses hd ht hi ha hne).1
      (Hierarchy.isSubclass_iff.2 hdesc))
  have htyped : Typed d (Emitted.ofList ts).store (.iri e.iri) (.iri i) :=
    .inl (Dataset.mem_objects.2 ⟨none, Emitted.mem_store_ofList.2 ⟨_, htype, rfl⟩⟩)
  exact ValueConstraint.satisfiedBy_iff.2 ⟨.iri e.iri, rfl, i, htyped, hbelow⟩

/-- If no other registered class is declared above the base class, then for all registered classes
the hierarchy and the validator agree on what is below a class other than the base class. An entity
that is admitted as a target or as the value of a reference is therefore accepted by the validator
as an instance of the class in question. -/
theorem classTests_agree {ns baseName : String} {rootNames : List String}
    {policy : HierarchyPolicy} {h : Hierarchy} (hd : d.IsGraph)
    (hb : Hierarchy.build d ns baseName rootNames policy = .ok h)
    (ht : Hierarchy.OnTop d (inNamespace ns baseName) h) :
    (∀ c a i j, h.iriAt? c = some i → h.iriAt? a = some j → a ≠ Hierarchy.base →
      (h.isSubclass c a = true ↔ j ∈ superclasses d i)) ∧
    ∀ (schema : Schema) (number : ℕ) (rs : List Request), schema.hierarchy = h →
      ∃ data, ((start schema number).run rs).graph = .ok data ∧
      (∀ bindings validator g,
        ((start schema number).run rs).compileWith bindings validator = .ok g → g.store = data) ∧
      ∀ id e, ((start schema number).run rs).IsEntity id e →
      (∀ v a j, ((start schema number).run rs).view (.entity id) = .ok v →
        v.admittedBy (.class a) = true → h.iriAt? a = some j → a ≠ Hierarchy.base →
        ClassAccepted d data (.iri e.iri) j) ∧
      ∀ classes : List Iri, inNamespace ns baseName ∉ classes →
        (∃ j ∈ classes, h.byIri j ≠ none) → admitsEntity schema classes e = true →
        ∃ j ∈ classes, ClassAccepted d data (.iri e.iri) j := by
  have hf := Hierarchy.faithful_of_build hb
  refine ⟨fun c a i j hi hj hne => hf.isSubclass_iff_mem_superclasses hd ht hi hj hne, ?_⟩
  rintro schema number rs rfl
  obtain ⟨ts, hemits, hgraph⟩ := exists_graph (wellFormed_run (wellFormed_start schema number) rs)
  refine ⟨(Emitted.ofList ts).store, hgraph, ?_, ?_⟩
  · intro bindings validator g hg
    rw [graph_of_compileWith hg] at hgraph
    exact Except.ok.inj hgraph
  · intro id e he
    constructor
    · intro v a j hv hadmits hj hne
      cases ((view_spec hv).2 _).1 hadmits with
      | entity he' hdesc =>
        rw [he.unique he']
        exact classAccepted_of_descends hf hd ht hemits he' hj hne hdesc
    · intro classes hbase ⟨j, hj, hknown⟩ hadmits
      obtain ⟨i, hi, a, ha, hdesc⟩ :=
        (admitsEntity_iff.1 hadmits).resolve_left fun hnone => hknown (hnone j hj)
      have hiri := Hierarchy.iriAt?_of_byIri ha
      refine ⟨i, hi, classAccepted_of_descends hf hd ht hemits he hiri ?_ hdesc⟩
      rintro rfl
      rw [hf.base_iri] at hiri
      cases hiri
      exact hbase hi

/-- The classes of pumps and movers, where pumps are below movers as well. -/
def moverHierarchy : Hierarchy := .ofClasses [
  ⟨⟨"urn:plant#Entity"⟩, some "Entity", none, none, []⟩,
  ⟨⟨"urn:plant#Equipment"⟩, some "Equipment", none, some ⟨0⟩, []⟩,
  ⟨⟨"urn:plant#Pump"⟩, none, none, some ⟨1⟩, [⟨3⟩]⟩,
  ⟨⟨"urn:plant#Mover"⟩, none, none, some ⟨2⟩, []⟩]

theorem build_moverHierarchy : Hierarchy.build Hierarchy.moverOntology "urn:plant#" "Entity"
    ["Equipment"] .firstWins = .ok moverHierarchy := by
  have hroots : Hierarchy.withRoots "urn:plant#" "Entity" ["Equipment"] =
      .ok (.ofClasses (moverHierarchy.classes.take 2)) := by decide
  have hpending : Hierarchy.pendingRoots Hierarchy.moverOntology
      (.ofClasses (moverHierarchy.classes.take 2)) =
      [(⟨1⟩, ⟨⟨"urn:plant#Pump"⟩, none, none⟩)] := by decide +kernel
  refine Hierarchy.build_eq_of_grow hroots hpending fun _ => ?_
  refine Hierarchy.grow_of_registered (by decide)
    (show _ = [(⟨2⟩, ⟨⟨"urn:plant#Mover"⟩, none, none⟩)] by decide +kernel) fun _ => ?_
  refine Hierarchy.grow_of_registered (by decide)
    (show _ = [(⟨3⟩, ⟨⟨"urn:plant#Pump"⟩, none, none⟩)] by decide +kernel) fun _ => ?_
  refine Hierarchy.grow_of_known (show _ = some ⟨2⟩ by decide)
    (show _ = Except.ok moverHierarchy by decide) fun _ => ?_
  rw [Hierarchy.grow]

def plant : Schema where
  settings := Settings.standard
  hierarchy := moverHierarchy
  relations := .ofRelations [⟨⟨"urn:plant#feeds"⟩, [⟨⟨0⟩, [.class ⟨1⟩]⟩]⟩]
  shapes := .empty
  units := .empty
  validator := ⟨fun _ => .ok ⟨[]⟩, none⟩

theorem mover_accepted_as_equipment :
    ⟨"urn:plant#Equipment"⟩ ∈ superclasses Hierarchy.moverOntology ⟨"urn:plant#Mover"⟩ ∧
    ∃ data, ((start plant 0).run [.create "Mover" "urn:m" none]).graph = .ok data ∧
      ClassAccepted Hierarchy.moverOntology data (.iri ⟨"urn:m"⟩) ⟨"urn:plant#Equipment"⟩ := by
  have htop : Hierarchy.OnTop Hierarchy.moverOntology (inNamespace "urn:plant#" "Entity")
      moverHierarchy := by
    intro i hi _ hbelow
    simp only [moverHierarchy, Hierarchy.classes_ofClasses, List.map_cons, List.map_nil,
      List.mem_cons, List.not_mem_nil, or_false] at hi
    unfold Dataset.DeclaredBelow at hbelow
    rcases hi with rfl | rfl | rfl | rfl <;> revert hbelow <;> decide +kernel
  obtain ⟨hagree, hsession⟩ :=
    classTests_agree (Dataset.isGraph_ofTriples _) build_moverHierarchy htop
  refine ⟨(hagree ⟨3⟩ ⟨1⟩ _ _ rfl rfl (by decide)).1 (by decide +kernel), ?_⟩
  obtain ⟨data, hdata, -, htests⟩ := hsession plant 0 [.create "Mover" "urn:m" none] rfl
  have hentity : ((start plant 0).run [.create "Mover" "urn:m" none]).IsEntity ⟨0, 0⟩
      ⟨⟨"urn:m"⟩, none, ⟨3⟩, []⟩ := by
    constructor
    · decide +kernel
    · decide +kernel
  obtain ⟨v, hv, hadmits⟩ := view_entity hentity
  refine ⟨data, hdata, (htests _ _ hentity).1 v ⟨1⟩ _ hv ((hadmits _).2 ?_) rfl (by decide)⟩
  exact .entity hentity (Hierarchy.isSubclass_iff.1 (by decide +kernel))

end BuildingModel.Session
