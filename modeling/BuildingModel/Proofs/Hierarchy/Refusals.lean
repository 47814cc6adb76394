import BuildingModel.Proofs.Hierarchy.Policies

/-!
# Refused classes

The strict policy refuses a class for its parents and names them. A class below the base class is
refused for two different parents, its primary one and a further one. The base class has no primary
parent, so that the first class it is declared below is enough to refuse it, and no other is named.
-/
namespace BuildingModel.Hierarchy

open BuildingModel.Rdf BuildingModel.Ontology

variable {d : Dataset} {base i : Iri} {roots : List Iri} {h : Hierarchy} {c p : ClassId}
  {ns baseName : String} {rootNames names : List String}

/-! ## Parents of a faithful hierarchy -/

theorem Faithful.not_own_parent (hf : Faithful d base roots h) : c ∉ h.parentsOf c := by
  intro hc
  obtain ⟨i, hi⟩ := exists_iriAt?_of_mem_parentsOf hc
  obtain ⟨e, he, -⟩ := iriAt?_eq_some_iff.1 hi
  obtain ⟨-, hother, -⟩ := hf.other_parents he
  rw [parentsOf_of_classAt? he, ClassEntry.parents, List.mem_append, Option.mem_toList] at hc
  have hprimary : h.parentOf? c = some c := by
    rw [parentOf?, he]
    exact hc.resolve_right hother
  by_cases hbase : c = Hierarchy.base
  · rw [hbase, hf.parent_of_base] at hprimary
    cases hprimary
  · obtain ⟨p, hp, hlt⟩ := hf.exists_parent hi hbase
    rw [hprimary] at hp
    cases hp
    exact lt_irrefl _ hlt

theorem Faithful.justified (hf : Faithful d base roots h) (hp : p ∈ h.parentsOf c) :
    Justified d base roots h c p := by
  obtain ⟨i, hi⟩ := exists_iriAt?_of_mem_parentsOf hp
  by_cases hbase : p = Hierarchy.base
  · subst hbase
    obtain ⟨hroot, hne⟩ := (hf.base_parent_iff hi).1 hp
    exact .inl ⟨rfl, i, hroot, hi, hne⟩
  · obtain ⟨j, hj⟩ := hf.parents_registered hp
    have hne : c ≠ p := by
      rintro rfl
      exact hf.not_own_parent hp
    exact .inr ⟨hbase, i, j, hi, hj, (hf.parent_iff hi hj hne hbase).1 hp⟩

theorem Faithful.eq_base_iff (hf : Faithful d base roots h) (hc : h.iriAt? c = some i) :
    i = base ↔ c = Hierarchy.base := by
  constructor
  · rintro rfl
    exact (unique_of_nodup hf.iris_nodup).eq hc hf.base_iri
  · rintro rfl
    rw [hf.base_iri] at hc
    exact (Option.some.inj hc).symm

/-! ## What is refused -/

theorem namespaced_ne_multipleParents {name : String} :
    namespaced ns name ≠ .error (.multipleParents i names) := by
  intro hn
  rw [namespaced] at hn
  cases hparse : Iri.parse? (ns ++ name) with
  | none =>
    rw [hparse] at hn
    cases hn
  | some iri =>
    rw [hparse] at hn
    cases hn

theorem addRoots_ne_multipleParents :
    addRoots ns h rootNames ≠ .error (.multipleParents i names) := by
  induction rootNames generalizing h with
  | nil =>
    intro hadd
    cases hadd
  | cons root rootNames ih =>
    intro hadd
    rw [addRoots] at hadd
    cases hn : namespaced ns root with
    | error e =>
      rw [hn] at hadd
      cases hadd
      exact namespaced_ne_multipleParents hn
    | ok iri =>
      rw [hn] at hadd
      exact ih hadd

theorem withRoots_ne_multipleParents :
    withRoots ns baseName rootNames ≠ .error (.multipleParents i names) := by
  intro hw
  rw [withRoots] at hw
  cases hn : namespaced ns baseName with
  | error e =>
    rw [hn] at hw
    cases hw
    exact namespaced_ne_multipleParents hn
  | ok iri =>
    rw [hn] at hw
    exact addRoots_ne_multipleParents hw

/-- If a class is refused, the names make IRIs. -/
theorem isSome_parse?_of_refused
    (hb : build d ns baseName rootNames .strict = .error (.multipleParents i names)) :
    ∀ name ∈ baseName :: rootNames, (Iri.parse? (ns ++ name)).isSome := by
  cases hw : withRoots ns baseName rootNames with
  | error e =>
    rw [build, hw] at hb
    cases hb
    exact absurd hw withRoots_ne_multipleParents
  | ok h₀ =>
    obtain ⟨j, hj, ha⟩ := bind_eq_ok hw
    intro name hname
    rcases List.mem_cons.1 hname with rfl | hname
    · exact (namespaced_eq_ok_iff.1 hj).1
    · exact isSome_parse?_of_addRoots ha name hname

/-- A class is refused for a further parent, which is the last that is named. A class below the base
class has a primary parent as well, which is another one and is named first. Both are parents by a
declaration, or because the class is a root and the parent the base class. The base class is refused
for a single declared parent, and this is all that is named. -/
theorem refused_for_parents
    (hb : build d ns baseName rootNames .strict = .error (.multipleParents i names)) :
    ∃ h c p, build d ns baseName rootNames .firstWins = .ok h ∧ h.iriAt? c = some i ∧
      Justified d (inNamespace ns baseName) (rootNames.map (inNamespace ns)) h c p ∧
      (i ≠ inNamespace ns baseName → ∃ q, q ≠ p ∧
        Justified d (inNamespace ns baseName) (rootNames.map (inNamespace ns)) h c q ∧
        names = [h.nameOf q, h.nameOf p]) ∧
      (i = inNamespace ns baseName →
        (∃ j, h.iriAt? p = some j ∧ d.DeclaredBelow i j) ∧ names = [h.nameOf p]) := by
  obtain ⟨h₀, h, log, hw, hfirst, ht, hother, hok, hrefused⟩ :=
    exists_build_traversal d (isSome_parse?_of_refused hb)
  have hf := faithful_of_build hfirst
  cases hlog : log with
  | nil =>
    rw [hok hlog] at hb
    cases hb
  | cons entry rest =>
    obtain ⟨c, p⟩ := entry
    obtain ⟨e, he, hend⟩ := hrefused c p rest hlog
    rw [hend] at hb
    cases hb
    have hfurther : p ∈ e.otherParents := by
      rw [hother c e he, hlog, List.filterMap_cons, furtherParent?, if_pos rfl]
      exact List.mem_cons_self
    have hi := iriAt?_of_classAt? he
    have hp : p ∈ h.parentsOf c := by
      rw [parentsOf_of_classAt? he]
      exact List.mem_append_right _ hfurther
    refine ⟨h, c, p, hfirst, hi, hf.justified hp, fun hne => ?_, fun hbase => ?_⟩
    · obtain ⟨q, hq, -⟩ := hf.exists_parent hi fun hc => hne ((hf.eq_base_iff hi).2 hc)
      rw [parentOf?, he] at hq
      have hprimary : e.parent = some q := hq
      refine ⟨q, ?_, hf.justified ?_, ?_⟩
      · rintro rfl
        exact (hf.other_parents he).2.2 q hprimary hfurther
      · rw [parentsOf_of_classAt? he, ClassEntry.parents, hprimary]
        exact List.mem_cons_self
      · rw [hprimary]
        rfl
    · have hc := (hf.eq_base_iff hi).1 hbase
      have hprimary : e.parent = none := by
        rw [← hf.parent_of_base, ← hc, parentOf?, he]
        rfl
      refine ⟨?_, ?_⟩
      · rcases hf.justified hp with ⟨rfl, j, -, hj, hne⟩ | ⟨-, i', j, hi', hj, hd⟩
        · rw [hi] at hj
          cases hj
          exact absurd hbase hne
        · rw [hi] at hi'
          cases hi'
          exact ⟨j, hj, hd⟩
      · rw [hprimary]
        rfl

/-- An ontology in which assets are equipment. -/
def assetOntology : Dataset :=
  .ofTriples [⟨.iri ⟨"urn:plant#Asset"⟩, Vocabulary.subClassOf, .iri ⟨"urn:plant#Equipment"⟩⟩]

/-- The base class, and equipment and assets as its roots. -/
def assetRoots : Hierarchy := .ofClasses [
  ⟨⟨"urn:plant#Entity"⟩, some "Entity", none, none, []⟩,
  ⟨⟨"urn:plant#Equipment"⟩, some "Equipment", none, some ⟨0⟩, []⟩,
  ⟨⟨"urn:plant#Asset"⟩, some "Asset", none, some ⟨0⟩, []⟩]

/-- The root below another root is refused for the base class and for that other root. -/
theorem asset_refused_for_parents : ∃ h c p q,
    build assetOntology "urn:plant#" "Entity" ["Equipment", "Asset"] .firstWins = .ok h ∧
      h.iriAt? c = some ⟨"urn:plant#Asset"⟩ ∧ q ≠ p ∧
      h.nameOf q = "Entity" ∧ h.nameOf p = "Equipment" := by
  have hroots : withRoots "urn:plant#" "Entity" ["Equipment", "Asset"] = .ok assetRoots := by decide
  have hpending : pendingRoots assetOntology assetRoots =
      [(⟨1⟩, ⟨⟨"urn:plant#Asset"⟩, none, none⟩)] := by
    decide +kernel
  have hrefused : build assetOntology "urn:plant#" "Entity" ["Equipment", "Asset"] .strict =
      .error (.multipleParents ⟨"urn:plant#Asset"⟩ ["Entity", "Equipment"]) :=
    build_eq_of_grow hroots hpending fun _ =>
      grow_of_refused (show _ = some ⟨2⟩ by decide) (by decide +kernel)
  obtain ⟨h, c, p, hfirst, hi, -, hbelow, -⟩ := refused_for_parents hrefused
  obtain ⟨q, hne, -, hnames⟩ := hbelow (by decide +kernel)
  obtain ⟨hq, hnames⟩ := List.cons.inj hnames
  exact ⟨h, c, p, q, hfirst, hi, hne, hq.symm, (List.cons.inj hnames).1.symm⟩

/-- An ontology in which the base class itself is declared to be equipment. -/
def entityOntology : Dataset :=
  .ofTriples [⟨.iri ⟨"urn:plant#Entity"⟩, Vocabulary.subClassOf, .iri ⟨"urn:plant#Equipment"⟩⟩]

/-- The base class is refused although it has one parent only, and one is named. -/
theorem base_class_refused_for_one_parent :
    build entityOntology "urn:plant#" "Entity" ["Equipment"] .strict =
        .error (.multipleParents ⟨"urn:plant#Entity"⟩ ["Equipment"]) ∧
      (⟨"urn:plant#Entity"⟩ : Iri) ∉ ["Equipment"].map (inNamespace "urn:plant#") ∧
      ∀ i, entityOntology.DeclaredBelow ⟨"urn:plant#Entity"⟩ i ↔ i = ⟨"urn:plant#Equipment"⟩ := by
  have hroots : withRoots "urn:plant#" "Entity" ["Equipment"] =
      .ok (.ofClasses (assetRoots.classes.take 2)) := by decide
  have hpending : pendingRoots entityOntology (.ofClasses (assetRoots.classes.take 2)) =
      [(⟨1⟩, ⟨⟨"urn:plant#Entity"⟩, none, none⟩)] := by
    decide +kernel
  refine ⟨build_eq_of_grow hroots hpending fun _ =>
    grow_of_refused (show _ = some ⟨0⟩ by decide) (by decide +kernel), by decide +kernel, ?_⟩
  intro i
  simp [Dataset.DeclaredBelow, entityOntology, Dataset.ofTriples, Triple.inDefault, Quad.normal]

end BuildingModel.Hierarchy
