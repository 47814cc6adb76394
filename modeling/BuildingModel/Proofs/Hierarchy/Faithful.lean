import BuildingModel.Proofs.Hierarchy.Growth
import BuildingModel.Proofs.Rdf.Graph

/-!
# Faithful hierarchies

The hierarchy of an ontology has the base class, the configured roots and every class from which
declarations lead up to a root, each of them once. Apart from the base class its parents are just
the declared ones. This is so for every ontology, one with cycles included.
-/
namespace BuildingModel.Hierarchy

open BuildingModel.Rdf BuildingModel.Ontology

variable {d : Dataset} {base : Iri} {roots : List Iri} {policy : HierarchyPolicy}
  {h h' : Hierarchy} {ns baseName : String} {rootNames : List String}

/-- A hierarchy is the one of an ontology with a base class and roots. -/
structure Faithful (d : Dataset) (base : Iri) (roots : List Iri) (h : Hierarchy) : Prop where
  iris_nodup : (h.classes.map ClassEntry.iri).Nodup
  mem_iris_iff : ∀ i, i ∈ h.classes.map ClassEntry.iri ↔
    i = base ∨ ∃ r ∈ roots, r ≠ base ∧ LeadsUp d base i r
  base_iri : h.iriAt? Hierarchy.base = some base
  parent_iff : ∀ {c p i j}, h.iriAt? c = some i → h.iriAt? p = some j → c ≠ p →
    p ≠ Hierarchy.base → (p ∈ h.parentsOf c ↔ d.DeclaredBelow i j)
  base_parent_iff : ∀ {c i}, h.iriAt? c = some i →
    (Hierarchy.base ∈ h.parentsOf c ↔ i ∈ roots ∧ i ≠ base)
  parents_registered : ∀ {c p}, p ∈ h.parentsOf c → ∃ j, h.iriAt? p = some j
  parent_of_base : h.parentOf? Hierarchy.base = none
  exists_parent : ∀ {c i}, h.iriAt? c = some i → c ≠ Hierarchy.base →
    ∃ p, h.parentOf? c = some p ∧ p.index < c.index
  other_parents : ∀ {c e}, h.classAt? c = some e →
    e.otherParents.Nodup ∧ c ∉ e.otherParents ∧ ∀ p, e.parent = some p → p ∉ e.otherParents

/-! ## Roots -/

/-- A hierarchy of nothing but the base class and the roots below it. -/
structure Rooted (base : Iri) (roots : List Iri) (h : Hierarchy) : Prop where
  unique : h.Unique
  base_iri : h.iriAt? Hierarchy.base = some base
  base_parents : h.parentOf? Hierarchy.base = none ∧ h.parentsOf Hierarchy.base = []
  root : ∀ {c i}, h.iriAt? c = some i → c ≠ Hierarchy.base → i ∈ roots ∧
    h.parentOf? c = some Hierarchy.base ∧ h.parentsOf c = [Hierarchy.base]
  covered : ∀ r ∈ roots, ∃ c, h.iriAt? c = some r

theorem rooted_base (base : Iri) (label : Option String) :
    Rooted base [] (empty.register ⟨base, label, none, none, []⟩) := by
  have hat : ∀ {c i}, iriAt? (empty.register ⟨base, label, none, none, []⟩) c = some i →
      c = Hierarchy.base ∧ i = base := by
    intro c i hc
    have hindex := index_lt_of_iriAt? hc
    obtain ⟨n⟩ := c
    obtain rfl : n = 0 := Nat.lt_one_iff.1 hindex
    cases hc
    exact ⟨rfl, rfl⟩
  constructor
  · constructor
    intro c c' i hc hc'
    rw [(hat hc).1, (hat hc').1]
  · rfl
  · exact ⟨rfl, rfl⟩
  · intro c i hc hne
    exact absurd (hat hc).1 hne
  · simp

theorem Rooted.addRoot (hr : Rooted base roots h) (root : Iri) (label : String) :
    Rooted base (roots ++ [root]) (h.addRoot root label) := by
  unfold Hierarchy.addRoot
  by_cases hsome : (h.byIri root).isSome = true
  · obtain ⟨c, hc⟩ := Option.isSome_iff_exists.1 hsome
    rw [if_pos hsome]
    refine ⟨hr.unique, hr.base_iri, hr.base_parents, ?_, ?_⟩
    · intro x i hx hne
      obtain ⟨hi, hparents⟩ := hr.root hx hne
      exact ⟨List.mem_append_left _ hi, hparents⟩
    · intro r hmem
      rcases List.mem_append.1 hmem with hmem | hmem
      · exact hr.covered r hmem
      · rw [List.mem_singleton.1 hmem]
        exact ⟨c, iriAt?_of_byIri hc⟩
  · rw [if_neg hsome]
    have hnew : ∀ x, h.iriAt? x ≠ some root :=
      byIri_eq_none_iff.1 (Option.not_isSome_iff_eq_none.1 hsome)
    constructor
    · exact hr.unique.register hnew
    · exact iriAt?_register_of_some hr.base_iri
    · have hbase := ne_nextId_of_iriAt? hr.base_iri
      rw [parentOf?_register, parentsOf_register, if_neg hbase, if_neg hbase]
      exact hr.base_parents
    · intro x i hx hne
      rw [parentOf?_register, parentsOf_register]
      rcases iriAt?_register_eq_some_iff.1 hx with hx | ⟨rfl, rfl⟩
      · have hold := ne_nextId_of_iriAt? hx
        rw [if_neg hold, if_neg hold]
        obtain ⟨hi, hparents⟩ := hr.root hx hne
        exact ⟨List.mem_append_left _ hi, hparents⟩
      · rw [if_pos rfl, if_pos rfl]
        exact ⟨List.mem_append_right _ List.mem_cons_self, rfl, rfl⟩
    · intro r hmem
      rcases List.mem_append.1 hmem with hmem | hmem
      · obtain ⟨c, hc⟩ := hr.covered r hmem
        exact ⟨c, iriAt?_register_of_some hc⟩
      · rw [List.mem_singleton.1 hmem]
        exact ⟨h.nextId, iriAt?_register_eq_some_iff.2 (.inr ⟨rfl, rfl⟩)⟩

theorem namespaced_eq_ok_iff {name : String} {i : Iri} :
    namespaced ns name = .ok i ↔ (Iri.parse? (ns ++ name)).isSome ∧ i = inNamespace ns name := by
  unfold namespaced
  cases hp : Iri.parse? (ns ++ name) with
  | none => simp
  | some j =>
    have htext : j = inNamespace ns name := congrArg Iri.mk (Iri.parse?_eq_some_iff.1 hp).1
    simp [htext, eq_comm]

theorem Rooted.addRoots (hr : Rooted base roots h)
    (ha : addRoots ns h rootNames = .ok h') :
    Rooted base (roots ++ rootNames.map (inNamespace ns)) h' := by
  induction rootNames generalizing h roots with
  | nil =>
    cases ha
    simpa using hr
  | cons name rootNames ih =>
    obtain ⟨i, hi, ha⟩ := bind_eq_ok ha
    rw [(namespaced_eq_ok_iff.1 hi).2] at ha
    have hrest := ih (hr.addRoot (inNamespace ns name) name) ha
    rwa [List.append_assoc] at hrest

theorem rooted_of_withRoots (hw : withRoots ns baseName rootNames = .ok h) :
    Rooted (inNamespace ns baseName) (rootNames.map (inNamespace ns)) h := by
  obtain ⟨i, hi, ha⟩ := bind_eq_ok hw
  rw [(namespaced_eq_ok_iff.1 hi).2] at ha
  exact (rooted_base _ _).addRoots ha

/-- Roots are registered if each of the names makes an IRI. -/
theorem exists_withRoots (hbase : (Iri.parse? (ns ++ baseName)).isSome)
    (hroots : ∀ name ∈ rootNames, (Iri.parse? (ns ++ name)).isSome) :
    ∃ h, withRoots ns baseName rootNames = .ok h := by
  have hadd : ∀ h : Hierarchy, ∃ h', addRoots ns h rootNames = .ok h' := by
    induction rootNames with
    | nil => exact fun h => ⟨h, rfl⟩
    | cons name rootNames ih =>
      intro h
      have hname := namespaced_eq_ok_iff.2 ⟨hroots name List.mem_cons_self, rfl⟩
      obtain ⟨h', hh'⟩ := ih (fun n hn => hroots n (List.mem_cons_of_mem name hn))
        (h.addRoot (inNamespace ns name) name)
      exact ⟨h', by rw [addRoots, hname]; exact hh'⟩
  obtain ⟨h, hh⟩ := hadd (empty.register ⟨inNamespace ns baseName, some baseName, none, none, []⟩)
  exact ⟨h, by rw [withRoots, namespaced_eq_ok_iff.2 ⟨hbase, rfl⟩]; exact hh⟩

/-! ## From the roots on -/

theorem mem_pendingRoots_iff {p : ClassId} {row : SubclassRow} :
    (p, row) ∈ pendingRoots d h ↔
      p ≠ Hierarchy.base ∧ ∃ j, h.iriAt? p = some j ∧ row ∈ d.subclasses j := by
  obtain ⟨n⟩ := p
  simp only [pendingRoots, pendingBelow, List.mem_flatMap, List.mem_map, Prod.exists,
    Prod.mk.injEq, ClassId.mk.injEq, ne_base_iff, iriAt?_eq_some_iff]
  constructor
  · rintro ⟨e, m, hm, row', hrow, rfl, rfl⟩
    obtain ⟨k, hk⟩ := List.mem_iff_getElem?.1 hm
    rw [List.getElem?_drop, List.getElem?_zipIdx] at hk
    obtain ⟨e', he', heq⟩ := Option.map_eq_some_iff.1 hk
    cases heq
    refine ⟨by omega, e.iri, ⟨e, ?_, rfl⟩, hrow⟩
    rw [classAt?, ← he']
    simp
  · rintro ⟨hn, j, ⟨e, he, rfl⟩, hrow⟩
    refine ⟨e, n, ?_, row, hrow, rfl, rfl⟩
    have he' : h.classes[n]? = some e := he
    apply List.mem_iff_getElem?.2
    refine ⟨n - 1, ?_⟩
    have hsum : 1 + (n - 1) = n := by omega
    rw [List.getElem?_drop, List.getElem?_zipIdx, hsum, he']
    simp

theorem Rooted.growing (hr : Rooted base roots h) :
    Growing d base roots h (pendingRoots d h) := by
  have hne : ∀ {c i}, h.iriAt? c = some i → c ≠ Hierarchy.base → i ≠ base := by
    intro c i hc hbase heq
    subst heq
    exact hbase (hr.unique.eq hc hr.base_iri)
  have hparents : ∀ {c p}, p ∈ h.parentsOf c → p = Hierarchy.base ∧
      ∃ i ∈ roots, h.iriAt? c = some i ∧ i ≠ base := by
    intro c p hp
    obtain ⟨i, hc⟩ := exists_iriAt?_of_mem_parentsOf hp
    by_cases hbase : c = Hierarchy.base
    · subst hbase
      rw [hr.base_parents.2] at hp
      cases hp
    · obtain ⟨hi, -, hlist⟩ := hr.root hc hbase
      rw [hlist, List.mem_singleton] at hp
      exact ⟨hp, i, hi, hc, hne hc hbase⟩
  constructor
  case unique =>
    exact hr.unique
  case base_iri =>
    exact hr.base_iri
  case base_parent =>
    exact hr.base_parents.1
  case primary =>
    intro c i hc hbase
    obtain ⟨-, hparent, -⟩ := hr.root hc hbase
    exact ⟨Hierarchy.base, hparent, ne_base_iff.1 hbase⟩
  case parents_nodup =>
    intro c
    by_cases hnil : h.parentsOf c = []
    · rw [hnil]
      exact List.nodup_nil
    · obtain ⟨p, hp⟩ := List.exists_mem_of_ne_nil _ hnil
      obtain ⟨i, hc⟩ := exists_iriAt?_of_mem_parentsOf hp
      obtain ⟨-, i', -, hc', hi'⟩ := hparents hp
      have hbase : c ≠ Hierarchy.base := by
        rintro rfl
        rw [hr.base_iri] at hc'
        exact hi' (Option.some.inj hc').symm
      rw [(hr.root hc hbase).2.2]
      exact List.nodup_singleton _
  case not_own_parent =>
    intro c hself
    obtain ⟨rfl, i, -, hc, hi⟩ := hparents hself
    rw [hr.base_iri] at hc
    exact hi (Option.some.inj hc).symm
  case justified =>
    intro c p hp
    exact .inl (hparents hp)
  case rooted =>
    intro r hmem
    obtain ⟨c, hc⟩ := hr.covered r hmem
    refine ⟨c, hc, fun hrbase => ?_⟩
    have hbase : c ≠ Hierarchy.base := by
      rintro rfl
      rw [hr.base_iri] at hc
      exact hrbase (Option.some.inj hc).symm
    rw [(hr.root hc hbase).2.2]
    exact List.mem_cons_self
  case below_root =>
    intro c i hc
    by_cases hbase : c = Hierarchy.base
    · subst hbase
      rw [hr.base_iri] at hc
      exact .inl (Option.some.inj hc).symm
    · exact .inr ⟨i, (hr.root hc hbase).1, hne hc hbase, .refl⟩
  case waiting =>
    intro p row hx
    obtain ⟨hbase, j, hj, hrow⟩ := mem_pendingRoots_iff.1 hx
    exact ⟨hbase, j, hj, Dataset.exists_mem_subclasses_iff.1 ⟨row, hrow, rfl⟩⟩
  case followed =>
    intro p i j hp hbase hd
    obtain ⟨row, hrow, rfl⟩ := Dataset.exists_mem_subclasses_iff.2 hd
    exact .inr ⟨row, mem_pendingRoots_iff.2 ⟨hbase, j, hp, hrow⟩, rfl⟩

/-! ## The grown hierarchy -/

/-- Where nothing is pending, all that leads up to a registered class is registered. -/
theorem Growing.registered_of_leadsUp (hg : Growing d base roots h []) {i r : Iri}
    (hup : LeadsUp d base i r) (hr : ∃ c, h.iriAt? c = some r ∧ c ≠ Hierarchy.base) :
    ∃ c, h.iriAt? c = some i := by
  induction hup using Relation.ReflTransGen.head_induction_on with
  | refl =>
    obtain ⟨c, hc, -⟩ := hr
    exact ⟨c, hc⟩
  | @head a b hab _ ih =>
    obtain ⟨p, hp⟩ := ih
    have hbase : p ≠ Hierarchy.base := by
      rintro rfl
      rw [hg.base_iri] at hp
      exact hab.2 (Option.some.inj hp).symm
    rcases hg.followed hp hbase hab.1 with ⟨c, hc, -⟩ | ⟨row, hrow, -⟩
    · exact ⟨c, hc⟩
    · cases hrow

theorem Growing.faithful (hg : Growing d base roots h []) : Faithful d base roots h where
  iris_nodup := hg.unique.nodup
  mem_iris_iff i := by
    rw [mem_map_iri_iff]
    constructor
    · intro ⟨c, hc⟩
      exact hg.below_root hc
    · rintro (rfl | ⟨r, hr, hrbase, hup⟩)
      · exact ⟨_, hg.base_iri⟩
      · obtain ⟨c, hc, -⟩ := hg.rooted r hr
        refine hg.registered_of_leadsUp hup ⟨c, hc, ?_⟩
        rintro rfl
        rw [hg.base_iri] at hc
        exact hrbase (Option.some.inj hc).symm
  base_iri := hg.base_iri
  parent_iff {c p i j} hc hp hne hbase := by
    constructor
    · intro hparent
      obtain ⟨-, i', j', hi', hj', hd⟩ :=
        (hg.justified hparent).resolve_left fun hb => hbase hb.1
      rw [hc] at hi'
      rw [hp] at hj'
      cases hi'
      cases hj'
      exact hd
    · intro hd
      rcases hg.followed hp hbase hd with ⟨c', hc', hdone⟩ | ⟨row, hrow, -⟩
      · rw [hg.unique.eq hc hc'] at hne ⊢
        exact hdone.resolve_left hne
      · cases hrow
  base_parent_iff {c i} hc := by
    constructor
    · intro hparent
      obtain ⟨-, i', hi', hc', hne⟩ :=
        (hg.justified hparent).resolve_right fun hb => hb.1 rfl
      rw [hc] at hc'
      cases hc'
      exact ⟨hi', hne⟩
    · intro ⟨hi, hne⟩
      obtain ⟨c', hc', hparent⟩ := hg.rooted i hi
      rw [hg.unique.eq hc hc']
      exact hparent hne
  parents_registered {c p} hparent := by
    rcases hg.justified hparent with ⟨rfl, -⟩ | ⟨-, i, j, -, hj, -⟩
    · exact ⟨base, hg.base_iri⟩
    · exact ⟨j, hj⟩
  parent_of_base := hg.base_parent
  exists_parent hc hne := hg.primary hc hne
  other_parents {c e} he := by
    have hparents := parentsOf_of_classAt? he
    have hnodup := hg.parents_nodup c
    have hown := hg.not_own_parent c
    rw [hparents, ClassEntry.parents] at hnodup hown
    refine ⟨(List.nodup_append.1 hnodup).2.1, fun hc => hown (List.mem_append_right _ hc), ?_⟩
    intro p hp hother
    exact (List.nodup_append.1 hnodup).2.2 p (by simp [hp]) p hother rfl

/-- A hierarchy that is built under either policy is faithful. -/
theorem faithful_of_build (hb : build d ns baseName rootNames policy = .ok h) :
    Faithful d (inNamespace ns baseName) (rootNames.map (inNamespace ns)) h := by
  obtain ⟨h₀, hw, hg⟩ := bind_eq_ok hb
  exact (grow_induction Growing.step hg (rooted_of_withRoots hw).growing).faithful

/-- Names that make IRIs have a hierarchy under the policy that the first parent wins, and it is
the one that the ontology declares. -/
theorem build_firstWins (d : Dataset) (ns baseName : String) (rootNames : List String)
    (hvalid : ∀ name ∈ baseName :: rootNames, (Iri.parse? (ns ++ name)).isSome) :
    ∃ h, build d ns baseName rootNames .firstWins = .ok h ∧
      Faithful d (inNamespace ns baseName) (rootNames.map (inNamespace ns)) h := by
  obtain ⟨h₀, hw⟩ := exists_withRoots (hvalid baseName List.mem_cons_self)
    fun name hname => hvalid name (List.mem_cons_of_mem baseName hname)
  obtain ⟨h, hg⟩ := exists_grow_firstWins (declared_pendingRoots d h₀)
  have hb : build d ns baseName rootNames .firstWins = .ok h := by
    rw [build, hw]
    exact hg
  exact ⟨h, hb, faithful_of_build hb⟩

/-- An ontology in which pumps are equipment, and pumps and movers are below each other. -/
def moverOntology : Dataset :=
  .ofTriples [
    ⟨.iri ⟨"urn:plant#Pump"⟩, Vocabulary.subClassOf, .iri ⟨"urn:plant#Equipment"⟩⟩,
    ⟨.iri ⟨"urn:plant#Pump"⟩, Vocabulary.subClassOf, .iri ⟨"urn:plant#Mover"⟩⟩,
    ⟨.iri ⟨"urn:plant#Mover"⟩, Vocabulary.subClassOf, .iri ⟨"urn:plant#Pump"⟩⟩]

theorem build_moverOntology : ∃ h,
    build moverOntology "urn:plant#" "Entity" ["Equipment"] .firstWins = .ok h ∧
      ⟨"urn:plant#Mover"⟩ ∈ h.classes.map ClassEntry.iri := by
  obtain ⟨h, hb, hf⟩ := build_firstWins moverOntology "urn:plant#" "Entity" ["Equipment"]
    (by decide +kernel)
  refine ⟨h, hb, (hf.mem_iris_iff _).2 (.inr ⟨⟨"urn:plant#Equipment"⟩, ?_, ?_, ?_⟩)⟩
  · decide +kernel
  · decide +kernel
  · have hpump : moverOntology.DeclaredBelow ⟨"urn:plant#Mover"⟩ ⟨"urn:plant#Pump"⟩ := by
      unfold Dataset.DeclaredBelow
      decide +kernel
    have hequipment : moverOntology.DeclaredBelow ⟨"urn:plant#Pump"⟩ ⟨"urn:plant#Equipment"⟩ := by
      unfold Dataset.DeclaredBelow
      decide +kernel
    exact .head ⟨hpump, by decide +kernel⟩ (.single ⟨hequipment, by decide +kernel⟩)

end BuildingModel.Hierarchy
