import BuildingModel.Hierarchy.Distance
import BuildingModel.Proofs.Hierarchy.Faithful

/-!
# Primary chains

The primary parent of a class has been registered before it, and only the base class has none. So
the way up along primary parents goes to ever smaller places and ends in the base class, whatever
cycles there are among the declarations: the guard that would end it at a class passed before never
does. Each class is found under its IRI, and the first of the classes with a name under this name.
-/
namespace BuildingModel.Hierarchy

open BuildingModel.Rdf

variable {d : Dataset} {base i : Iri} {roots : List Iri} {policy : HierarchyPolicy} {h : Hierarchy}
  {c p : ClassId} {cs cs' : List ClassId} {ns baseName name : String} {rootNames : List String}

/-! ## The way up -/

/-- The classes from one on along primary parents, up to a class that has none. -/
inductive PrimaryChain (h : Hierarchy) : ClassId → List ClassId → Prop
  | top {c : ClassId} (hc : h.parentOf? c = none) : PrimaryChain h c [c]
  | step {c p : ClassId} {cs : List ClassId} (hc : h.parentOf? c = some p)
      (hcs : PrimaryChain h p cs) : PrimaryChain h c (c :: cs)

/-- Primary parents stand before their subclasses. -/
def ParentsFirst (h : Hierarchy) : Prop :=
  ∀ ⦃c p : ClassId⦄, h.parentOf? c = some p → p.index < c.index

/-- A bounded way up is not cut short if the bound is no less than the place at which it starts, and
all that was passed before stands no earlier. -/
theorem primaryChain_chainAbove (hf : h.ParentsFirst) {steps : ℕ} {passed : List ClassId}
    (hsteps : c.index ≤ steps) (hpassed : ∀ q ∈ passed, c.index ≤ q.index) :
    h.PrimaryChain c (c :: h.chainAbove steps passed c) := by
  induction steps generalizing passed c with
  | zero =>
    cases hc : h.parentOf? c with
    | none => exact .top hc
    | some p =>
      have hlt := hf hc
      omega
  | succ steps ih =>
    cases hc : h.parentOf? c with
    | none =>
      simp only [chainAbove, hc]
      exact .top hc
    | some p =>
      have hlt := hf hc
      have hnew : p ∉ passed := by
        intro hp
        have hle := hpassed p hp
        omega
      have hlater : ∀ q ∈ p :: passed, p.index ≤ q.index := by
        intro q hq
        rcases List.mem_cons.1 hq with rfl | hq
        · exact le_rfl
        · have hle := hpassed q hq
          omega
      simp only [chainAbove, hc, if_neg hnew]
      exact .step hc (ih (by omega) hlater)

theorem primaryChain_ancestors (hf : h.ParentsFirst) (hc : c.index < h.size) :
    h.PrimaryChain c (h.ancestors c) :=
  primaryChain_chainAbove hf hc.le (by simp)

namespace PrimaryChain

theorem head?_eq (hcs : h.PrimaryChain c cs) : cs.head? = some c := by
  cases hcs <;> rfl

/-- Each class on the way is followed by its primary parent. -/
theorem isChain (hcs : h.PrimaryChain c cs) :
    cs.IsChain fun a b => h.parentOf? a = some b := by
  induction hcs with
  | top hc => exact .singleton _
  | @step c p cs hc hcs ih =>
    rw [List.isChain_cons]
    refine ⟨?_, ih⟩
    intro b hb
    rw [hcs.head?_eq] at hb
    cases hb
    exact hc

theorem index_le (hf : h.ParentsFirst) (hcs : h.PrimaryChain c cs) :
    ∀ a ∈ cs, a.index ≤ c.index := by
  induction hcs with
  | top hc => simp
  | @step c p cs hc hcs ih =>
    have hlt := hf hc
    intro a ha
    rcases List.mem_cons.1 ha with rfl | ha
    · exact le_rfl
    · have hle := ih a ha
      omega

/-- Places get smaller on the way up. -/
theorem pairwise_index (hf : h.ParentsFirst) (hcs : h.PrimaryChain c cs) :
    cs.Pairwise fun a b => b.index < a.index := by
  induction hcs with
  | top hc => exact List.pairwise_singleton _ _
  | @step c p cs hc hcs ih =>
    have hlt := hf hc
    refine List.pairwise_cons.2 ⟨?_, ih⟩
    intro a ha
    have hle := hcs.index_le hf a ha
    omega

/-- The way goes on from each of its classes that has a primary parent. -/
theorem parent_mem (hcs : h.PrimaryChain c cs) :
    ∀ a ∈ cs, ∀ p, h.parentOf? a = some p → p ∈ cs := by
  induction hcs with
  | top hc => simp [hc]
  | @step c q cs hc hcs ih =>
    intro a ha p hp
    rcases List.mem_cons.1 ha with rfl | ha
    · rw [hc] at hp
      cases hp
      exact List.mem_cons_of_mem _ (List.mem_of_mem_head? hcs.head?_eq)
    · exact List.mem_cons_of_mem _ (ih a ha p hp)

/-- There is one way up only. -/
theorem unique (hcs : h.PrimaryChain c cs) (hcs' : h.PrimaryChain c cs') : cs = cs' := by
  induction hcs generalizing cs' with
  | top hc =>
    cases hcs' with
    | top _ => rfl
    | step hp _ => simp [hc] at hp
  | step hc _ ih =>
    cases hcs' with
    | top hnone => simp [hc] at hnone
    | step hp hcs' =>
      rw [hc] at hp
      cases hp
      rw [ih hcs']

end PrimaryChain

/-! ## Hierarchies that were built -/

namespace Faithful

theorem parentsFirst (hf : Faithful d base roots h) : h.ParentsFirst := by
  intro c p hp
  obtain ⟨e, he, -⟩ := Option.bind_eq_some_iff.1 hp
  have hne : c ≠ Hierarchy.base := by
    intro hbase
    rw [hbase, hf.parent_of_base] at hp
    cases hp
  obtain ⟨q, hq, hlt⟩ := hf.exists_parent (iriAt?_of_classAt? he) hne
  rw [hp] at hq
  cases hq
  exact hlt

/-- The way up from a registered class ends in the base class. -/
theorem getLast?_primaryChain (hf : Faithful d base roots h) (hc : ∃ i, h.iriAt? c = some i)
    (hcs : h.PrimaryChain c cs) : cs.getLast? = some Hierarchy.base := by
  induction hcs with
  | @top c hnone =>
    obtain ⟨i, hi⟩ := hc
    by_cases hbase : c = Hierarchy.base
    · rw [hbase]
      rfl
    · obtain ⟨p, hp, -⟩ := hf.exists_parent hi hbase
      simp [hnone] at hp
  | @step c p cs hp hcs ih =>
    have hparent : p ∈ h.parentsOf c := by
      obtain ⟨e, he, hprimary⟩ := Option.bind_eq_some_iff.1 hp
      rw [parentsOf_of_classAt? he, ClassEntry.parents, hprimary]
      exact List.mem_cons_self
    rw [List.getLast?_cons, ih (hf.parents_registered hparent)]
    rfl

end Faithful

/-- In every hierarchy that is built the ancestors of a class are the whole way up from it along
primary parents: it starts with the class, goes on from each class that has a primary parent, to
ever smaller places and so without repeats, and ends in the base class. The class found under an IRI
is the one that is registered with it, and the class found under a name is the first one that has
it. -/
theorem primary_chains_reach_base (hb : build d ns baseName rootNames policy = .ok h) :
    (∀ c ∈ h.ids, (∀ cs, h.PrimaryChain c cs ↔ cs = h.ancestors c) ∧
      (h.ancestors c).head? = some c ∧
      ((h.ancestors c).IsChain fun a b => h.parentOf? a = some b) ∧
      (∀ a ∈ h.ancestors c, ∀ p, h.parentOf? a = some p → p ∈ h.ancestors c) ∧
      ((h.ancestors c).Pairwise fun a b => b.index < a.index) ∧ (h.ancestors c).Nodup ∧
      (h.ancestors c).getLast? = some Hierarchy.base) ∧
    (∀ i c, h.byIri i = some c ↔ h.iriAt? c = some i) ∧
    (∀ name c, h.byName name = some c ↔
      h.HasName name c ∧ ∀ c', h.HasName name c' → c.index ≤ c'.index) ∧
    ∀ name, h.byName name = none ↔ ∀ c, ¬ h.HasName name c := by
  have hf := faithful_of_build hb
  have hfirst := hf.parentsFirst
  refine ⟨?_, fun _ _ => (unique_of_nodup hf.iris_nodup).byIri_eq_some_iff,
    fun _ _ => byName_eq_some_iff, fun _ => byName_eq_none_iff⟩
  intro c hc
  have hlt := h.mem_ids.1 hc
  have hregistered : ∃ i, h.iriAt? c = some i :=
    ⟨_, iriAt?_of_classAt? (List.getElem?_eq_getElem hlt)⟩
  have hchain := primaryChain_ancestors hfirst hlt
  have hsmaller := hchain.pairwise_index hfirst
  have hnodup : (h.ancestors c).Nodup := by
    refine hsmaller.imp ?_
    intro a b hab heq
    rw [heq] at hab
    omega
  refine ⟨fun cs => ⟨fun hcs => hcs.unique hchain, ?_⟩, hchain.head?_eq, hchain.isChain,
    hchain.parent_mem, hsmaller, hnodup, hf.getLast?_primaryChain hregistered hchain⟩
  intro hcs
  rw [hcs]
  exact hchain

/-- An ontology in which assets are equipment, pumps of one namespace are assets, and those and the
pumps of another namespace are below each other. -/
def collidingOntology : Dataset :=
  .ofTriples [
    ⟨.iri ⟨"urn:plant#Asset"⟩, Vocabulary.subClassOf, .iri ⟨"urn:plant#Equipment"⟩⟩,
    ⟨.iri ⟨"urn:other#Pump"⟩, Vocabulary.subClassOf, .iri ⟨"urn:plant#Asset"⟩⟩,
    ⟨.iri ⟨"urn:plant#Pump"⟩, Vocabulary.subClassOf, .iri ⟨"urn:other#Pump"⟩⟩,
    ⟨.iri ⟨"urn:other#Pump"⟩, Vocabulary.subClassOf, .iri ⟨"urn:plant#Pump"⟩⟩]

/-- Its classes, with equipment and assets as roots. -/
def collidingHierarchy : Hierarchy := .ofClasses [
  ⟨⟨"urn:plant#Entity"⟩, some "Entity", none, none, []⟩,
  ⟨⟨"urn:plant#Equipment"⟩, some "Equipment", none, some ⟨0⟩, []⟩,
  ⟨⟨"urn:plant#Asset"⟩, some "Asset", none, some ⟨0⟩, [⟨1⟩]⟩,
  ⟨⟨"urn:other#Pump"⟩, none, none, some ⟨2⟩, [⟨4⟩]⟩,
  ⟨⟨"urn:plant#Pump"⟩, none, none, some ⟨3⟩, []⟩]

theorem build_collidingHierarchy : build collidingOntology "urn:plant#" "Entity"
    ["Equipment", "Asset"] .firstWins = .ok collidingHierarchy := by
  have hroots : withRoots "urn:plant#" "Entity" ["Equipment", "Asset"] = .ok (.ofClasses [
      ⟨⟨"urn:plant#Entity"⟩, some "Entity", none, none, []⟩,
      ⟨⟨"urn:plant#Equipment"⟩, some "Equipment", none, some ⟨0⟩, []⟩,
      ⟨⟨"urn:plant#Asset"⟩, some "Asset", none, some ⟨0⟩, []⟩]) := by decide
  refine build_eq_of_grow hroots (show _ = [(⟨1⟩, ⟨⟨"urn:plant#Asset"⟩, none, none⟩),
    (⟨2⟩, ⟨⟨"urn:other#Pump"⟩, none, none⟩)] by decide +kernel) fun _ => ?_
  refine grow_of_known (show _ = some ⟨2⟩ by decide) rfl fun _ => ?_
  refine grow_of_registered (by decide)
    (show _ = [(⟨3⟩, ⟨⟨"urn:plant#Pump"⟩, none, none⟩)] by decide +kernel) fun _ => ?_
  refine grow_of_registered (by decide)
    (show _ = [(⟨4⟩, ⟨⟨"urn:other#Pump"⟩, none, none⟩)] by decide +kernel) fun _ => ?_
  refine grow_of_known (show _ = some ⟨3⟩ by decide)
    (show _ = Except.ok collidingHierarchy by decide) fun _ => ?_
  rw [grow]

/-- The way up from one of the pumps passes the other one, which is found under their name. -/
theorem pump_chain_reaches_base :
    collidingHierarchy.PrimaryChain ⟨4⟩ [⟨4⟩, ⟨3⟩, ⟨2⟩, ⟨0⟩] ∧
      collidingHierarchy.byIri ⟨"urn:plant#Pump"⟩ = some ⟨4⟩ ∧
      collidingHierarchy.HasName "Pump" ⟨3⟩ ∧ collidingHierarchy.HasName "Pump" ⟨4⟩ ∧
      collidingHierarchy.byName "Pump" = some ⟨3⟩ := by
  obtain ⟨hup, hiri, hname, -⟩ := primary_chains_reach_base build_collidingHierarchy
  have hfound : collidingHierarchy.byName "Pump" = some ⟨3⟩ := by decide
  have hchain : [⟨4⟩, ⟨3⟩, ⟨2⟩, ⟨0⟩] = collidingHierarchy.ancestors ⟨4⟩ := by decide
  exact ⟨((hup ⟨4⟩ (by decide)).1 _).2 hchain, (hiri _ _).2 (by decide),
    ((hname _ _).1 hfound).1, ⟨⟨"urn:plant#Pump"⟩, by decide, by decide⟩, hfound⟩

end BuildingModel.Hierarchy
