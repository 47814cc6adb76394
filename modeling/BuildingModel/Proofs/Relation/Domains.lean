import BuildingModel.Proofs.Relation.Faithful
import Mathlib.Data.Set.Card

/-!
# One binding for each declared domain

A relation has a binding for each domain that is declared of its property. The domain is told apart
from others as it is declared, before the class is known that it stands for. So a class has one
binding at most, save the base class: a declaration without a domain stands for it, and one that
names it does so as well.
-/
namespace BuildingModel

open BuildingModel.Rdf BuildingModel.Ontology

variable {d : Dataset} {propertyClass p : Iri} {h : Hierarchy} {shapes : ShapeCatalog}
  {rs : RelationRegistry} {c : ClassId} {x y : Option Iri} {ds : List Declaration}

/-! ## Drafts -/

namespace RelationDraft

/-- The domains that a draft tells apart. -/
def declared (r : RelationDraft) : List (Option Iri) := r.domains.map DomainDraft.domain

theorem declared_declare (r : RelationDraft) (domain range : Option Iri) :
    (r.declare domain range).declared =
      if domain ∈ r.declared then r.declared else r.declared ++ [domain] := by
  have hknown : r.domains.any (·.domain = domain) = true ↔ domain ∈ r.declared := by
    simp [declared]
  unfold declare
  by_cases hmem : domain ∈ r.declared
  · rw [if_pos (hknown.2 hmem), if_pos hmem, declared, List.map_map, declared]
    refine List.map_congr_left fun s _ => ?_
    rw [Function.comp_apply]
    split
    · rfl
    · rfl
  · rw [if_neg (fun hany => hmem (hknown.1 hany)), if_neg hmem, declared, List.map_append]
    rfl

/-- A declaration keeps the domains distinct. -/
theorem nodup_declared_declare {r : RelationDraft} (hr : r.declared.Nodup)
    (domain range : Option Iri) : (r.declare domain range).declared.Nodup := by
  rw [declared_declare]
  split
  · exact hr
  · rename_i hmem
    rw [List.nodup_append_comm, List.singleton_append, List.nodup_cons]
    exact ⟨hmem, hr⟩

theorem nodup_declared_ofDeclarations (ds : List Declaration) (p : Iri) :
    (ofDeclarations h ds p).declared.Nodup := by
  induction ds using List.reverseRecOn with
  | nil => exact List.nodup_nil
  | append_singleton ds y ih =>
    rw [ofDeclarations_append_singleton, update]
    split_ifs
    · exact nodup_declared_declare ih _ _
    · exact ih
    · exact ih

theorem mem_declared_ofDeclarations_iff : x ∈ (ofDeclarations h ds p).declared ↔
    resolves h x = true ∧ ∃ y ∈ ds, y.property = p ∧ y.domain = x := by
  have hholds : x ∈ (ofDeclarations h ds p).declared ↔ (ofDeclarations h ds p).Holds x none := by
    simp [declared, Holds]
  rw [hholds, holds_ofDeclarations_iff]
  simp

/-- The relation of a property has as many bindings on a class as its declarations have domains that
stand for this class. -/
theorem count_domains_ofDeclarations (hu : h.Unique) (c : ClassId) :
    (relation h shapes (ofDeclarations h ds p)).domains.count c =
      {x | (∃ y ∈ ds, y.property = p ∧ y.domain = x) ∧ h.DomainOf x c}.ncard := by
  have hdomains : (relation h shapes (ofDeclarations h ds p)).domains =
      (ofDeclarations h ds p).declared.map fun x => (x.bind h.byIri).getD Hierarchy.base := by
    rw [relation, Relation.domains, declared, List.map_map, List.map_map]
    rfl
  have hstand : {x | (∃ y ∈ ds, y.property = p ∧ y.domain = x) ∧ h.DomainOf x c} =
      ↑((ofDeclarations h ds p).declared.filter
        fun x => (x.bind h.byIri).getD Hierarchy.base == c).toFinset := by
    ext x
    simp only [Set.mem_ofPred_eq, List.coe_toFinset, List.mem_filter,
      mem_declared_ofDeclarations_iff, Hierarchy.domainOf_iff hu, beq_iff_eq]
    tauto
  rw [hdomains, hstand, Set.ncard_coe_finset, List.toFinset_card_of_nodup
    ((nodup_declared_ofDeclarations ds p).filter _), List.count, List.countP_map,
    List.countP_eq_length_filter]
  rfl

end RelationDraft

/-! ## Classes and the domains that stand for them -/

/-- The domains that an ontology declares of a property; a declaration may be without one. -/
def Declaration.domainsOf (d : Dataset) (propertyClass p : Iri) : Set (Option Iri) :=
  {x | ∃ y, Declaration.DeclaredIn d propertyClass y ∧ y.property = p ∧ y.domain = x}

namespace Hierarchy

/-- A class is stood for by its IRI, and the base class by a missing domain as well. -/
theorem domainOf_iff_eq : h.DomainOf x c ↔
    (x = none ∧ c = base) ∨ ∃ i, h.iriAt? c = some i ∧ x = some i := by
  constructor
  · intro hx
    cases hx with
    | universal => exact .inl ⟨rfl, rfl⟩
    | registered hc => exact .inr ⟨_, hc, rfl⟩
  · rintro (⟨rfl, rfl⟩ | ⟨i, hc, rfl⟩)
    · exact .universal
    · exact .registered hc

theorem domainOf_subset_pair (h : Hierarchy) (c : ClassId) :
    {x | h.DomainOf x c} ⊆ {none, h.iriAt? c} := by
  intro x hx
  rcases domainOf_iff_eq.1 hx with ⟨rfl, -⟩ | ⟨i, hc, rfl⟩
  · exact .inl rfl
  · exact .inr hc.symm

theorem domainOf_subset_singleton (h : Hierarchy) (hc : c ≠ base) :
    {x | h.DomainOf x c} ⊆ {h.iriAt? c} := by
  intro x hx
  rcases domainOf_iff_eq.1 hx with ⟨-, hbase⟩ | ⟨i, hi, rfl⟩
  · exact absurd hbase hc
  · exact hi.symm

/-- Different domains that stand for the same class are a missing one and the IRI of the base
class. -/
theorem exists_domainOf_ne_iff {S : Set (Option Iri)} :
    (∃ c, ∃ x ∈ S, ∃ y ∈ S, h.DomainOf x c ∧ h.DomainOf y c ∧ x ≠ y) ↔
      none ∈ S ∧ ∃ i, h.iriAt? base = some i ∧ some i ∈ S := by
  constructor
  · rintro ⟨c, x, hx, y, hy, hxc, hyc, hne⟩
    rcases domainOf_iff_eq.1 hxc with ⟨rfl, rfl⟩ | ⟨i, hi, rfl⟩
    · rcases domainOf_iff_eq.1 hyc with ⟨rfl, -⟩ | ⟨i, hi, rfl⟩
      · exact absurd rfl hne
      · exact ⟨hx, i, hi, hy⟩
    · rcases domainOf_iff_eq.1 hyc with ⟨rfl, rfl⟩ | ⟨j, hj, rfl⟩
      · exact ⟨hy, i, hi, hx⟩
      · exact absurd (hi.symm.trans hj) hne
  · rintro ⟨hnone, i, hi, hmem⟩
    exact ⟨base, none, hnone, some i, hmem, .universal, .registered hi, by simp⟩

end Hierarchy

/-! ## The bindings of an ontology -/

namespace RelationRegistry

variable {r : Relation}

/-- A class is the domain of as many bindings of a relation as there are declared domains that stand
for it. -/
theorem count_domains (hu : h.Unique) (hb : build d h shapes propertyClass = .ok rs)
    (hr : r ∈ rs.relations) (c : ClassId) : r.domains.count c =
      {x ∈ Declaration.domainsOf d propertyClass r.iri | h.DomainOf x c}.ncard := by
  obtain ⟨ds, hds, rfl⟩ := map_eq_ok hb
  rw [relations_ofDeclarations] at hr
  obtain ⟨p, -, rfl⟩ := List.mem_map.1 hr
  rw [RelationDraft.count_domains_ofDeclarations hu, iri_relation_ofDeclarations]
  simp only [Declaration.mem_ofDataset_iff hds]
  rfl

/-- The domains of a relation are distinct unless its property is declared without a domain as well
as with the base class for its domain. -/
theorem nodup_domains_iff (hu : h.Unique) (hb : build d h shapes propertyClass = .ok rs)
    (hr : r ∈ rs.relations) : r.domains.Nodup ↔
      ¬ (none ∈ Declaration.domainsOf d propertyClass r.iri ∧ ∃ i,
        h.iriAt? Hierarchy.base = some i ∧
          some i ∈ Declaration.domainsOf d propertyClass r.iri) := by
  have hcount : ∀ c, r.domains.count c ≤ 1 ↔
      ∀ x ∈ Declaration.domainsOf d propertyClass r.iri, h.DomainOf x c →
        ∀ y ∈ Declaration.domainsOf d propertyClass r.iri, h.DomainOf y c → x = y := by
    intro c
    rw [count_domains hu hb hr, Set.ncard_le_one
      ((Set.toFinite {none, h.iriAt? c}).subset fun x hx => h.domainOf_subset_pair c hx.2)]
    simp only [Set.mem_ofPred_eq, and_imp]
  rw [List.nodup_iff_count_le_one, ← Hierarchy.exists_domainOf_ne_iff]
  constructor
  · rintro hle ⟨c, x, hx, y, hy, hxc, hyc, hne⟩
    exact hne ((hcount c).1 (hle c) x hx hxc y hy hyc)
  · intro hnone c
    rw [hcount c]
    intro x hx hxc y hy hyc
    by_contra hne
    exact hnone ⟨c, x, hx, y, hy, hxc, hyc, hne⟩

/-- A relation has one binding for each domain that is declared of its property. So it has one at
most on every class but the base class, and two on this one if the property is declared both without
a domain and with the base class for its domain. -/
theorem bound_once_per_declared_domain {ns baseName : String} {rootNames : List String}
    {policy : HierarchyPolicy} (hh : Hierarchy.build d ns baseName rootNames policy = .ok h)
    (hb : build d h shapes propertyClass = .ok rs) (hr : r ∈ rs.relations) :
    (∀ c, r.domains.count c =
      {x ∈ Declaration.domainsOf d propertyClass r.iri | h.DomainOf x c}.ncard) ∧
    (∀ c, c ≠ Hierarchy.base → r.domains.count c ≤ 1) ∧
    r.domains.count Hierarchy.base ≤ 2 ∧
    (r.domains.Nodup ↔ ¬ (none ∈ Declaration.domainsOf d propertyClass r.iri ∧ ∃ i,
      h.iriAt? Hierarchy.base = some i ∧
        some i ∈ Declaration.domainsOf d propertyClass r.iri)) := by
  have hu : h.Unique := (Hierarchy.faithful_of_build hh).unique
  have hcount := count_domains hu hb hr
  refine ⟨hcount, fun c hc => ?_, ?_, nodup_domains_iff hu hb hr⟩
  · rw [hcount c, ← Set.ncard_singleton (h.iriAt? c)]
    exact Set.ncard_le_ncard fun x hx => h.domainOf_subset_singleton hc hx.2
  · rw [hcount]
    refine (Set.ncard_le_ncard fun x hx => h.domainOf_subset_pair _ hx.2).trans ?_
    have hpair := Set.ncard_insert_le none {h.iriAt? Hierarchy.base}
    rwa [Set.ncard_singleton] at hpair

/-- Pumps feed tanks, and what feeds without a domain feeds whatever it likes: the two domains that
are declared stand for different classes. -/
theorem feeding_bound_once : ∃ r, r.domains = [Hierarchy.base, ⟨1⟩] ∧
    build feedingOntology feedingHierarchy .empty ⟨"urn:plant#EntityProperty"⟩ =
      .ok (.ofRelations [r]) ∧
    r.domains.count Hierarchy.base =
      {x ∈ Declaration.domainsOf feedingOntology ⟨"urn:plant#EntityProperty"⟩ r.iri |
        feedingHierarchy.DomainOf x Hierarchy.base}.ncard := by
  have hb : build feedingOntology feedingHierarchy .empty ⟨"urn:plant#EntityProperty"⟩ =
      .ok (.ofRelations [⟨⟨"urn:plant#feeds"⟩, [⟨⟨0⟩, []⟩, ⟨⟨1⟩, [.class ⟨2⟩]⟩]⟩]) := by
    decide +kernel
  obtain ⟨hcount, -⟩ := bound_once_per_declared_domain build_feedingHierarchy hb
    (List.mem_singleton_self _)
  exact ⟨_, rfl, hb, hcount _⟩

/-! ## Entities and tanks -/

/-- An ontology in which something feeds, and in which a shape of all entities says that they feed
tanks. -/
def fillingOntology : Dataset :=
  .ofTriples [
    ⟨.iri ⟨"urn:plant#feeds"⟩, Vocabulary.type, .iri Vocabulary.objectProperty⟩,
    ⟨.iri ⟨"urn:plant#EntityShape"⟩, Vocabulary.type, .iri Shacl.nodeShape⟩,
    ⟨.iri ⟨"urn:plant#EntityShape"⟩, Shacl.targetClass, .iri ⟨"urn:plant#Entity"⟩⟩,
    ⟨.iri ⟨"urn:plant#EntityShape"⟩, Shacl.property, .blank ⟨"p"⟩⟩,
    ⟨.blank ⟨"p"⟩, Shacl.path, .iri ⟨"urn:plant#feeds"⟩⟩,
    ⟨.blank ⟨"p"⟩, Shacl.class, .iri ⟨"urn:plant#Tank"⟩⟩]

def fillingHierarchy : Hierarchy := .ofClasses [
  ⟨⟨"urn:plant#Entity"⟩, some "Entity", none, none, []⟩,
  ⟨⟨"urn:plant#Tank"⟩, some "Tank", none, some ⟨0⟩, []⟩]

/-- Its relation, with two bindings on the base class. -/
def fillingRelation : Relation :=
  ⟨⟨"urn:plant#feeds"⟩, [⟨Hierarchy.base, []⟩, ⟨Hierarchy.base, [.class ⟨1⟩]⟩]⟩

/-- The declaration without a domain and the one with the base class for its domain are bound
separately, both to the base class. -/
theorem base_class_bound_twice :
    Hierarchy.build fillingOntology "urn:plant#" "Entity" ["Tank"] .firstWins =
      .ok fillingHierarchy ∧
    ShapeCatalog.build fillingOntology ⟨"urn:plant#EntityProperty"⟩ "urn:plant#" [] =
      .ok .empty ∧
    build fillingOntology fillingHierarchy .empty ⟨"urn:plant#EntityProperty"⟩ =
      .ok (.ofRelations [fillingRelation]) ∧
    ¬ fillingRelation.domains.Nodup := by
  refine ⟨?_, by decide +kernel, by decide +kernel, by decide⟩
  exact Hierarchy.build_eq_ok_of_withRoots (by decide) (by decide +kernel)

end RelationRegistry

end BuildingModel
