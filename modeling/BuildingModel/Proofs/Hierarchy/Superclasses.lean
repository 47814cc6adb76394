import BuildingModel.Proofs.Hierarchy.Descent
import BuildingModel.Proofs.Hierarchy.Faithful
import BuildingModel.Proofs.Rdf.Graph
import BuildingModel.Proofs.Validation.Instance

/-!
# Descent and superclasses

Descent is searched along the parents of a hierarchy, the superclasses of a class along the
statements of the graph. In a faithful hierarchy both find the same, unless it is about the base
class: roots are below it by configuration. A declared path from one class to another one that is
registered never leaves the hierarchy, and it avoids the base class if that is on top.
-/
namespace BuildingModel.Hierarchy

open BuildingModel.Rdf BuildingModel.Validation

variable {d : Dataset} {base i j : Iri} {roots : List Iri} {h : Hierarchy} {a c p : ClassId}

/-- No registered class other than the base class itself is declared above the base class. -/
def OnTop (d : Dataset) (base : Iri) (h : Hierarchy) : Prop :=
  ∀ i ∈ h.classes.map ClassEntry.iri, i ≠ base → ¬ d.DeclaredBelow base i

theorem below_iff (hd : d.IsGraph) :
    Below d i j ↔ Relation.ReflTransGen d.DeclaredBelow i j := by
  have hstep : (fun a b => Term.iri b ∈ d.objects (.iri a) Vocabulary.subClassOf) =
      d.DeclaredBelow := by
    funext a b
    exact propext hd.mem_objects_iff
  rw [Below, hstep]

namespace Faithful

theorem unique (hf : Faithful d base roots h) : h.Unique := unique_of_nodup hf.iris_nodup

theorem eq_base (hf : Faithful d base roots h) (hc : h.iriAt? c = some base) :
    c = Hierarchy.base :=
  hf.unique.eq hc hf.base_iri

theorem iri_ne_base (hf : Faithful d base roots h) (hc : h.iriAt? c = some i)
    (hne : c ≠ Hierarchy.base) : i ≠ base := by
  rintro rfl
  exact hne (hf.eq_base hc)

theorem parentsOf_base (hf : Faithful d base roots h) (ht : OnTop d base h) :
    h.parentsOf Hierarchy.base = [] := by
  rw [List.eq_nil_iff_forall_not_mem]
  intro p hp
  by_cases hbase : p = Hierarchy.base
  · rw [hbase] at hp
    exact ((hf.base_parent_iff hf.base_iri).1 hp).2 rfl
  · obtain ⟨j, hj⟩ := hf.parents_registered hp
    exact ht j (mem_map_iri_iff.2 ⟨p, hj⟩) (hf.iri_ne_base hj hbase)
      ((hf.parent_iff hf.base_iri hj (Ne.symm hbase) hbase).1 hp)

theorem declared_of_descends (hf : Faithful d base roots h) (ht : OnTop d base h)
    (hc : h.iriAt? c = some i) (ha : h.iriAt? a = some j) (hne : a ≠ Hierarchy.base)
    (hdesc : h.Descends c a) : Relation.ReflTransGen d.DeclaredBelow i j := by
  induction hdesc using Relation.ReflTransGen.head_induction_on generalizing i with
  | refl =>
    rw [hc] at ha
    cases ha
    exact .refl
  | @head c p hp hdesc ih =>
    obtain ⟨k, hk⟩ := hf.parents_registered hp
    have hbase : p ≠ Hierarchy.base := by
      rintro rfl
      cases Relation.ReflTransGen.cases_head hdesc with
      | inl heq => exact hne heq.symm
      | inr hstep =>
        obtain ⟨b, hb, -⟩ := hstep
        rw [hf.parentsOf_base ht] at hb
        cases hb
    by_cases hself : c = p
    · subst hself
      rw [hc] at hk
      cases hk
      exact ih hc
    · exact .head ((hf.parent_iff hc hk hself hbase).1 hp) (ih hk)

/-- A declared path to a registered class other than the base class stays in the hierarchy and away
from the base class. -/
theorem registered_of_declared (hf : Faithful d base roots h) (ht : OnTop d base h)
    (ha : h.iriAt? a = some j) (hne : a ≠ Hierarchy.base)
    (hpath : Relation.ReflTransGen d.DeclaredBelow i j) : i ≠ base ∧ ∃ c, h.iriAt? c = some i := by
  induction hpath using Relation.ReflTransGen.head_induction_on with
  | refl => exact ⟨hf.iri_ne_base ha hne, a, ha⟩
  | @head x y hxy _ ih =>
    obtain ⟨hy, hmem⟩ := ih
    rw [← mem_map_iri_iff] at hmem ⊢
    have hx : x ≠ base := by
      rintro rfl
      exact ht y hmem hy hxy
    obtain ⟨r, hr, hrbase, hup⟩ := ((hf.mem_iris_iff y).1 hmem).resolve_left hy
    exact ⟨hx, (hf.mem_iris_iff x).2 (.inr ⟨r, hr, hrbase, .head ⟨hxy, hy⟩ hup⟩)⟩

theorem descends_of_declared (hf : Faithful d base roots h) (ht : OnTop d base h)
    (ha : h.iriAt? a = some j) (hne : a ≠ Hierarchy.base)
    (hpath : Relation.ReflTransGen d.DeclaredBelow i j) (hc : h.iriAt? c = some i) :
    h.Descends c a := by
  induction hpath using Relation.ReflTransGen.head_induction_on generalizing c with
  | refl =>
    rw [hf.unique.eq hc ha]
    exact .refl a
  | @head x y hxy hpath ih =>
    obtain ⟨hy, p, hp⟩ := hf.registered_of_declared ht ha hne hpath
    have hbase : p ≠ Hierarchy.base := by
      rintro rfl
      rw [hf.base_iri] at hp
      exact hy (Option.some.inj hp).symm
    by_cases hself : c = p
    · rw [hself]
      exact ih hp
    · exact .head ((hf.parent_iff hc hp hself hbase).2 hxy) (ih hp)

/-- Apart from the base class, the classes that one descends from are its superclasses. -/
theorem isSubclass_iff_mem_superclasses (hf : Faithful d base roots h) (hd : d.IsGraph)
    (ht : OnTop d base h) (hc : h.iriAt? c = some i) (ha : h.iriAt? a = some j)
    (hne : a ≠ Hierarchy.base) : h.isSubclass c a = true ↔ j ∈ superclasses d i := by
  rw [isSubclass_iff, mem_superclasses_iff, below_iff hd]
  constructor
  · exact hf.declared_of_descends ht hc ha hne
  · intro hpath
    exact hf.descends_of_declared ht ha hne hpath hc

end Faithful

end BuildingModel.Hierarchy
