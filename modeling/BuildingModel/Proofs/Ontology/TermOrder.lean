import BuildingModel.Ontology.TermOrder
import BuildingModel.Proofs.Lists
import Mathlib.Tactic

/-!
# Sorting neither loses nor adds

Terms in order are the terms there were, whatever the order is. The order of nodes depends on
nothing else; literals that compare as equal keep the order that they had, so that of terms in order
only the IRIs have fixed places.
-/
namespace BuildingModel.Ontology

open BuildingModel.Rdf

@[simp] theorem mem_sortIris {is : List Iri} {i : Iri} : i ∈ sortIris is ↔ i ∈ is :=
  List.mem_mergeSort

@[simp] theorem mem_sortBlanks {bs : List BlankNode} {b : BlankNode} : b ∈ sortBlanks bs ↔ b ∈ bs :=
  List.mem_mergeSort

@[simp] theorem mem_sortNodes {ns : List Node} {n : Node} : n ∈ sortNodes ns ↔ n ∈ ns := by
  simp only [sortNodes, List.mem_append, List.mem_map, mem_sortBlanks, mem_sortIris,
    List.mem_filterMap]
  constructor
  · rintro (⟨b, ⟨n, hn, hb⟩, rfl⟩ | ⟨i, ⟨n, hn, hi⟩, rfl⟩)
    · cases n with
      | iri i => cases hb
      | blank b' =>
        cases hb
        exact hn
    · cases n with
      | iri i' =>
        cases hi
        exact hn
      | blank b => cases hi
  · intro hn
    cases n with
    | iri i => exact .inr ⟨i, ⟨_, hn, rfl⟩, rfl⟩
    | blank b => exact .inl ⟨b, ⟨_, hn, rfl⟩, rfl⟩

@[simp] theorem mem_sortTerms {ts : List Term} {t : Term} : t ∈ sortTerms ts ↔ t ∈ ts := by
  simp only [sortTerms, List.mem_append, List.mem_map, mem_sortNodes, List.mem_mergeSort,
    List.mem_filterMap]
  constructor
  · rintro (⟨n, ⟨t, ht, hn⟩, rfl⟩ | ⟨l, ⟨t, ht, hl⟩, rfl⟩)
    · rw [← Term.node?_eq_some_iff.1 hn]
      exact ht
    · cases t with
      | iri i => cases hl
      | blank b => cases hl
      | literal l' =>
        cases hl
        exact ht
  · intro ht
    cases t with
    | iri i => exact .inl ⟨.iri i, ⟨_, ht, rfl⟩, rfl⟩
    | blank b => exact .inl ⟨.blank b, ⟨_, ht, rfl⟩, rfl⟩
    | literal l => exact .inr ⟨l, ⟨_, ht, rfl⟩, rfl⟩

/-! ## What the order depends on -/

/-- Blank nodes come before all others. -/
theorem exists_sortNodes_eq {ms ns : List Node}
    (hsame : (ms.filterMap fun n => n.term.iri?) = ns.filterMap fun n => n.term.iri?)
    (hiris : ∀ n ∈ ns, ∃ i, n = .iri i) :
    ∃ bs : List BlankNode, sortNodes ms = bs.map Node.blank ++ sortNodes ns ∧
      ∀ b, b ∈ bs ↔ .blank b ∈ ms := by
  have hns : sortNodes ns = (sortIris (ns.filterMap fun n => n.term.iri?)).map Node.iri := by
    unfold sortNodes
    rw [List.append_left_eq_self, List.map_eq_nil_iff, List.eq_nil_iff_forall_not_mem]
    intro b hb
    obtain ⟨n, hn, hb⟩ := List.mem_filterMap.1 (mem_sortBlanks.1 hb)
    obtain ⟨i, rfl⟩ := hiris n hn
    cases hb
  refine ⟨_, by rw [hns, ← hsame, sortNodes], fun b => ?_⟩
  rw [mem_sortBlanks, List.mem_filterMap]
  constructor
  · rintro ⟨n, hn, hb⟩
    cases n with
    | iri i => cases hb
    | blank b' =>
      cases hb
      exact hn
  · intro hb
    exact ⟨_, hb, rfl⟩

theorem sortIris_eq_of_perm {is js : List Iri} (hp : is.Perm js) : sortIris is = sortIris js :=
  mergeSort_text_eq_of_perm (fun _ _ h => congrArg Iri.mk h) hp

theorem sortBlanks_eq_of_perm {bs cs : List BlankNode} (hp : bs.Perm cs) :
    sortBlanks bs = sortBlanks cs :=
  mergeSort_text_eq_of_perm (fun _ _ h => congrArg BlankNode.mk h) hp

theorem sortNodes_eq_of_perm {ms ns : List Node} (hp : ms.Perm ns) :
    sortNodes ms = sortNodes ns := by
  rw [sortNodes, sortNodes, sortBlanks_eq_of_perm (hp.filterMap _),
    sortIris_eq_of_perm (hp.filterMap _)]

/-- Blank nodes come first and literals last, so the places of IRIs are fixed. -/
theorem map_iri?_sortTerms_eq_of_perm {ts us : List Term} (hp : ts.Perm us) :
    (sortTerms ts).map Term.iri? = (sortTerms us).map Term.iri? := by
  have hliterals : ∀ ls : List Literal,
      (ls.map Term.literal).map Term.iri? = List.replicate ls.length none := by
    intro ls
    rw [List.map_map]
    exact List.map_eq_replicate_iff.2 fun l _ => rfl
  rw [sortTerms, sortTerms, List.map_append, List.map_append, hliterals, hliterals,
    sortNodes_eq_of_perm (hp.filterMap _), List.length_mergeSort, List.length_mergeSort,
    (hp.filterMap _).length_eq]

/-! ## Texts one after the other -/

theorem textsLe_cons_iff {s t : String} {ss ts : List String} :
    textsLe (s :: ss) (t :: ts) = true ↔ s < t ∨ s = t ∧ textsLe ss ts = true := by
  simp [textsLe]

theorem textsLe_trans {a b c : List String} (hab : textsLe a b = true) (hbc : textsLe b c = true) :
    textsLe a c = true := by
  induction a generalizing b c with
  | nil => rfl
  | cons s ss ih =>
    cases b with
    | nil => cases hab
    | cons t ts =>
      cases c with
      | nil => cases hbc
      | cons u us =>
        rw [textsLe_cons_iff] at hab hbc ⊢
        rcases hab with hst | ⟨rfl, hab⟩
        · rcases hbc with htu | ⟨rfl, -⟩
          · exact .inl (String.lt_trans hst htu)
          · exact .inl hst
        · rcases hbc with hsu | ⟨rfl, hbc⟩
          · exact .inl hsu
          · exact .inr ⟨rfl, ih hab hbc⟩

theorem textsLe_total (a b : List String) : (textsLe a b || textsLe b a) = true := by
  rw [Bool.or_eq_true]
  induction a generalizing b with
  | nil => exact .inl rfl
  | cons s ss ih =>
    cases b with
    | nil => exact .inr rfl
    | cons t ts =>
      rw [textsLe_cons_iff, textsLe_cons_iff]
      rcases Std.lt_trichotomy s t with hst | rfl | hts
      · exact .inl (.inl hst)
      · exact (ih ts).imp (fun h => .inr ⟨rfl, h⟩) fun h => .inr ⟨rfl, h⟩
      · exact .inr (.inl hts)

theorem textsLe_antisymm {a b : List String} (hab : textsLe a b = true) (hba : textsLe b a = true) :
    a = b := by
  induction a generalizing b with
  | nil =>
    cases b with
    | nil => rfl
    | cons t ts => cases hba
  | cons s ss ih =>
    cases b with
    | nil => cases hab
    | cons t ts =>
      rw [textsLe_cons_iff] at hab hba
      rcases hab with hst | ⟨rfl, hab⟩
      · rcases hba with hts | ⟨rfl, -⟩
        · exact absurd hts (String.lt_asymm hst)
        · exact absurd hst (String.lt_irrefl _)
      · rcases hba with hss | ⟨-, hba⟩
        · exact absurd hss (String.lt_irrefl s)
        · rw [ih hab hba]

end BuildingModel.Ontology
