import BuildingModel.Proofs.Rdf.Leading
import BuildingModel.Relation.Registry

/-!
# What declarations make of a relation

The leading properties make the relations of an ontology. Of the declarations of such a property
those count whose domains are known, and what they say is kept: their domains, each with the ranges
that go with it.
-/
namespace BuildingModel.RelationDraft

open BuildingModel.Rdf

variable {h : Hierarchy} {r : RelationDraft} {domain range x o : Option Iri} {i p : Iri}
  {ds : List Declaration}

/-- A relation that nothing is declared of. -/
def start (p : Iri) : RelationDraft := ⟨p, []⟩

/-- What a declaration makes of the relation of its property. -/
def update (h : Hierarchy) (r : RelationDraft) (d : Declaration) : RelationDraft :=
  if resolves h d.domain then r.declare d.domain d.range else r

/-- What the declarations of a property make of it. -/
def ofDeclarations (h : Hierarchy) (ds : List Declaration) (p : Iri) : RelationDraft :=
  draftOf Declaration.property start (update h) ds p

/-- A draft has a domain, and with it a range if one is given. -/
def Holds (r : RelationDraft) (domain range : Option Iri) : Prop :=
  ∃ s ∈ r.domains, s.domain = domain ∧ ∀ i, range = some i → i ∈ s.ranges

/-! ## One declaration -/

theorem iri_declare (r : RelationDraft) (domain range : Option Iri) :
    (r.declare domain range).iri = r.iri := by
  unfold declare
  split
  · rfl
  · rfl

theorem mem_withNew_iff {is : List Iri} :
    i ∈ PathDraft.withNew is range ↔ i ∈ is ∨ range = some i := by
  cases range with
  | none => simp [PathDraft.withNew]
  | some j =>
    by_cases hj : j ∈ is
    · simp only [PathDraft.withNew, if_pos hj, Option.some.injEq, iff_self_or]
      rintro rfl
      exact hj
    · simp [PathDraft.withNew, hj, eq_comm]

/-- A declaration adds its domain with its range, and nothing else. -/
theorem holds_declare_iff : (r.declare domain range).Holds x o ↔
    r.Holds x o ∨ (domain = x ∧ ∀ i, o = some i → range = some i) := by
  unfold declare Holds
  by_cases hany : r.domains.any (·.domain = domain) = true
  · rw [if_pos hany]
    obtain ⟨s, hs, hdomain⟩ : ∃ s ∈ r.domains, s.domain = domain := by simpa using hany
    simp only [List.mem_map, exists_exists_and_eq_and]
    constructor
    · rintro ⟨s', hs', hx, ho⟩
      by_cases hsame : s'.domain = domain
      · simp only [if_pos hsame, mem_withNew_iff] at hx ho
        cases o with
        | none => exact .inr ⟨hsame.symm.trans hx, by simp⟩
        | some i =>
          rcases ho i rfl with hi | hrange
          · exact .inl ⟨s', hs', hx, by simpa using hi⟩
          · exact .inr ⟨hsame.symm.trans hx, by simpa using hrange⟩
      · rw [if_neg hsame] at hx ho
        exact .inl ⟨s', hs', hx, ho⟩
    · rintro (⟨s', hs', hx, ho⟩ | ⟨rfl, ho⟩)
      · refine ⟨s', hs', ?_⟩
        by_cases hsame : s'.domain = domain
        · rw [if_pos hsame]
          exact ⟨hx, fun i hi => mem_withNew_iff.2 (.inl (ho i hi))⟩
        · rw [if_neg hsame]
          exact ⟨hx, ho⟩
      · refine ⟨s, hs, ?_⟩
        rw [if_pos hdomain]
        exact ⟨hdomain, fun i hi => mem_withNew_iff.2 (.inr (ho i hi))⟩
  · rw [if_neg hany]
    simp only [List.mem_append, List.mem_singleton, or_and_right, exists_or, exists_eq_left,
      Option.mem_toList]

/-! ## All declarations -/

theorem ofDeclarations_append_singleton (ds : List Declaration) (d : Declaration) (p : Iri) :
    ofDeclarations h (ds ++ [d]) p =
      if d.property = p then (ofDeclarations h ds p).update h d else ofDeclarations h ds p :=
  draftOf_append_singleton ds d p

theorem iri_ofDeclarations (ds : List Declaration) (p : Iri) :
    (ofDeclarations h ds p).iri = p := by
  induction ds using List.reverseRecOn with
  | nil => rfl
  | append_singleton ds d ih =>
    rw [ofDeclarations_append_singleton, update]
    split_ifs
    · rw [iri_declare, ih]
    · exact ih
    · exact ih

/-- A draft has what some declaration of its property says, if the domain of that is known. -/
theorem holds_ofDeclarations_iff : (ofDeclarations h ds p).Holds x o ↔
    resolves h x = true ∧
      ∃ d ∈ ds, d.property = p ∧ d.domain = x ∧ ∀ i, o = some i → d.range = some i := by
  induction ds using List.reverseRecOn with
  | nil => simp [ofDeclarations, draftOf, start, Holds]
  | append_singleton ds d ih =>
    rw [ofDeclarations_append_singleton]
    simp only [List.mem_append, List.mem_singleton, or_and_right, exists_or, exists_eq_left]
    by_cases hp : d.property = p
    · rw [if_pos hp, update]
      by_cases hd : resolves h d.domain = true
      · rw [if_pos hd, holds_declare_iff, ih]
        constructor
        · rintro (⟨hx, hds⟩ | ⟨rfl, ho⟩)
          · exact ⟨hx, .inl hds⟩
          · exact ⟨hd, .inr ⟨hp, rfl, ho⟩⟩
        · rintro ⟨hx, hds | ⟨-, rfl, ho⟩⟩
          · exact .inl ⟨hx, hds⟩
          · exact .inr ⟨rfl, ho⟩
      · rw [if_neg hd, ih]
        constructor
        · rintro ⟨hx, hds⟩
          exact ⟨hx, .inl hds⟩
        · rintro ⟨hx, hds | ⟨-, rfl, -⟩⟩
          · exact ⟨hx, hds⟩
          · exact absurd hx hd
    · simp [ih, hp]

theorem add_of_known {drafts : List RelationDraft} {d : Declaration}
    (hd : drafts.any (·.iri.name = d.property.name) = true) :
    add h drafts d = drafts.map fun r => if r.iri = d.property then r.update h d else r := by
  unfold add update
  simp only [if_pos hd]
  by_cases hresolves : resolves h d.domain = true
  · simp only [if_pos hresolves]
  · simp [if_neg hresolves]

theorem add_of_new {drafts : List RelationDraft} {d : Declaration}
    (hd : drafts.any (·.iri.name = d.property.name) = false) :
    add h drafts d = drafts ++ [(start d.property).update h d] := by
  have hother : ∀ r ∈ drafts, r.iri ≠ d.property := by
    intro r hr heq
    have hname : (drafts.any (·.iri.name = d.property.name)) = true :=
      List.any_eq_true.2 ⟨r, hr, by simp [heq]⟩
    rw [hd] at hname
    cases hname
  unfold add update
  simp only [hd, Bool.false_eq_true, if_false]
  by_cases hresolves : resolves h d.domain = true
  · simp only [if_pos hresolves, List.map_append, List.map_singleton, start, if_true]
    congr 1
    refine (List.map_congr_left fun r hr => ?_).trans (List.map_id drafts)
    exact if_neg (hother r hr)
  · simp only [if_neg hresolves, start]

/-- The declarations that have been read make a draft for each leading property. -/
theorem foldl_add (ds : List Declaration) :
    ds.foldl (add h) [] =
      (leading (ds.map Declaration.property)).map (ofDeclarations h ds) := by
  change ds.foldl (add h) [] = drafts Declaration.property start (update h) ds
  have hiri : ∀ ds p, (draftOf Declaration.property start (update h) ds p).iri = p :=
    iri_ofDeclarations
  induction ds using List.reverseRecOn with
  | nil => rfl
  | append_singleton ds d ih =>
    rw [List.foldl_append, List.foldl_cons, List.foldl_nil, ih]
    cases hknown : (leading (ds.map Declaration.property)).any (·.name = d.property.name) with
    | true =>
      rw [drafts_append_known hiri hknown, add_of_known]
      rw [any_name_drafts hiri, hknown]
    | false =>
      rw [drafts_append_new hknown, add_of_new]
      rw [any_name_drafts hiri, hknown]

end BuildingModel.RelationDraft
