import BuildingModel.Hierarchy.Build
import Mathlib.Tactic

/-!
# Places of a hierarchy

What stands at a place of a hierarchy: the IRI of its class, its primary parent and all its parents.
A class is found under its IRI, and under its name if no class before has that name. Registering a
class adds a place and leaves the others as they are; recording a parent changes nothing but the
parents of one place.
-/
namespace BuildingModel.Hierarchy

open BuildingModel.Rdf

variable {h : Hierarchy}

def iriAt? (h : Hierarchy) (c : ClassId) : Option Iri :=
  (h.classAt? c).map ClassEntry.iri

theorem ne_base_iff {c : ClassId} : c ≠ base ↔ 0 < c.index := by
  obtain ⟨n⟩ := c
  simp [base, Nat.pos_iff_ne_zero]

theorem iriAt?_eq_some_iff {c : ClassId} {i : Iri} :
    h.iriAt? c = some i ↔ ∃ e, h.classAt? c = some e ∧ e.iri = i :=
  Option.map_eq_some_iff

theorem iriAt?_of_classAt? {c : ClassId} {e : ClassEntry} (he : h.classAt? c = some e) :
    h.iriAt? c = some e.iri :=
  iriAt?_eq_some_iff.2 ⟨e, he, rfl⟩

theorem parentsOf_of_classAt? {c : ClassId} {e : ClassEntry} (he : h.classAt? c = some e) :
    h.parentsOf c = e.parents := by
  rw [parentsOf, he]
  rfl

theorem iriAt?_eq_none_of_le {c : ClassId} (hc : h.size ≤ c.index) : h.iriAt? c = none := by
  have hnone : h.classAt? c = none := List.getElem?_eq_none hc
  rw [iriAt?, hnone]
  rfl

theorem iriAt?_nextId (h : Hierarchy) : h.iriAt? h.nextId = none :=
  iriAt?_eq_none_of_le le_rfl

theorem index_lt_of_iriAt? {c : ClassId} {i : Iri} (hc : h.iriAt? c = some i) :
    c.index < h.size := by
  by_contra hn
  rw [iriAt?_eq_none_of_le (Nat.le_of_not_lt hn)] at hc
  cases hc

theorem ne_nextId_of_iriAt? {c : ClassId} {i : Iri} (hc : h.iriAt? c = some i) :
    c ≠ h.nextId := by
  rintro rfl
  rw [iriAt?_nextId] at hc
  cases hc

theorem exists_iriAt?_of_mem_parentsOf {c p : ClassId} (hp : p ∈ h.parentsOf c) :
    ∃ i, h.iriAt? c = some i := by
  cases he : h.classAt? c with
  | none =>
    rw [parentsOf, he] at hp
    cases hp
  | some e => exact ⟨e.iri, iriAt?_of_classAt? he⟩

theorem mem_map_iri_iff {i : Iri} :
    i ∈ h.classes.map ClassEntry.iri ↔ ∃ c, h.iriAt? c = some i := by
  rw [List.mem_iff_getElem?]
  constructor
  · intro ⟨n, hn⟩
    exact ⟨⟨n⟩, by rw [← hn, List.getElem?_map]; rfl⟩
  · intro ⟨c, hc⟩
    exact ⟨c.index, by rw [← hc, List.getElem?_map]; rfl⟩

/-! ## Look-up by IRI -/

theorem iriAt?_of_byIri {c : ClassId} {i : Iri} (hc : h.byIri i = some c) :
    h.iriAt? c = some i :=
  iriAt?_eq_some_iff.2 (h.exists_classAt?_of_byIri hc)

theorem byIri_eq_none_iff {i : Iri} : h.byIri i = none ↔ ∀ c, h.iriAt? c ≠ some i := by
  rw [← Option.isNone_iff_eq_none, byIri_isNone_iff]
  constructor
  · intro hall c hc
    obtain ⟨e, he, hi⟩ := iriAt?_eq_some_iff.1 hc
    exact hall e (List.mem_of_getElem? he) hi
  · intro hall e he hi
    obtain ⟨n, hn⟩ := List.mem_iff_getElem?.1 he
    exact hall ⟨n⟩ (iriAt?_eq_some_iff.2 ⟨e, hn, hi⟩)

/-- No two places have one IRI. -/
structure Unique (h : Hierarchy) : Prop where
  eq : ∀ {c c' i}, h.iriAt? c = some i → h.iriAt? c' = some i → c = c'

theorem Unique.byIri_eq_some_iff (hu : h.Unique) {c : ClassId} {i : Iri} :
    h.byIri i = some c ↔ h.iriAt? c = some i := by
  constructor
  · exact iriAt?_of_byIri
  · intro hc
    cases hb : h.byIri i with
    | none => exact absurd hc (byIri_eq_none_iff.1 hb c)
    | some c' => rw [hu.eq (iriAt?_of_byIri hb) hc]

theorem unique_of_nodup (hn : (h.classes.map ClassEntry.iri).Nodup) : h.Unique := by
  constructor
  intro c c' i hc hc'
  have hindex : (h.classes.map ClassEntry.iri)[c.index]? =
      (h.classes.map ClassEntry.iri)[c'.index]? := by
    rw [List.getElem?_map, List.getElem?_map]
    exact hc.trans hc'.symm
  have hlt : c.index < (h.classes.map ClassEntry.iri).length := by
    rw [List.length_map]
    exact index_lt_of_iriAt? hc
  exact congrArg ClassId.mk ((List.getElem?_inj hlt hn).1 hindex)

theorem Unique.nodup (hu : h.Unique) : (h.classes.map ClassEntry.iri).Nodup := by
  rw [List.nodup_iff_getElem?_ne_getElem?]
  intro m n hmn hn heq
  have hlt : m < (h.classes.map ClassEntry.iri).length := hmn.trans hn
  have hm : h.iriAt? ⟨m⟩ = some (h.classes.map ClassEntry.iri)[m] := by
    rw [← List.getElem?_eq_getElem hlt, List.getElem?_map]
    rfl
  have hn' : h.iriAt? ⟨n⟩ = some (h.classes.map ClassEntry.iri)[m] := by
    rw [← List.getElem?_eq_getElem hlt, heq, List.getElem?_map]
    rfl
  have hindex : m = n := congrArg ClassId.index (hu.eq hm hn')
  omega

/-! ## Look-up by name -/

section Names

variable {c : ClassId} {name : String}

def HasName (h : Hierarchy) (name : String) (c : ClassId) : Prop :=
  ∃ i, h.iriAt? c = some i ∧ i.name = name

theorem hasName_iff : h.HasName name c ↔ ∃ e, h.classes[c.index]? = some e ∧ e.name = name := by
  constructor
  · rintro ⟨i, hc, hname⟩
    obtain ⟨e, he, rfl⟩ := iriAt?_eq_some_iff.1 hc
    exact ⟨e, he, hname⟩
  · rintro ⟨e, he, hname⟩
    exact ⟨e.iri, iriAt?_of_classAt? he, hname⟩

/-- The class that is found under a name is the first one that has it. -/
theorem byName_eq_some_iff : h.byName name = some c ↔
    h.HasName name c ∧ ∀ c', h.HasName name c' → c.index ≤ c'.index := by
  have hat : ∀ n, (h.classes.map ClassEntry.name)[n]? = some name ↔ h.HasName name ⟨n⟩ := by
    intro n
    rw [hasName_iff, List.getElem?_map, Option.map_eq_some_iff]
  obtain ⟨n⟩ := c
  rw [byName, nameIndex_eq, Option.map_eq_some_iff]
  simp only [ClassId.mk.injEq, exists_eq_right, Index.get?_first_eq_some_iff, hat, ne_eq]
  refine and_congr_right fun _ => ⟨fun hfirst c' hc' => ?_, fun hleast m hmn hm => ?_⟩
  · by_contra hbefore
    exact hfirst c'.index (not_le.1 hbefore) hc'
  · exact absurd (hleast ⟨m⟩ hm) (not_le.2 hmn)

theorem byName_eq_none_iff : h.byName name = none ↔ ∀ c, ¬ h.HasName name c := by
  rw [byName, nameIndex_eq, Option.map_eq_none_iff, Index.get?_first_eq_none_iff, List.mem_map]
  simp only [hasName_iff]
  constructor
  · rintro hnone c ⟨e, he, hname⟩
    exact hnone ⟨e, List.mem_of_getElem? he, hname⟩
  · rintro hnone ⟨e, he, hname⟩
    obtain ⟨n, hn⟩ := List.mem_iff_getElem?.1 he
    exact hnone ⟨n⟩ ⟨e, hn, hname⟩

end Names

/-! ## Registering a class -/

theorem classAt?_register (h : Hierarchy) (e : ClassEntry) (c : ClassId) :
    (h.register e).classAt? c = if c = h.nextId then some e else h.classAt? c := by
  obtain ⟨n⟩ := c
  simp only [classAt?, register, nextId, size, ClassId.mk.injEq]
  by_cases hn : n = h.classes.length
  · subst hn
    simp
  · rw [if_neg hn]
    by_cases hlt : n < h.classes.length
    · exact List.getElem?_append_left hlt
    · have hlength : (h.classes ++ [e]).length ≤ n := by
        rw [List.length_append, List.length_singleton]
        omega
      rw [List.getElem?_eq_none hlength, List.getElem?_eq_none (Nat.le_of_not_lt hlt)]

theorem iriAt?_register (h : Hierarchy) (e : ClassEntry) (c : ClassId) :
    (h.register e).iriAt? c = if c = h.nextId then some e.iri else h.iriAt? c := by
  rw [iriAt?, classAt?_register]
  split <;> rfl

theorem parentsOf_register (h : Hierarchy) (e : ClassEntry) (c : ClassId) :
    (h.register e).parentsOf c = if c = h.nextId then e.parents else h.parentsOf c := by
  rw [parentsOf, classAt?_register]
  split <;> rfl

theorem parentOf?_register (h : Hierarchy) (e : ClassEntry) (c : ClassId) :
    (h.register e).parentOf? c = if c = h.nextId then e.parent else h.parentOf? c := by
  rw [parentOf?, classAt?_register]
  split <;> rfl

/-- Places keep their IRIs when a class is registered. -/
theorem iriAt?_register_of_some {e : ClassEntry} {c : ClassId} {i : Iri}
    (hc : h.iriAt? c = some i) : (h.register e).iriAt? c = some i := by
  rw [iriAt?_register, if_neg (ne_nextId_of_iriAt? hc), hc]

theorem iriAt?_register_eq_some_iff {e : ClassEntry} {c : ClassId} {i : Iri} :
    (h.register e).iriAt? c = some i ↔ h.iriAt? c = some i ∨ c = h.nextId ∧ e.iri = i := by
  rw [iriAt?_register]
  by_cases hc : c = h.nextId
  · subst hc
    simp [iriAt?_nextId]
  · simp [hc]

/-- A class with a new IRI has no other place. -/
theorem Unique.register (hu : h.Unique) {e : ClassEntry} (hnew : ∀ c, h.iriAt? c ≠ some e.iri) :
    (h.register e).Unique := by
  constructor
  intro c c' i hc hc'
  rcases iriAt?_register_eq_some_iff.1 hc with hc | ⟨rfl, rfl⟩
  · rcases iriAt?_register_eq_some_iff.1 hc' with hc' | ⟨-, rfl⟩
    · exact hu.eq hc hc'
    · exact absurd hc (hnew c)
  · rcases iriAt?_register_eq_some_iff.1 hc' with hc' | ⟨rfl, -⟩
    · exact absurd hc' (hnew c')
    · rfl

/-- A class that is registered is found under its name unless another one is. -/
theorem byName_register (h : Hierarchy) (e : ClassEntry) (name : String) :
    (h.register e).byName name =
      (h.byName name).or (if e.name = name then some h.nextId else none) := by
  rw [byName, register, Index.get?_insertNew, Option.map_or, byName]
  by_cases hname : e.name = name
  · simp [hname, nextId]
  · simp [hname, Ne.symm hname]

/-! ## Recording a parent -/

theorem classAt?_recordParent (h : Hierarchy) (c p x : ClassId) :
    (h.recordParent c p).classAt? x = (h.classAt? x).map fun e =>
      if x = c then { e with otherParents := e.otherParents ++ [p] } else e := by
  obtain ⟨n⟩ := x
  obtain ⟨m⟩ := c
  simp only [classAt?, recordParent, List.getElem?_modify, ClassId.mk.injEq]
  by_cases hmn : m = n
  · simp [hmn]
  · simp [hmn, Ne.symm hmn]

theorem iriAt?_recordParent (h : Hierarchy) (c p x : ClassId) :
    (h.recordParent c p).iriAt? x = h.iriAt? x := by
  rw [iriAt?, classAt?_recordParent, Option.map_map, iriAt?]
  congr 1
  funext e
  simp only [Function.comp_apply]
  split <;> rfl

theorem parentOf?_recordParent (h : Hierarchy) (c p x : ClassId) :
    (h.recordParent c p).parentOf? x = h.parentOf? x := by
  rw [parentOf?, classAt?_recordParent, parentOf?]
  cases h.classAt? x with
  | none => rfl
  | some e =>
    simp only [Option.map_some, Option.bind_some]
    split <;> rfl

theorem byName_recordParent (h : Hierarchy) (c p : ClassId) (name : String) :
    (h.recordParent c p).byName name = h.byName name := rfl

theorem parentsOf_recordParent {c p x : ClassId} {i : Iri} (hc : h.iriAt? c = some i) :
    (h.recordParent c p).parentsOf x = if x = c then h.parentsOf c ++ [p] else h.parentsOf x := by
  rw [parentsOf, classAt?_recordParent]
  by_cases hx : x = c
  · subst hx
    obtain ⟨e, he, -⟩ := iriAt?_eq_some_iff.1 hc
    simp [he, parentsOf, ClassEntry.parents]
  · cases he : h.classAt? x <;> simp [he, parentsOf, hx]

end BuildingModel.Hierarchy
