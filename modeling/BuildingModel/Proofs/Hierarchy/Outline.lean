import BuildingModel.Proofs.Hierarchy.Growth
import BuildingModel.Proofs.Ontology.EntryOrder

/-!
# Outlines of hierarchies

The outline of a hierarchy is all of it but the labels and definitions of its classes. Growth asks
for nothing else, so two datasets that say the same lead to one outline, or to one refusal.
-/
namespace BuildingModel

open BuildingModel.Rdf BuildingModel.Ontology

/-- A class without its label and definition. -/
def ClassEntry.outline (e : ClassEntry) : ClassEntry := { e with label := none, definition := none }

namespace Hierarchy

variable {d d' : Dataset} {policy : HierarchyPolicy} {h h' : Hierarchy}

/-- A hierarchy without the labels and definitions of its classes. -/
def outline (h : Hierarchy) : Hierarchy := .ofClasses (h.classes.map ClassEntry.outline)

@[simp] theorem byIri_outline (h : Hierarchy) (i : Iri) : h.outline.byIri i = h.byIri i := by
  rw [byIri, byIri, iriIndex_eq, h.iriIndex_eq, outline, ofClasses, List.map_map]
  rfl

theorem byIri_eq_of_outline_eq (ho : h.outline = h'.outline) : h.byIri = h'.byIri := by
  funext i
  rw [← byIri_outline h, ho, byIri_outline]

@[simp] theorem size_outline (h : Hierarchy) : h.outline.size = h.size := List.length_map _

@[simp] theorem classAt?_outline (h : Hierarchy) (c : ClassId) :
    h.outline.classAt? c = (h.classAt? c).map ClassEntry.outline :=
  List.getElem?_map

@[simp] theorem nameOf_outline (h : Hierarchy) (c : ClassId) : h.outline.nameOf c = h.nameOf c := by
  rw [nameOf, nameOf, classAt?_outline, Option.map_map]
  rfl

theorem outline_register (h : Hierarchy) (e : ClassEntry) :
    (h.register e).outline = h.outline.register e.outline := by
  ext1
  simp [outline, register]

theorem outline_recordParent (h : Hierarchy) (c p : ClassId) :
    (h.recordParent c p).outline = h.outline.recordParent c p := by
  ext1
  simp only [outline, classes_ofClasses, recordParent]
  apply List.ext_getElem?
  intro i
  simp only [List.getElem?_map, List.getElem?_modify]
  cases h.classes[i]? <;> split <;> rfl

/-- Whether a parent is added, recorded or refused does not depend on labels. -/
theorem map_outline_addParent (policy : HierarchyPolicy) (h : Hierarchy) (c p : ClassId) :
    (addParent policy h c p).map outline = addParent policy h.outline c p := by
  unfold addParent
  rw [classAt?_outline]
  cases h.classAt? c with
  | none => rfl
  | some e =>
    have hparents : e.outline.parents = e.parents := rfl
    have hiri : e.outline.iri = e.iri := rfl
    simp only [Option.map_some, hparents, hiri]
    by_cases hp : c = p ∨ p ∈ e.parents
    · rw [if_pos hp, if_pos hp]
      rfl
    · rw [if_neg hp, if_neg hp]
      cases policy with
      | firstWins => exact congrArg Except.ok (outline_recordParent h c p)
      | strict =>
        have hnames : h.outline.nameOf = h.nameOf := funext h.nameOf_outline
        rw [hnames]
        rfl

theorem map_outline_addParent_eq (policy : HierarchyPolicy) (ho : h.outline = h'.outline)
    (c p : ClassId) :
    (addParent policy h c p).map outline = (addParent policy h' c p).map outline := by
  rw [map_outline_addParent, ho, map_outline_addParent]

/-- Where a pending subclass is to be placed, and its IRI. -/
def placement (x : Pending) : ClassId × Iri := (x.1, x.2.iri)

theorem map_placement_pendingBelow (hs : d.SameGraph d') (c : ClassId) (i : Iri) :
    (pendingBelow d c i).map placement = (pendingBelow d' c i).map placement := by
  have hplaced : ∀ d : Dataset,
      (pendingBelow d c i).map placement = (d.subclassIris i).map fun j => (c, j) := by
    intro d
    simp only [pendingBelow, Dataset.subclasses_eq_map, List.map_map]
    rfl
  rw [hplaced, hplaced, hs.subclassIris_eq]

theorem map_placement_pendingRoots (hs : d.SameGraph d') (h : Hierarchy) :
    (pendingRoots d h).map placement = (pendingRoots d' h).map placement := by
  simp only [pendingRoots, List.map_flatMap, map_placement_pendingBelow hs]

theorem exists_of_map_placement {p : ClassId} {row : SubclassRow} {later pending' : List Pending}
    (hp : ((p, row) :: later).map placement = pending'.map placement) :
    ∃ row' later', pending' = (p, row') :: later' ∧ row'.iri = row.iri ∧
      later.map placement = later'.map placement := by
  cases pending' with
  | nil => cases hp
  | cons x later' =>
    obtain ⟨p', row'⟩ := x
    obtain ⟨hfirst, hlater⟩ := List.cons.inj hp
    obtain ⟨rfl, hiri⟩ := Prod.mk.inj hfirst
    exact ⟨row', later', rfl, hiri.symm, hlater⟩

/-- Hierarchies of one outline grow to hierarchies of one outline, or are refused for one reason, if
the same subclasses are pending below the same classes. -/
theorem map_outline_grow (hs : d.SameGraph d') (ho : h.outline = h'.outline)
    {pending pending' : List Pending} (hp : pending.map placement = pending'.map placement)
    (declared : ∀ x ∈ pending, x.2.iri ∈ declaredIris d)
    (declared' : ∀ x ∈ pending', x.2.iri ∈ declaredIris d') :
    (grow d policy h pending declared).map outline =
      (grow d' policy h' pending' declared').map outline := by
  fun_induction grow d policy h pending declared generalizing h' pending' with
  | case1 h =>
    obtain rfl : pending' = [] := List.map_eq_nil_iff.1 hp.symm
    rw [grow]
    exact congrArg Except.ok ho
  | case2 h p row later declared c hc e ha =>
    obtain ⟨row', later', rfl, hiri, -⟩ := exists_of_map_placement hp
    have hc' : h'.byIri row'.iri = some c := by rw [← byIri_eq_of_outline_eq ho, hiri, hc]
    have ha' : addParent policy h' c p = .error e := by
      have hrefused := map_outline_addParent_eq policy ho c p
      rw [ha] at hrefused
      exact map_eq_error hrefused.symm
    rw [grow_of_refused hc' ha']
  | case3 h p row later declared c hc h₁ ha _ ih =>
    obtain ⟨row', later', rfl, hiri, hlater⟩ := exists_of_map_placement hp
    have hc' : h'.byIri row'.iri = some c := by rw [← byIri_eq_of_outline_eq ho, hiri, hc]
    have hadded := map_outline_addParent_eq policy ho c p
    rw [ha] at hadded
    obtain ⟨h₁', ha', ho'⟩ := map_eq_ok hadded.symm
    rw [ih ho'.symm hlater fun x hx => declared' x (List.mem_cons_of_mem _ hx)]
    exact congrArg _ (grow_of_known hc' ha' fun _ => rfl).symm
  | case4 h p row later declared hn _ ih =>
    obtain ⟨row', later', rfl, hiri, hlater⟩ := exists_of_map_placement hp
    have hn' : h'.byIri row'.iri = none := by rw [← byIri_eq_of_outline_eq ho, hiri, hn]
    have hsize : h.nextId = h'.nextId := by
      rw [nextId, nextId, ← size_outline, ho, size_outline]
    have ho' : (h.registerBelow p row).outline = (h'.registerBelow p row').outline := by
      rw [registerBelow, registerBelow, outline_register, outline_register, ho]
      simp only [ClassEntry.outline, hiri]
    have hbelow : (pendingBelow d h.nextId row.iri ++ later).map placement =
        (pendingBelow d' h'.nextId row'.iri ++ later').map placement := by
      rw [List.map_append, List.map_append, hlater, hsize, hiri, map_placement_pendingBelow hs]
    rw [ih ho' hbelow (declared_pendingBelow_append
      (fun x hx => declared' x (List.mem_cons_of_mem _ hx)) h'.nextId row'.iri)]
    exact congrArg _ (grow_of_registered hn' rfl fun _ => rfl).symm

/-- Two datasets that say the same have hierarchies of one outline, or none for one reason. -/
theorem map_outline_build (hs : d.SameGraph d') (ns baseName : String) (rootNames : List String)
    (policy : HierarchyPolicy) :
    (build d ns baseName rootNames policy).map outline =
      (build d' ns baseName rootNames policy).map outline := by
  cases hw : withRoots ns baseName rootNames with
  | error e =>
    rw [build, build, hw]
    rfl
  | ok h₀ =>
    have hbuild : ∀ d, build d ns baseName rootNames policy =
        grow d policy h₀ (pendingRoots d h₀) (declared_pendingRoots d h₀) := by
      intro d
      rw [build, hw]
      rfl
    rw [hbuild, hbuild]
    exact map_outline_grow hs rfl (map_placement_pendingRoots hs h₀) _ _

end Hierarchy

end BuildingModel
