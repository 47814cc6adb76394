import BuildingModel.Hierarchy.Basic
import BuildingModel.Ontology.Introspection

/-!
# Building a hierarchy

Starting from the base class and its roots, subclasses are registered depth first. The parent found
first is the primary one; a further parent is recorded, or refused under the strict policy.
-/
namespace BuildingModel

open BuildingModel.Rdf BuildingModel.Ontology

/-- What to do with a class that has several parents. -/
inductive HierarchyPolicy
  | firstWins
  | strict
  deriving DecidableEq, Repr

inductive HierarchyError
  | invalidIri (text : String)
  | multipleParents (iri : Iri) (parents : List String)
  deriving DecidableEq, Repr

namespace Hierarchy

/-- The IRI of a local name in a namespace, which has to be absolute. -/
def namespaced (ns name : String) : Except HierarchyError Iri :=
  match Iri.parse? (ns ++ name) with
  | some iri => .ok iri
  | none => .error (.invalidIri (ns ++ name))

def empty : Hierarchy := .ofClasses []

def register (h : Hierarchy) (c : ClassEntry) : Hierarchy where
  classes := h.classes ++ [c]
  iriIndex := h.iriIndex.insert c.iri h.size
  nameIndex := h.nameIndex.insertNew c.name h.size
  iriIndex_eq := by
    rw [List.map_append, List.map_singleton, Index.last_append_singleton, h.iriIndex_eq,
      List.length_map, size]
  nameIndex_eq := by
    rw [List.map_append, List.map_singleton, Index.first_append_singleton, h.nameIndex_eq,
      List.length_map, size]

/-- The place at which the next class will be registered. -/
def nextId (h : Hierarchy) : ClassId := ⟨h.size⟩

/-- Registers a root class, unless its IRI is registered. -/
def addRoot (h : Hierarchy) (iri : Iri) (label : String) : Hierarchy :=
  if (h.byIri iri).isSome then h
  else h.register ⟨iri, some label, none, some base, []⟩

def addRoots (ns : String) (h : Hierarchy) : List String → Except HierarchyError Hierarchy
  | [] => .ok h
  | root :: roots => do
    let iri ← namespaced ns root
    addRoots ns (h.addRoot iri root) roots

/-- The base class and the root classes, labelled by the names they are configured with. -/
def withRoots (ns baseName : String) (roots : List String) : Except HierarchyError Hierarchy := do
  let iri ← namespaced ns baseName
  addRoots ns (empty.register ⟨iri, some baseName, none, none, []⟩) roots

theorem map_modify_otherParents {β : Type} {g : ClassEntry → β}
    (hg : ∀ e ps, g { e with otherParents := ps } = g e) (es : List ClassEntry) (n : Nat)
    (p : ClassId) :
    (es.modify n fun e => { e with otherParents := e.otherParents ++ [p] }).map g = es.map g := by
  apply List.ext_getElem?
  intro i
  simp only [List.getElem?_map, List.getElem?_modify]
  split <;> cases es[i]? <;> simp [hg]

/-- Records a further parent at the end of the other parents of a class. -/
def recordParent (h : Hierarchy) (c p : ClassId) : Hierarchy where
  classes := h.classes.modify c.index fun e => { e with otherParents := e.otherParents ++ [p] }
  iriIndex := h.iriIndex
  nameIndex := h.nameIndex
  iriIndex_eq := by rw [map_modify_otherParents fun _ _ => rfl, iriIndex_eq]
  nameIndex_eq := by rw [map_modify_otherParents fun _ _ => rfl, nameIndex_eq]

/-- Adds a parent to a registered class. A class is no parent of itself, and no parent counts
twice. -/
def addParent (policy : HierarchyPolicy) (h : Hierarchy) (c p : ClassId) :
    Except HierarchyError Hierarchy :=
  match h.classAt? c with
  | none => .ok h
  | some e =>
    if c = p ∨ p ∈ e.parents then .ok h
    else
      match policy with
      | .firstWins => .ok (h.recordParent c p)
      | .strict => .error (.multipleParents e.iri ((e.parents ++ [p]).map h.nameOf))

def registerBelow (h : Hierarchy) (p : ClassId) (row : SubclassRow) : Hierarchy :=
  h.register ⟨row.iri, row.label, row.definition, some p, []⟩

/-- The IRIs that a dataset declares as subclasses of anything. -/
def declaredIris (d : Dataset) : List Iri :=
  d.defaultTriples.filterMap fun t =>
    if t.predicate = Vocabulary.subClassOf then t.subject.term.iri? else none

theorem mem_declaredIris {d : Dataset} {parent : Iri} {row : SubclassRow}
    (hr : row ∈ d.subclasses parent) : row.iri ∈ declaredIris d := by
  simp only [Dataset.subclasses_eq_map, Dataset.subclassIris, sortIris, List.mem_map,
    List.mem_mergeSort, mem_distinct, List.mem_filterMap] at hr
  obtain ⟨c, ⟨n, hn, hc⟩, rfl⟩ := hr
  refine List.mem_filterMap.2
    ⟨_, Dataset.mem_defaultTriples.2 (Dataset.mem_defaultSubjects.1 hn), ?_⟩
  simpa using hc

/-- A subclass to be placed below a registered class. -/
abbrev Pending := ClassId × SubclassRow

def pendingBelow (d : Dataset) (c : ClassId) (iri : Iri) : List Pending :=
  (d.subclasses iri).map fun row => (c, row)

/-- The declared subclasses that are not registered. -/
def unregistered (d : Dataset) (h : Hierarchy) : List Iri :=
  (declaredIris d).filter fun iri => (h.byIri iri).isNone

theorem byIri_register_isNone {h : Hierarchy} {e : ClassEntry} {iri : Iri} :
    ((h.register e).byIri iri).isNone ↔ (h.byIri iri).isNone ∧ e.iri ≠ iri := by
  simp only [byIri_isNone_iff, register, List.mem_append, List.mem_singleton]
  constructor
  · intro hall
    exact ⟨fun e' he' => hall e' (Or.inl he'), hall e (Or.inr rfl)⟩
  · rintro ⟨h1, h2⟩ e' (he' | rfl)
    · exact h1 e' he'
    · exact h2

theorem map_iri_recordParent (h : Hierarchy) (c p : ClassId) :
    (h.recordParent c p).classes.map ClassEntry.iri = h.classes.map ClassEntry.iri :=
  map_modify_otherParents (fun _ _ => rfl) _ _ _

theorem byIri_isNone_congr {h h' : Hierarchy}
    (heq : h'.classes.map ClassEntry.iri = h.classes.map ClassEntry.iri) (iri : Iri) :
    (h'.byIri iri).isNone = (h.byIri iri).isNone := by
  rw [Bool.eq_iff_iff]
  simp only [byIri_isNone_iff]
  have key : ∀ g : Hierarchy,
      (∀ e ∈ g.classes, e.iri ≠ iri) ↔ iri ∉ g.classes.map ClassEntry.iri := by
    intro g
    simp only [List.mem_map, not_exists, not_and]
  rw [key, key, heq]

theorem map_iri_addParent {policy : HierarchyPolicy} {h h' : Hierarchy} {c p : ClassId}
    (ha : addParent policy h c p = .ok h') :
    h'.classes.map ClassEntry.iri = h.classes.map ClassEntry.iri := by
  unfold addParent at ha
  split at ha
  · cases ha; rfl
  · split at ha
    · cases ha; rfl
    · split at ha
      · cases ha; exact map_iri_recordParent h c p
      · cases ha

theorem unregistered_addParent {d : Dataset} {policy : HierarchyPolicy} {h h' : Hierarchy}
    {c p : ClassId} (ha : addParent policy h c p = .ok h') :
    unregistered d h' = unregistered d h := by
  unfold unregistered
  congr 1
  funext iri
  exact byIri_isNone_congr (map_iri_addParent ha) iri

theorem length_unregistered_register_lt {d : Dataset} {h : Hierarchy} {e : ClassEntry}
    (hd : e.iri ∈ declaredIris d) (hn : h.byIri e.iri = none) :
    (unregistered d (h.register e)).length < (unregistered d h).length := by
  have hsub : unregistered d (h.register e) =
      (unregistered d h).filter fun iri => decide (e.iri ≠ iri) := by
    unfold unregistered
    rw [List.filter_filter]
    congr 1
    funext iri
    rw [Bool.eq_iff_iff]
    simp only [byIri_register_isNone, Bool.and_eq_true, decide_eq_true_eq]
    exact and_comm
  rw [hsub]
  apply List.length_filter_lt_length_iff_exists.2
  exact ⟨e.iri, List.mem_filter.2 ⟨hd, by simp [hn]⟩, by simp⟩

/-- Places pending subclasses in order, each followed by its own subclasses. -/
def grow (d : Dataset) (policy : HierarchyPolicy) (h : Hierarchy) (pending : List Pending)
    (declared : ∀ p ∈ pending, p.2.iri ∈ declaredIris d) : Except HierarchyError Hierarchy :=
  match pending with
  | [] => .ok h
  | (parent, row) :: later =>
    match _ : h.byIri row.iri with
    | some c =>
      match _ : addParent policy h c parent with
      | .error e => .error e
      | .ok h' => grow d policy h' later fun p hp => declared p (List.mem_cons_of_mem _ hp)
    | none =>
      grow d policy (h.registerBelow parent row) (pendingBelow d h.nextId row.iri ++ later) (by
        intro p hp
        rcases List.mem_append.1 hp with hp | hp
        · obtain ⟨r, hr, rfl⟩ := List.mem_map.1 hp
          exact mem_declaredIris hr
        · exact declared p (List.mem_cons_of_mem _ hp))
termination_by ((unregistered d h).length, pending.length)
decreasing_by
  · rename_i ha
    rw [unregistered_addParent ha]
    exact Prod.Lex.right _ (by simp)
  · rename_i hb
    exact Prod.Lex.left _ _
      (length_unregistered_register_lt (declared (parent, row) List.mem_cons_self) hb)

/-- The subclasses of the registered classes below the base class. -/
def pendingRoots (d : Dataset) (h : Hierarchy) : List Pending :=
  ((h.classes.zipIdx).drop 1).flatMap fun (e, i) => pendingBelow d ⟨i⟩ e.iri

theorem declared_pendingRoots (d : Dataset) (h : Hierarchy) :
    ∀ p ∈ pendingRoots d h, p.2.iri ∈ declaredIris d := by
  intro p hp
  obtain ⟨⟨e, i⟩, -, hp⟩ := List.mem_flatMap.1 hp
  obtain ⟨r, hr, rfl⟩ := List.mem_map.1 hp
  exact mem_declaredIris hr

def build (d : Dataset) (ns baseName : String) (roots : List String) (policy : HierarchyPolicy) :
    Except HierarchyError Hierarchy := do
  let h ← withRoots ns baseName roots
  grow d policy h (pendingRoots d h) (declared_pendingRoots d h)

end Hierarchy

end BuildingModel
