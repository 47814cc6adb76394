import BuildingModel.Rdf.Canonical

/-!
# Datasets

A dataset is a set of statements in graphs, read newest first. Literals enter it in normal form, and
a statement that it already holds is not entered again.
-/
namespace BuildingModel.Rdf

/-- A set of statements in graphs. -/
structure Dataset where
  /-- The statements, the newest first. -/
  quads : List Quad
  nodup : quads.Nodup

namespace Dataset

def empty : Dataset := ⟨[], List.nodup_nil⟩

instance : Inhabited Dataset := ⟨empty⟩

instance : Membership Quad Dataset := ⟨fun d q => q ∈ d.quads⟩

instance (q : Quad) (d : Dataset) : Decidable (q ∈ d) :=
  inferInstanceAs (Decidable (q ∈ d.quads))

theorem mem_quads {d : Dataset} {q : Quad} : q ∈ d.quads ↔ q ∈ d := Iff.rfl

@[simp] theorem not_mem_empty (q : Quad) : ¬ q ∈ empty := by
  simp [← mem_quads, empty]

/-- Enters the normal form of a statement. -/
def insert (d : Dataset) (q : Quad) : Dataset :=
  if h : q.normal ∈ d then d
  else ⟨q.normal :: d.quads, List.nodup_cons.2 ⟨h, d.nodup⟩⟩

@[simp] theorem mem_insert {d : Dataset} {q r : Quad} :
    r ∈ d.insert q ↔ r = q.normal ∨ r ∈ d := by
  unfold insert
  split
  · rename_i h
    constructor
    · exact Or.inr
    · rintro (rfl | hr)
      · exact h
      · exact hr
  · simp [← mem_quads]

def insertAll (d : Dataset) (qs : List Quad) : Dataset :=
  qs.foldl insert d

@[simp] theorem mem_insertAll {d : Dataset} {qs : List Quad} {r : Quad} :
    r ∈ d.insertAll qs ↔ r ∈ qs.map Quad.normal ∨ r ∈ d := by
  unfold insertAll
  induction qs generalizing d with
  | nil => simp
  | cons q qs ih =>
    rw [List.foldl_cons, ih]
    simp only [mem_insert, List.map_cons, List.mem_cons]
    constructor
    · rintro (h | h | h) <;> simp [h]
    · rintro ((h | h) | h) <;> simp [h]

def size (d : Dataset) : Nat := d.quads.length

theorem size_insert_of_not_mem {d : Dataset} {q : Quad} (h : q.normal ∉ d) :
    (d.insert q).size = d.size + 1 := by
  rw [insert, dif_neg h]
  rfl

/-- What the dataset says of a subject under a predicate, in any graph, newest first. -/
def objects (d : Dataset) (s : Node) (p : Iri) : List Term :=
  d.quads.filterMap fun q => if q.subject = s ∧ q.predicate = p then some q.object else none

/-- The newest object of a subject and a predicate. -/
def object? (d : Dataset) (s : Node) (p : Iri) : Option Term :=
  (d.objects s p).head?

/-- The nodes of which the dataset says a given object under a predicate, newest first. -/
def subjects (d : Dataset) (p : Iri) (o : Term) : List Node :=
  d.quads.filterMap fun q => if q.predicate = p ∧ q.object = o then some q.subject else none

theorem mem_objects {d : Dataset} {s : Node} {p : Iri} {o : Term} :
    o ∈ d.objects s p ↔ ∃ g, (⟨⟨s, p, o⟩, g⟩ : Quad) ∈ d := by
  simp only [objects, List.mem_filterMap, mem_quads]
  constructor
  · intro ⟨⟨⟨s', p', o'⟩, g⟩, hq, h⟩
    split at h
    · rename_i hsp
      obtain ⟨rfl, rfl⟩ := hsp
      cases h
      exact ⟨g, hq⟩
    · cases h
  · intro ⟨g, hq⟩
    exact ⟨_, hq, by simp⟩

theorem mem_subjects {d : Dataset} {p : Iri} {o : Term} {s : Node} :
    s ∈ d.subjects p o ↔ ∃ g, (⟨⟨s, p, o⟩, g⟩ : Quad) ∈ d := by
  simp only [subjects, List.mem_filterMap, mem_quads]
  constructor
  · intro ⟨⟨⟨s', p', o'⟩, g⟩, hq, h⟩
    split at h
    · rename_i hsp
      obtain ⟨rfl, rfl⟩ := hsp
      cases h
      exact ⟨g, hq⟩
    · cases h
  · intro ⟨g, hq⟩
    exact ⟨_, hq, by simp⟩

/-- The statements of the default graph, newest first. -/
def defaultTriples (d : Dataset) : List Triple :=
  d.quads.filterMap fun q => if q.graph = none then some q.toTriple else none

theorem mem_defaultTriples {d : Dataset} {t : Triple} :
    t ∈ d.defaultTriples ↔ t.inDefault ∈ d := by
  simp only [defaultTriples, List.mem_filterMap, mem_quads]
  constructor
  · intro ⟨⟨t', g⟩, hq, h⟩
    split at h
    · rename_i hg
      cases h
      simp only at hg
      subst hg
      exact hq
    · cases h
  · intro h
    exact ⟨_, h, by simp [Triple.inDefault]⟩

/-- What the default graph says of a subject under a predicate, newest first. -/
def defaultObjects (d : Dataset) (s : Node) (p : Iri) : List Term :=
  d.defaultTriples.filterMap fun t =>
    if t.subject = s ∧ t.predicate = p then some t.object else none

/-- The nodes of which the default graph says a given object under a predicate, newest first. -/
def defaultSubjects (d : Dataset) (p : Iri) (o : Term) : List Node :=
  d.defaultTriples.filterMap fun t =>
    if t.predicate = p ∧ t.object = o then some t.subject else none

theorem mem_defaultObjects {d : Dataset} {s : Node} {p : Iri} {o : Term} :
    o ∈ d.defaultObjects s p ↔ (⟨s, p, o⟩ : Triple).inDefault ∈ d := by
  simp only [defaultObjects, List.mem_filterMap, mem_defaultTriples]
  constructor
  · intro ⟨⟨s', p', o'⟩, hq, h⟩
    split at h
    · rename_i hsp
      obtain ⟨rfl, rfl⟩ := hsp
      cases h
      exact hq
    · cases h
  · intro h
    exact ⟨_, h, by simp⟩

theorem mem_defaultSubjects {d : Dataset} {p : Iri} {o : Term} {s : Node} :
    s ∈ d.defaultSubjects p o ↔ (⟨s, p, o⟩ : Triple).inDefault ∈ d := by
  simp only [defaultSubjects, List.mem_filterMap, mem_defaultTriples]
  constructor
  · intro ⟨⟨s', p', o'⟩, hq, h⟩
    split at h
    · rename_i hsp
      obtain ⟨rfl, rfl⟩ := hsp
      cases h
      exact hq
    · cases h
  · intro h
    exact ⟨_, h, by simp⟩

end Dataset

end BuildingModel.Rdf
