import BuildingModel.Index
import BuildingModel.Rdf.Iri

/-!
# Class hierarchies

A hierarchy lists its classes in the order in which they were registered, the base class first. A
class is referred to by its place in that list, which is found by IRI and by name. It has one
primary parent, unless it is the base class, and may have other parents.
-/
namespace BuildingModel

open BuildingModel.Rdf

/-- The place of a class in its hierarchy. -/
structure ClassId where
  index : Nat
  deriving DecidableEq, Repr, Inhabited

/-- A class of the ontology with its parents. -/
structure ClassEntry where
  iri : Iri
  label : Option String
  definition : Option String
  parent : Option ClassId
  otherParents : List ClassId
  deriving DecidableEq, Repr

namespace ClassEntry

def name (c : ClassEntry) : String := c.iri.name

def displayLabel (c : ClassEntry) : String := c.label.getD c.name

/-- All parents, the primary one first. -/
def parents (c : ClassEntry) : List ClassId := c.parent.toList ++ c.otherParents

end ClassEntry

/-- The classes of an ontology in the order of registration. Of classes with one name the first is
found under it, of classes with one IRI the last. -/
structure Hierarchy where
  classes : List ClassEntry
  iriIndex : Index Iri
  nameIndex : Index String
  iriIndex_eq : iriIndex = .last (classes.map ClassEntry.iri)
  nameIndex_eq : nameIndex = .first (classes.map ClassEntry.name)
  deriving DecidableEq, Repr

namespace Hierarchy

@[ext] theorem ext {h h' : Hierarchy} (heq : h.classes = h'.classes) : h = h' := by
  obtain ⟨_, _, _, rfl, rfl⟩ := h
  obtain ⟨_, _, _, rfl, rfl⟩ := h'
  obtain rfl := heq
  rfl

def ofClasses (cs : List ClassEntry) : Hierarchy := ⟨cs, _, _, rfl, rfl⟩

@[simp] theorem classes_ofClasses (cs : List ClassEntry) : (ofClasses cs).classes = cs := rfl

variable (h : Hierarchy)

/-- The universal base class. -/
def base : ClassId := ⟨0⟩

def size : Nat := h.classes.length

/-- The class at a place. -/
def classAt? (c : ClassId) : Option ClassEntry := h.classes[c.index]?

def ids : List ClassId := (List.range h.size).map ClassId.mk

def byIri (iri : Iri) : Option ClassId :=
  (h.iriIndex.get? iri).map ClassId.mk

/-- The first class of a name. -/
def byName (name : String) : Option ClassId :=
  (h.nameIndex.get? name).map ClassId.mk

def nameOf (c : ClassId) : String :=
  ((h.classAt? c).map ClassEntry.name).getD ""

/-- The parents of a class, the primary one first. -/
def parentsOf (c : ClassId) : List ClassId :=
  ((h.classAt? c).map ClassEntry.parents).getD []

def parentOf? (c : ClassId) : Option ClassId :=
  (h.classAt? c).bind ClassEntry.parent

theorem mem_ids {c : ClassId} : c ∈ h.ids ↔ c.index < h.size := by
  simp only [ids, List.mem_map, List.mem_range]
  constructor
  · rintro ⟨i, hi, rfl⟩; exact hi
  · intro hc; exact ⟨c.index, hc, rfl⟩

theorem exists_classAt?_of_byIri {iri : Iri} {c : ClassId} (hc : h.byIri iri = some c) :
    ∃ e, h.classAt? c = some e ∧ e.iri = iri := by
  rw [byIri, iriIndex_eq] at hc
  obtain ⟨i, hi, rfl⟩ := Option.map_eq_some_iff.1 hc
  have hat := (Index.get?_last_eq_some_iff.1 hi).1
  rwa [List.getElem?_map, Option.map_eq_some_iff] at hat

theorem exists_classAt?_of_byName {name : String} {c : ClassId} (hc : h.byName name = some c) :
    ∃ e, h.classAt? c = some e ∧ e.name = name := by
  rw [byName, nameIndex_eq] at hc
  obtain ⟨i, hi, rfl⟩ := Option.map_eq_some_iff.1 hc
  have hat := (Index.get?_first_eq_some_iff.1 hi).1
  rwa [List.getElem?_map, Option.map_eq_some_iff] at hat

theorem byIri_isNone_iff {h : Hierarchy} {iri : Iri} :
    (h.byIri iri).isNone ↔ ∀ e ∈ h.classes, e.iri ≠ iri := by
  rw [byIri, Option.isNone_map, Option.isNone_iff_eq_none, iriIndex_eq,
    Index.get?_last_eq_none_iff]
  simp

end Hierarchy

end BuildingModel
