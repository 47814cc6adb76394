import BuildingModel.Closure
import BuildingModel.Hierarchy.Basic

/-!
# Distances in a hierarchy

The ancestors of a class along primary parents, and the number of steps from a class to one above it
along parents of either kind.
-/
namespace BuildingModel.Hierarchy

variable (h : Hierarchy)

/-- The classes above one along primary parents, when some have been passed; a class passed before
ends the chain. -/
def chainAbove : Nat → List ClassId → ClassId → List ClassId
  | 0, _, _ => []
  | steps + 1, passed, c =>
    match h.parentOf? c with
    | none => []
    | some p => if p ∈ passed then [] else p :: chainAbove steps (p :: passed) p

/-- A class and the classes above it along primary parents. -/
def ancestors (c : ClassId) : List ClassId :=
  c :: h.chainAbove h.size [c] c

theorem mem_flatMap_parents {c p : ClassId} (hp : p ∈ h.parentsOf c) :
    p ∈ h.classes.flatMap ClassEntry.parents := by
  unfold parentsOf at hp
  cases he : h.classAt? c with
  | none => simp [he] at hp
  | some e =>
    rw [he] at hp
    exact List.mem_flatMap.2 ⟨e, List.mem_of_getElem? he, hp⟩

/-- The steps from classes to their parents of either kind. -/
def parentSteps : Steps ClassId where
  next := h.parentsOf
  targets := h.classes.flatMap ClassEntry.parents
  mem_targets := h.mem_flatMap_parents

/-- The least number of steps along parents from a class to another. -/
def distance? (c a : ClassId) : Option Nat :=
  h.parentSteps.distance? c a

/-- Whether a class is another one or below it. -/
def isSubclass (c a : ClassId) : Bool :=
  (h.distance? c a).isSome

end BuildingModel.Hierarchy
