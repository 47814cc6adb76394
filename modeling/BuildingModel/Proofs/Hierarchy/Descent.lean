import BuildingModel.Hierarchy.Distance
import BuildingModel.Proofs.Closure.Layers

/-!
# Descent

A class descends from another one if parents of either kind lead to it, and its distance from it is
the length of the shortest chain of parents. The search in breadth decides both for every hierarchy,
one with cycles included.
-/
namespace BuildingModel.Hierarchy

variable {h : Hierarchy} {c a : ClassId} {m : ℕ}

/-- Parents lead from a class to another one. -/
def Descends (h : Hierarchy) : ClassId → ClassId → Prop := LeadsTo h.parentsOf

/-- A number of steps along parents leads from a class to another one. -/
def StepsUp (h : Hierarchy) (k : ℕ) (c a : ClassId) : Prop := LeadsIn h.parentsOf c k a

/-- The shortest chain of parents from a class to another one has a given length. -/
def IsDistance (h : Hierarchy) (c a : ClassId) (m : ℕ) : Prop := IsLeast {k | h.StepsUp k c a} m

theorem descends_iff_exists_stepsUp : h.Descends c a ↔ ∃ k, h.StepsUp k c a :=
  leadsTo_iff_exists_leadsIn

theorem isSubclass_iff : h.isSubclass c a = true ↔ h.Descends c a := by
  rw [isSubclass, distance?, Steps.isSome_distance?]
  exact Steps.mem_reached_iff

theorem distance?_eq_some_iff : h.distance? c a = some m ↔ h.IsDistance c a m :=
  Steps.distance?_eq_some_iff

theorem distance?_eq_none_iff : h.distance? c a = none ↔ ¬ h.Descends c a := by
  rw [← isSubclass_iff, isSubclass, Bool.not_eq_true, Option.isSome_eq_false_iff,
    Option.isNone_iff_eq_none]

instance : Decidable (h.IsDistance c a m) := decidable_of_iff _ distance?_eq_some_iff

end BuildingModel.Hierarchy
