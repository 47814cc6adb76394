import BuildingModel.Proofs.Hierarchy.Descent

/-!
# Shortest chains of parents

The distance between two classes is the length of the shortest chain of parents from one to the
other, whether parents run in cycles or not. Chains can be put one after the other, so being a
subclass is a preorder, and a distance is no longer than a detour.
-/
namespace BuildingModel.Hierarchy

variable {h : Hierarchy} {a b c : ClassId} {m n : ℕ}

theorem mem_parentsOf_iff {p : ClassId} :
    p ∈ h.parentsOf c ↔ ∃ e, h.classAt? c = some e ∧ (e.parent = some p ∨ p ∈ e.otherParents) := by
  cases he : h.classAt? c with
  | none => simp [parentsOf, he]
  | some e => simp [parentsOf, he, ClassEntry.parents]

/-- Each chain of parents is as long as the distance or longer. -/
theorem exists_distance?_le_of_stepsUp (hn : h.StepsUp n c a) :
    ∃ k ≤ n, h.distance? c a = some k := by
  cases hk : h.distance? c a with
  | none => exact absurd (descends_iff_exists_stepsUp.2 ⟨n, hn⟩) (distance?_eq_none_iff.1 hk)
  | some k => exact ⟨k, (distance?_eq_some_iff.1 hk).2 hn, rfl⟩

theorem isSubclass_refl (h : Hierarchy) (c : ClassId) : h.isSubclass c c = true :=
  isSubclass_iff.2 (.refl c)

theorem isSubclass_trans (hcb : h.isSubclass c b = true) (hba : h.isSubclass b a = true) :
    h.isSubclass c a = true :=
  isSubclass_iff.2 ((isSubclass_iff.1 hcb).trans (isSubclass_iff.1 hba))

/-- The way through a third class is no shorter. -/
theorem exists_distance?_le_add (hcb : h.distance? c b = some m) (hba : h.distance? b a = some n) :
    ∃ k ≤ m + n, h.distance? c a = some k := by
  have hup : h.StepsUp m c b := (distance?_eq_some_iff.1 hcb).1
  exact exists_distance?_le_of_stepsUp (hup.append (distance?_eq_some_iff.1 hba).1)

/-- The distance from a class to another one is the least number of steps to a primary or further
parent that lead there, and there is none if no number of steps does. So every class is a subclass
of itself and of what its superclasses are subclasses of, and no distance exceeds the sum of the two
by way of a third class. -/
theorem distance?_is_shortest (h : Hierarchy) :
    (∀ c p, h.StepsUp 1 c p ↔
      ∃ e, h.classAt? c = some e ∧ (e.parent = some p ∨ p ∈ e.otherParents)) ∧
    (∀ c a n, h.distance? c a = some n ↔ IsLeast {k | h.StepsUp k c a} n) ∧
    (∀ c a, h.distance? c a = none ↔ ∀ k, ¬ h.StepsUp k c a) ∧
    (∀ c a, h.isSubclass c a = true ↔ ∃ k, h.StepsUp k c a) ∧
    (∀ c, h.isSubclass c c = true) ∧
    (∀ c b a, h.isSubclass c b = true → h.isSubclass b a = true → h.isSubclass c a = true) ∧
    ∀ c b a m n, h.distance? c b = some m → h.distance? b a = some n →
      ∃ k ≤ m + n, h.distance? c a = some k := by
  refine ⟨?_, fun _ _ _ => distance?_eq_some_iff, ?_, ?_, isSubclass_refl h,
    fun _ _ _ => isSubclass_trans, fun _ _ _ _ _ => exists_distance?_le_add⟩
  · intro c p
    rw [← mem_parentsOf_iff]
    constructor
    · rintro (_ | ⟨⟨⟩, hp⟩)
      exact hp
    · exact LeadsIn.zero.succ
  · intro c a
    rw [distance?_eq_none_iff, descends_iff_exists_stepsUp, not_exists]
  · intro c a
    rw [isSubclass_iff, descends_iff_exists_stepsUp]

/-- Two classes that are parents of each other, below the base class. -/
example : (ofClasses [⟨⟨"urn:a#Entity"⟩, none, none, none, []⟩,
    ⟨⟨"urn:a#Valve"⟩, none, none, some ⟨0⟩, [⟨2⟩]⟩,
    ⟨⟨"urn:a#Tap"⟩, none, none, some ⟨1⟩, []⟩]).distance? ⟨1⟩ ⟨2⟩ = some 1 := by
  decide +kernel

end BuildingModel.Hierarchy
