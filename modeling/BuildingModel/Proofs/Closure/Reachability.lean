import Mathlib.Logic.Relation
import Mathlib.Tactic

/-!
# Paths

Steps lead from an element to others, in a number of steps each. Paths are put together, cut in two
and led around an element.
-/
namespace BuildingModel

variable {α : Type} {step : α → List α} {a b : α}

/-- Steps lead from one element to another. -/
def LeadsTo (step : α → List α) : α → α → Prop :=
  Relation.ReflTransGen fun a b => b ∈ step a

theorem LeadsTo.refl (a : α) : LeadsTo step a a := Relation.ReflTransGen.refl

theorem LeadsTo.head {a b c : α} (hab : b ∈ step a) (hbc : LeadsTo step b c) :
    LeadsTo step a c := Relation.ReflTransGen.head hab hbc

/-- A number of steps leads from an element to another one. -/
inductive LeadsIn (step : α → List α) (a : α) : ℕ → α → Prop
  | zero : LeadsIn step a 0 a
  | succ {n : ℕ} {b c : α} (hab : LeadsIn step a n b) (hbc : c ∈ step b) : LeadsIn step a (n + 1) c

theorem leadsTo_iff_exists_leadsIn : LeadsTo step a b ↔ ∃ n, LeadsIn step a n b := by
  constructor
  · intro hab
    induction hab with
    | refl => exact ⟨0, .zero⟩
    | tail _ hbc ih =>
      obtain ⟨n, hn⟩ := ih
      exact ⟨n + 1, hn.succ hbc⟩
  · rintro ⟨n, hn⟩
    induction hn with
    | zero => exact .refl a
    | succ _ hbc ih => exact ih.tail hbc

/-- Two paths, one from the end of the other, make one path. -/
theorem LeadsIn.append {m n : ℕ} {c : α} (hab : LeadsIn step a m b) (hbc : LeadsIn step b n c) :
    LeadsIn step a (m + n) c := by
  induction hbc with
  | zero => exact hab
  | succ _ hcd ih => exact ih.succ hcd

/-- A path passes some element after each number of its steps. -/
theorem LeadsIn.exists_of_le {n k : ℕ} (hn : LeadsIn step a n b) (hk : k ≤ n) :
    ∃ c, LeadsIn step a k c ∧ LeadsIn step c (n - k) b := by
  induction hn with
  | zero =>
    obtain rfl := Nat.le_zero.1 hk
    exact ⟨a, .zero, .zero⟩
  | @succ n b c hab hbc ih =>
    rcases Nat.le_succ_iff.1 hk with hk | rfl
    · obtain ⟨x, hx, hxb⟩ := ih hk
      rw [Nat.succ_sub hk]
      exact ⟨x, hx, hxb.succ hbc⟩
    · rw [Nat.sub_self]
      exact ⟨c, hab.succ hbc, .zero⟩

/-- Where no element has a choice of steps, a number of steps leads to one element only. -/
theorem LeadsIn.unique (hstep : ∀ a, ∀ b ∈ step a, ∀ c ∈ step a, b = c) {n : ℕ} {c : α}
    (hb : LeadsIn step a n b) (hc : LeadsIn step a n c) : b = c := by
  induction hb generalizing c with
  | zero =>
    cases hc
    rfl
  | succ _ hbc ih =>
    cases hc with
    | succ hac hcc =>
      rw [ih hac] at hbc
      exact hstep _ _ hbc _ hcc

/-- A path to another element either passes a given element before its end or shows that there is a
way around it. -/
theorem LeadsIn.passes_or_avoids [DecidableEq α] {n : ℕ} {c : α} (hn : LeadsIn step a n b)
    (hbc : b ≠ c) :
    (∃ k < n, LeadsIn step a k c) ∨ LeadsTo (fun x => (step x).filter (· ≠ c)) a b := by
  induction hn with
  | zero => exact Or.inr (.refl a)
  | @succ n x y hax hxy ih =>
    by_cases hx : x = c
    · exact Or.inl ⟨n, n.lt_succ_self, hx ▸ hax⟩
    · rcases ih hx with ⟨k, hk, hkc⟩ | havoid
      · exact Or.inl ⟨k, by omega, hkc⟩
      · exact Or.inr (havoid.tail (List.mem_filter.2 ⟨hxy, by simpa using hbc⟩))

end BuildingModel
