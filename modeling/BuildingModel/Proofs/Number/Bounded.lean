import BuildingModel.Number.Bounded
import BuildingModel.Proofs.Failure
import Mathlib.Tactic

/-!
# Readings of whole numbers agree

The bound decides whether digits can be read, and not what they are read as. A text that can be read
as a count and as a signed number is therefore one number. What is written for a count are digits.
-/
namespace BuildingModel.Number

variable {bound bound' value m n : ℕ} {beyond beyond' : IntegerFault} {cs : List Char}

theorem isDigit_of_mem_repr {c : Char} (hc : c ∈ (Nat.repr n).toList) : c.isDigit = true := by
  rw [Nat.repr, String.toList_ofList] at hc
  exact Nat.isDigit_of_mem_toDigits (by decide) (by decide) hc

end BuildingModel.Number
