import BuildingModel.Number.Binary
import Mathlib.Tactic

/-!
# Values of binary numbers

A finite number stands for a rational number and an infinity for an end of the number line. What is
no number stands for nothing. Where two numbers have values, comparing the numbers compares these.
-/
namespace BuildingModel.Number.Binary

/-- The value of a number, between the two infinities. -/
def value? : Binary → Option (WithBot (WithTop ℚ))
  | .nan => none
  | .infinity negative => some (if negative then ⊥ else ⊤)
  | .finite negative significand exponent =>
    some (((if negative then -1 else 1) * significand * 2 ^ exponent : ℚ) : WithTop ℚ)

@[simp] theorem value?_eq_none_iff {x : Binary} : x.value? = none ↔ x = .nan := by
  cases x <;> simp [value?]

theorem signedRatio_pos (negative : Bool) (significand : ℕ) (exponent : ℤ) :
    0 < (signedRatio negative significand exponent).2 := by
  cases exponent with
  | ofNat k => exact Nat.one_pos
  | negSucc k =>
    rw [signedRatio, ratio, shiftRatio, one_mul]
    exact Nat.pow_pos Nat.two_pos

/-- The numerator and denominator of a finite number make its value. -/
theorem signedRatio_div (negative : Bool) (significand : ℕ) (exponent : ℤ) :
    ((signedRatio negative significand exponent).1 : ℚ) /
        (signedRatio negative significand exponent).2 =
      (if negative then -1 else 1) * significand * 2 ^ exponent := by
  have hmagnitude : ((ratio significand exponent).1 : ℚ) / (ratio significand exponent).2 =
      significand * 2 ^ exponent := by
    cases exponent with
    | ofNat k => simp [ratio, shiftRatio]
    | negSucc k => simp [ratio, shiftRatio, zpow_negSucc, div_eq_mul_inv]
  have hsign : ((signedRatio negative significand exponent).1 : ℚ) =
      (if negative then -1 else 1) * (ratio significand exponent).1 := by
    cases negative <;> simp [signedRatio]
  have hdenominator : (signedRatio negative significand exponent).2 =
      (ratio significand exponent).2 := rfl
  rw [hsign, hdenominator, mul_div_assoc, hmagnitude, mul_assoc]

/-- Of two numbers with values the one with the smaller value is below the other. -/
theorem lt_iff_value_lt {x y : Binary} {a b : WithBot (WithTop ℚ)} (hx : x.value? = some a)
    (hy : y.value? = some b) : x.lt y = true ↔ a < b := by
  cases x with
  | nan => cases hx
  | infinity n =>
    cases y with
    | nan => cases hy
    | infinity m =>
      cases hx
      cases hy
      cases n <;> cases m <;> simp [lt]
    | finite m t f =>
      cases hx
      cases hy
      cases n <;> simp [lt]
  | finite n s e =>
    cases y with
    | nan => cases hy
    | infinity m =>
      cases hx
      cases hy
      cases m with
      | false => exact iff_of_true rfl (WithBot.coe_lt_coe.2 (WithTop.coe_lt_top _))
      | true => simp [lt]
    | finite m t f =>
      cases hx
      cases hy
      have hpos : (0 : ℚ) < (signedRatio n s e).2 := by exact_mod_cast signedRatio_pos n s e
      have hpos' : (0 : ℚ) < (signedRatio m t f).2 := by exact_mod_cast signedRatio_pos m t f
      rw [lt, decide_eq_true_iff, WithBot.coe_lt_coe, WithTop.coe_lt_coe, ← signedRatio_div,
        ← signedRatio_div, div_lt_div_iff₀ hpos hpos']
      norm_cast

end BuildingModel.Number.Binary
