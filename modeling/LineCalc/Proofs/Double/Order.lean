import LineCalc.Proofs.Double.Display
import Mathlib.Order.WithBot

/-!
# Order of doubles

Doubles that are numbers are ordered like the exact numbers they stand for, with an infinity at
either end.  Doubles of the same rank are the same, except that the two zeros share one.
-/

namespace LineCalc.Double

variable {left right : Double}

/-- Where a number ranks among the exact numbers and the infinities. -/
def rank : Double → WithBot (WithTop Rat)
  | infinite true => ⊥
  | infinite false => ((⊤ : WithTop Rat) : WithBot (WithTop Rat))
  | number => ((number.toRat : WithTop Rat) : WithBot (WithTop Rat))

theorem rank_finite_lt_top {negative : Bool} {significand : Nat} {exponent : Int}
    (canonical : Canonical significand exponent) :
    (finite negative significand exponent canonical).rank < (infinite false).rank :=
  WithBot.coe_lt_coe.mpr (WithTop.coe_lt_top _)

theorem less_iff_rank (leftNumber : left ≠ nan) (rightNumber : right ≠ nan) :
    left.less right = true ↔ left.rank < right.rank := by
  match left, right with
  | nan, _ => exact absurd rfl leftNumber
  | _, nan => exact absurd rfl rightNumber
  | infinite negative, infinite other => cases negative <;> cases other <;> simp [less, rank]
  | infinite negative, finite .. => cases negative <;> simp [less, rank]
  | finite _ _ _ canonical, infinite false => simp [less, rank_finite_lt_top canonical]
  | finite .., infinite true => simp [less, rank]
  | finite .., finite .. => simp [less, rank]

theorem atMost_iff_rank (leftNumber : left ≠ nan) (rightNumber : right ≠ nan) :
    left.atMost right = true ↔ left.rank ≤ right.rank := by
  match left, right with
  | nan, _ => exact absurd rfl leftNumber
  | _, nan => exact absurd rfl rightNumber
  | infinite negative, infinite other => cases negative <;> cases other <;> simp [atMost, rank]
  | infinite negative, finite .. => cases negative <;> simp [atMost, rank]
  | finite _ _ _ canonical, infinite false => simp [atMost, (rank_finite_lt_top canonical).le]
  | finite .., infinite true => simp [atMost, rank]
  | finite .., finite .. => simp [atMost, rank]

theorem ne_nan_of_atMost (le : left.atMost right = true) : left ≠ nan ∧ right ≠ nan := by
  match left, right with
  | nan, _ | infinite _, nan | finite .., nan => exact absurd le nofun
  | infinite _, infinite _ | infinite _, finite .. | finite .., infinite _ | finite .., finite .. =>
      exact ⟨nofun, nofun⟩

theorem atMost_trans {middle : Double} (first : left.atMost middle = true)
    (second : middle.atMost right = true) : left.atMost right = true := by
  obtain ⟨leftNumber, middleNumber⟩ := ne_nan_of_atMost first
  obtain ⟨_, rightNumber⟩ := ne_nan_of_atMost second
  rw [atMost_iff_rank leftNumber rightNumber]
  exact ((atMost_iff_rank leftNumber middleNumber).mp first).trans
    ((atMost_iff_rank middleNumber rightNumber).mp second)

theorem atMost_iff_not_less (leftNumber : left ≠ nan) (rightNumber : right ≠ nan) :
    left.atMost right = true ↔ ¬ right.less left = true := by
  rw [atMost_iff_rank leftNumber rightNumber, less_iff_rank rightNumber leftNumber, not_lt]

theorem rank_finite {number : Double} (bounded : number.isFinite = true) :
    number.rank = ((number.toRat : WithTop Rat) : WithBot (WithTop Rat)) := by
  match number with
  | nan | infinite _ => exact absurd bounded nofun
  | finite .. => rfl

theorem rank_le_rank_iff (leftFinite : left.isFinite = true) (rightFinite : right.isFinite = true) :
    left.rank ≤ right.rank ↔ left.toRat ≤ right.toRat := by
  rw [rank_finite leftFinite, rank_finite rightFinite, WithBot.coe_le_coe, WithTop.coe_le_coe]

theorem ne_nan_of_finite (bounded : left.isFinite = true) : left ≠ nan := by
  rintro rfl
  exact absurd bounded nofun

theorem atMost_iff_toRat (leftFinite : left.isFinite = true) (rightFinite : right.isFinite = true) :
    left.atMost right = true ↔ left.toRat ≤ right.toRat := by
  rw [atMost_iff_rank (ne_nan_of_finite leftFinite) (ne_nan_of_finite rightFinite),
    rank_le_rank_iff leftFinite rightFinite]

/-- Changing signs turns the order around. -/
theorem rank_neg_le_rank_neg (leftNumber : left ≠ nan) (rightNumber : right ≠ nan) :
    left.neg.rank ≤ right.neg.rank ↔ right.rank ≤ left.rank := by
  match left, right with
  | nan, _ => exact absurd rfl leftNumber
  | _, nan => exact absurd rfl rightNumber
  | infinite negative, infinite other => cases negative <;> cases other <;> simp [rank, neg]
  | infinite negative, finite .. | finite .., infinite negative =>
      cases negative <;> simp [rank, neg]
  | finite .., finite .. =>
      rw [rank_le_rank_iff rfl rfl, rank_le_rank_iff rfl rfl, toRat_neg, toRat_neg, neg_le_neg_iff]

/-! ## Doubles of the same rank -/

/-- The doubles are the same, or both are zeros. -/
def Alike (left right : Double) : Prop :=
  left = right ∨ ∃ negative other, left = zero negative ∧ right = zero other

theorem alike_refl (number : Double) : number.Alike number :=
  .inl rfl

theorem toRat_zero (negative : Bool) : (zero negative).toRat = 0 := by
  cases negative <;> simp [zero, toRat]

theorem neg_neg_eq (number : Double) : number.neg.neg = number := by
  match number with
  | nan => rfl
  | infinite negative | finite negative .. => cases negative <;> rfl

theorem eq_of_toRat_eq (positive : 0 < left.toRat) (same : left.toRat = right.toRat) :
    left = right := by
  have otherPositive := same ▸ positive
  obtain ⟨_, _, canonical, _, rfl⟩ := exists_of_toRat_pos positive
  obtain ⟨_, _, other, _, rfl⟩ := exists_of_toRat_pos otherPositive
  obtain ⟨rfl, rfl⟩ := canonical.unique other same
  rfl

theorem exists_eq_zero (leftFinite : left.isFinite = true) (none : left.toRat = 0) :
    ∃ negative, left = zero negative := by
  cases left.kind with
  | nan | infinite => exact absurd leftFinite nofun
  | zero negative => exact ⟨negative, rfl⟩
  | positive positive => exact absurd none positive.ne'
  | negative positive =>
      rw [toRat_neg] at none
      linarith

theorem alike_of_toRat_eq (leftFinite : left.isFinite = true) (rightFinite : right.isFinite = true)
    (same : left.toRat = right.toRat) : left.Alike right := by
  cases left.kind with
  | nan | infinite => exact absurd leftFinite nofun
  | zero negative =>
      obtain ⟨other, rfl⟩ := exists_eq_zero rightFinite (same.symm.trans (toRat_zero negative))
      exact .inr ⟨negative, other, rfl, rfl⟩
  | positive positive => exact .inl (eq_of_toRat_eq positive same)
  | @negative left positive =>
      have opposite : left.toRat = right.neg.toRat := by
        rw [toRat_neg] at same ⊢
        linarith
      rw [eq_of_toRat_eq positive opposite, neg_neg_eq]
      exact alike_refl right

theorem alike_of_rank_eq (leftNumber : left ≠ nan) (rightNumber : right ≠ nan)
    (same : left.rank = right.rank) : left.Alike right := by
  match left, right with
  | nan, _ => exact absurd rfl leftNumber
  | _, nan => exact absurd rfl rightNumber
  | infinite false, infinite false | infinite true, infinite true => exact alike_refl _
  | infinite false, infinite true | infinite true, infinite false => simp [rank] at same
  | infinite negative, finite _ _ _ canonical =>
      cases negative with
      | false => exact absurd same (rank_finite_lt_top canonical).ne'
      | true => simp [rank] at same
  | finite _ _ _ canonical, infinite negative =>
      cases negative with
      | false => exact absurd same (rank_finite_lt_top canonical).ne
      | true => simp [rank] at same
  | finite .., finite .. => exact alike_of_toRat_eq rfl rfl (by simpa [rank] using same)

end LineCalc.Double
