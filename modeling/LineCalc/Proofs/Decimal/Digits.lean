import Mathlib.Data.List.Basic
import Mathlib.Data.List.Infix
import LineCalc.Decimal.Reading

/-!
# Digits

What digits write, and what is read of them where they are the digits of an exponent.
-/

namespace LineCalc

theorem readWhole_toDigits (number : Nat) : readWhole (Nat.toDigits 10 number) = number := by
  rw [readWhole_eq, Nat.ofDigitChars_ten_toDigits]

theorem readWhole_append (digits others : List Char) :
    readWhole (digits ++ others) =
      readWhole digits * Nat.pow 10 others.length + readWhole others := by
  rw [readWhole_eq, readWhole_eq, readWhole_eq, Nat.ofDigitChars_append,
    Nat.ofDigitChars_eq_ofDigitChars_zero, Nat.mul_comm]
  rfl

theorem readWhole_append_zeros (digits : List Char) (count : Nat) :
    readWhole (digits ++ List.replicate count '0') = readWhole digits * Nat.pow 10 count := by
  rw [readWhole_eq, readWhole_eq, Nat.ofDigitChars_append, Nat.ofDigitChars_replicate_zero,
    Nat.mul_comm]
  rfl

theorem readWhole_zeros_append (count : Nat) (digits : List Char) :
    readWhole (List.replicate count '0' ++ digits) = readWhole digits := by
  rw [readWhole_eq, readWhole_eq, Nat.ofDigitChars_append, Nat.ofDigitChars_replicate_zero,
    Nat.mul_zero]

theorem isDigit_toDigits (number : Nat) :
    ∀ character ∈ Nat.toDigits 10 number, character.isDigit = true :=
  fun _ => Nat.isDigit_of_mem_toDigits (by decide) (by decide)

theorem isDigit_zeros (count : Nat) :
    ∀ character ∈ List.replicate count '0', character.isDigit = true := by
  intro character member
  obtain rfl := List.eq_of_mem_replicate member
  decide

/-! ## Digits of exponents -/

namespace Decimal

/-- The digits of an exponent up to the one with which they reach `65536`; all of them if they never
do. -/
def heeded (digits : List Char) : List Char :=
  (digits.inits.find? fun begun => 65536 ≤ readWhole begun).getD digits

/-- The induction is on the digits that are left; those before them have been read. -/
theorem exponentMagnitude_foldl (digits before : List Char) :
    digits.foldl
        (fun magnitude digit =>
          if magnitude < 65536 then 10 * magnitude + (digit.toNat - '0'.toNat) else magnitude)
        (readWhole before) =
      readWhole (((digits.inits.map (before ++ ·)).find? fun begun => 65536 ≤ readWhole begun).getD
        (before ++ digits)) := by
  induction digits generalizing before with
  | nil =>
      by_cases reached : 65536 ≤ readWhole before
      · simp [reached]
      · simp [reached]
  | cons digit others ih =>
      have next : 10 * readWhole before + (digit.toNat - '0'.toNat) =
          readWhole (before ++ [digit]) := by
        rw [readWhole_eq, readWhole_eq, Nat.ofDigitChars_append]
        rfl
      by_cases reached : 65536 ≤ readWhole before
      · rw [List.foldl_fixed' fun _ => if_neg (Nat.not_lt.mpr reached)]
        simp [reached]
      · rw [List.foldl_cons, if_pos (Nat.not_le.mp reached), next, ih]
        simp [List.map_map, Function.comp_def, reached]

/-- What is read of an exponent is what the heeded digits write. -/
theorem exponentMagnitude_eq (digits : List Char) :
    exponentMagnitude digits = readWhole (heeded digits) := by
  have read : exponentMagnitude digits = _ := exponentMagnitude_foldl digits []
  rw [read]
  simp only [List.nil_append, List.map_id']
  rfl

/-- Only of an exponent that is ten times the bound are digits not heeded. -/
theorem heeded_cases (digits : List Char) :
    heeded digits = digits ∨ 65536 ≤ readWhole (heeded digits) ∧ 655360 ≤ readWhole digits := by
  unfold heeded
  cases found : digits.inits.find? fun begun => 65536 ≤ readWhole begun with
  | none => exact .inl rfl
  | some begun =>
      have reached : 65536 ≤ readWhole begun := by simpa using List.find?_some found
      obtain ⟨others, rfl⟩ := (List.mem_inits _ _).mp (List.mem_of_find?_eq_some found)
      cases others with
      | nil => exact .inl (List.append_nil begun).symm
      | cons digit others =>
          refine .inr ⟨reached, ?_⟩
          have power : 10 ≤ Nat.pow 10 (digit :: others).length :=
            Nat.le_self_pow (Nat.succ_ne_zero _) 10
          calc 655360 = 65536 * 10 := rfl
            _ ≤ readWhole begun * Nat.pow 10 (digit :: others).length :=
              Nat.mul_le_mul reached power
            _ ≤ readWhole (begun ++ digit :: others) := by
              rw [readWhole_append]
              exact Nat.le_add_right _ _

end Decimal

end LineCalc
