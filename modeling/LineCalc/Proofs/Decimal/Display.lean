import LineCalc.Decimal.Display

/-!
# Characters of numbers

The texts of numbers are made of digits, of marks and of the letters of the words for special
values.
-/

namespace LineCalc

/-- The characters besides digits that texts of numbers are made of. -/
def numberMarks : List Char :=
  ['.', 'e', '+', '-'] ++ "NaN".toList ++ "Infinity".toList

/-- Are all characters of a text digits, or marks and letters that texts of numbers have? -/
def Numeric (text : List Char) : Prop :=
  ∀ character ∈ text, character.isDigit = true ∨ character ∈ numberMarks

instance (text : List Char) : Decidable (Numeric text) :=
  List.decidableBAll _ text

namespace Numeric

variable {left right : List Char}

theorem append (leftNumeric : Numeric left) (rightNumeric : Numeric right) :
    Numeric (left ++ right) :=
  List.forall_mem_append.mpr ⟨leftNumeric, rightNumeric⟩

theorem of_subset (subset : left ⊆ right) (numeric : Numeric right) : Numeric left :=
  fun character member => numeric character (subset member)

theorem toDigits (number : Nat) : Numeric (Nat.toDigits 10 number) :=
  fun _ member => .inl (Nat.isDigit_of_mem_toDigits (by decide) (by decide) member)

theorem zeros (count : Nat) : Numeric (List.replicate count '0') := by
  intro character member
  obtain rfl := List.eq_of_mem_replicate member
  exact .inl (by decide)

end Numeric

namespace Decimal

theorem numeric_positional (decimal : Decimal) : Numeric decimal.positional := by
  have digits := Numeric.toDigits decimal.digits
  unfold positional
  dsimp only
  split
  · exact digits.append (.zeros _)
  · split
    · have point : Numeric ['.'] := by decide
      exact .append (digits.of_subset (List.take_subset _ _))
        (point.append (digits.of_subset (List.drop_subset _ _)))
    · have point : Numeric ['0', '.'] := by decide
      exact point.append (.append (.zeros _) digits)

theorem numeric_scientific (decimal : Decimal) : Numeric decimal.scientific := by
  have digits := Numeric.toDigits decimal.digits
  unfold scientific
  cases written : Nat.toDigits 10 decimal.digits with
  | nil => exact nofun
  | cons first others =>
      rw [written] at digits
      have point : Numeric ['.'] := by decide
      have sign : Numeric ['e', if decimal.exponent + others.length < 0 then '-' else '+'] := by
        split <;> decide
      have leading : Numeric [first] := digits.of_subset (by simp)
      have places : Numeric (if others = [] then [] else '.' :: others) := by
        split
        · exact nofun
        · exact point.append (digits.of_subset (List.subset_cons_self _ _))
      exact (leading.append places).append (sign.append (.toDigits _))

end Decimal

namespace Double

theorem numeric_displayMagnitude (number : Double) : Numeric number.displayMagnitude := by
  unfold displayMagnitude
  split
  · exact Decimal.numeric_scientific _
  · split
    · exact .toDigits _
    · exact Decimal.numeric_positional _

/-- The text of a number is made of digits, marks and the letters of special values. -/
theorem numeric_display (number : Double) : Numeric number.display.toList := by
  unfold display
  split
  · decide
  · split <;> decide
  · split
    · decide
    · split
      · have minus : Numeric ['-'] := by decide
        rw [String.toList_ofList]
        exact minus.append (numeric_displayMagnitude _)
      · rw [String.toList_ofList]
        exact numeric_displayMagnitude _

end Double

end LineCalc
