import LineCalc.Proofs.Decimal.Display
import LineCalc.Proofs.Decimal.Spelling

/-!
# Reading what is displayed

The text of a decimal is read as that decimal, whichever of the two notations it has.  Zeros that
stand for a positive exponent are read as digits.
-/

namespace LineCalc

namespace Decimal

theorem shift_zero (decimal : Decimal) : decimal.shift 0 = decimal := by
  rw [shift, Int.add_zero]

end Decimal

/-! ## Numbers without signs and exponents -/

namespace Spelling

/-- A number as literals have it. -/
def number (whole : Run Char.isDigit) (places : Option (Run Char.isDigit)) : Spelling :=
  ⟨.absent, .leading whole (places.map fun run => ⟨run.characters, run.all⟩), none⟩

variable (whole : Run Char.isDigit) (places : Option (Run Char.isDigit))

theorem magnitude_number :
    (number whole places).magnitude = (Token.number whole places).characters := by
  cases places <;> exact List.append_nil _

theorem characters_number :
    (number whole places).characters = (Token.number whole places).characters :=
  magnitude_number whole places

theorem decimal_number :
    (number whole places).decimal =
      .ofDigits whole.characters (places.elim [] Run.characters) := by
  cases places <;> exact Decimal.shift_zero _

theorem taken_number :
    (number whole places).taken =
      .ofDigits whole.characters (places.elim [] Run.characters) :=
  decimal_number whole places

end Spelling

namespace Decimal

/-- The text of a number is read as its digits write it. -/
theorem ofText?_number (whole : Run Char.isDigit) (places : Option (Run Char.isDigit)) :
    ofText? (Token.number whole places).characters =
      some (ofDigits whole.characters (places.elim [] Run.characters)) := by
  rw [← Spelling.magnitude_number, ofText?_magnitude, Spelling.taken_number]

/-! ## Notation with a point -/

/-- The decimal with zeros among its digits in place of a positive exponent. -/
def spread (decimal : Decimal) : Decimal :=
  if 0 ≤ decimal.exponent then ⟨decimal.digits * Nat.pow 10 decimal.exponent.toNat, 0⟩ else decimal

section Positional

variable {decimal : Decimal}

theorem positional_of_nonneg (whole : 0 ≤ decimal.exponent) :
    decimal.positional =
      Nat.toDigits 10 decimal.digits ++ List.replicate decimal.exponent.toNat '0' :=
  if_pos whole

/-- The point stands among the digits. -/
theorem positional_of_inside {place : Nat} (fraction : decimal.exponent < 0)
    (within : 0 < place)
    (inside : decimal.exponent + (Nat.toDigits 10 decimal.digits).length = place) :
    decimal.positional = (Nat.toDigits 10 decimal.digits).take place ++
      '.' :: (Nat.toDigits 10 decimal.digits).drop place := by
  have split : (Nat.toDigits 10 decimal.digits).length - (-decimal.exponent).toNat = place := by
    omega
  unfold positional
  dsimp only
  rw [if_neg (by omega), if_pos (by omega), split]

/-- The point stands before the digits, and some zeros behind it. -/
theorem positional_of_outside {zeros : Nat} (fraction : decimal.exponent < 0)
    (outside : decimal.exponent + (Nat.toDigits 10 decimal.digits).length = -zeros) :
    decimal.positional =
      '0' :: '.' :: (List.replicate zeros '0' ++ Nat.toDigits 10 decimal.digits) := by
  have padding : (-decimal.exponent).toNat - (Nat.toDigits 10 decimal.digits).length = zeros := by
    omega
  unfold positional
  dsimp only
  rw [if_neg (by omega), if_neg (by omega), padding]

/-- With a point and zeros where needed, a decimal is written as a number of the language. -/
theorem exists_positional (decimal : Decimal) :
    ∃ (whole : Run Char.isDigit) (places : Option (Run Char.isDigit)),
      decimal.positional = (Token.number whole places).characters ∧
        ofDigits whole.characters (places.elim [] Run.characters) = decimal.spread := by
  have digits := isDigit_toDigits decimal.digits
  have nonempty : Nat.toDigits 10 decimal.digits ≠ [] := Nat.toDigits_ne_nil
  have read := readWhole_toDigits decimal.digits
  rcases Int.lt_or_le decimal.exponent 0 with fraction | whole
  · have spread : decimal.spread = decimal := if_neg (Int.not_le.mpr fraction)
    rw [spread]
    rcases Int.lt_or_le 0 (decimal.exponent + (Nat.toDigits 10 decimal.digits).length) with
      inside | outside
    · obtain ⟨place, point⟩ := Int.eq_ofNat_of_zero_le (Int.le_of_lt inside)
      rw [positional_of_inside fraction (by omega) point]
      refine ⟨⟨(Nat.toDigits 10 decimal.digits).take place, ?_,
          fun _ member => digits _ (List.mem_of_mem_take member)⟩,
        some ⟨(Nat.toDigits 10 decimal.digits).drop place, ?_,
          fun _ member => digits _ (List.mem_of_mem_drop member)⟩, rfl, ?_⟩
      · exact List.ne_nil_of_length_pos (by rw [List.length_take]; omega)
      · exact List.ne_nil_of_length_pos (by rw [List.length_drop]; omega)
      · have last : -((Nat.toDigits 10 decimal.digits).drop place).length =
            decimal.exponent := by
          rw [List.length_drop]
          omega
        simp only [ofDigits, Option.elim_some, List.take_append_drop, read, last]
    · obtain ⟨zeros, point⟩ := Int.eq_ofNat_of_zero_le (Int.neg_nonneg_of_nonpos outside)
      have before :
          decimal.exponent + (Nat.toDigits 10 decimal.digits).length = -(zeros : Int) := by
        omega
      rw [positional_of_outside fraction before]
      refine ⟨⟨['0'], by decide, forall_mem_of_all (by decide)⟩,
        some ⟨List.replicate zeros '0' ++ Nat.toDigits 10 decimal.digits, by simp [nonempty],
          List.forall_mem_append.mpr ⟨isDigit_zeros _, digits⟩⟩, rfl, ?_⟩
      have padded := readWhole_zeros_append (zeros + 1) (Nat.toDigits 10 decimal.digits)
      have last : -(List.replicate zeros '0' ++ Nat.toDigits 10 decimal.digits).length =
          decimal.exponent := by
        rw [List.length_append, List.length_replicate]
        omega
      simp only [ofDigits, Option.elim_some, last, List.singleton_append]
      rw [← List.cons_append, ← List.replicate_succ, padded, read]
  · rw [positional_of_nonneg whole, spread, if_pos whole]
    refine ⟨⟨Nat.toDigits 10 decimal.digits ++ List.replicate decimal.exponent.toNat '0',
      by simp [nonempty], List.forall_mem_append.mpr ⟨digits, isDigit_zeros _⟩⟩, none, rfl, ?_⟩
    simp [ofDigits, readWhole_append_zeros, read]

end Positional

/-! ## Notation with an exponent -/

end Decimal

namespace Exponent

/-- A whole number with its sign as an exponent. -/
def ofInt (power : Int) : Exponent where
  mark := 'e'
  marks := .inl rfl
  sign := if power < 0 then .minus else .plus
  digits := ⟨Nat.toDigits 10 power.natAbs, Nat.toDigits_ne_nil, isDigit_toDigits _⟩

variable {power : Int}

theorem characters_ofInt (power : Int) :
    (ofInt power).characters =
      'e' :: (if power < 0 then '-' else '+') :: Nat.toDigits 10 power.natAbs := by
  unfold characters ofInt
  by_cases negative : power < 0
  · rw [if_pos negative, if_pos negative]
    rfl
  · rw [if_neg negative, if_neg negative]
    rfl

theorem value_ofInt (power : Int) : (ofInt power).value = power := by
  unfold value ofInt
  dsimp only
  rw [readWhole_toDigits]
  by_cases negative : power < 0
  · rw [if_pos negative]
    change -(power.natAbs : Int) = power
    omega
  · rw [if_neg negative]
    change (power.natAbs : Int) = power
    omega

theorem taken_ofInt (near : power.natAbs < 65536) : (ofInt power).taken = power := by
  have written := readWhole_toDigits power.natAbs
  have heeded : Decimal.heeded (ofInt power).digits.characters = (ofInt power).digits.characters := by
    rcases Decimal.heeded_cases (Nat.toDigits 10 power.natAbs) with all | ⟨_, far⟩
    · exact all
    · omega
  rw [taken, heeded]
  exact value_ofInt power

end Exponent

namespace Decimal

/-- With an exponent, a decimal is read as it is, unless the exponent is out of bounds. -/
theorem ofText?_scientific {decimal : Decimal} {first : Char} {others : List Char}
    (written : Nat.toDigits 10 decimal.digits = first :: others)
    (near : (decimal.exponent + others.length).natAbs < 65536) :
    ofText? decimal.scientific = some decimal := by
  have digits := isDigit_toDigits decimal.digits
  have read := readWhole_toDigits decimal.digits
  rw [written] at digits read
  obtain ⟨firstDigit, otherDigits⟩ := List.forall_mem_cons.mp digits
  let whole : Run Char.isDigit :=
    ⟨[first], List.cons_ne_nil _ _, List.forall_mem_singleton.mpr firstDigit⟩
  let figures : Figures := .leading whole (if others = [] then none else some ⟨others, otherDigits⟩)
  let exponent := Exponent.ofInt (decimal.exponent + others.length)
  have text : figures.characters ++ exponent.characters = decimal.scientific := by
    rw [scientific, written, Exponent.characters_ofInt]
    cases others <;> rfl
  have value : figures.decimal = ofDigits [first] others := by
    cases others <;> rfl
  have moved : (ofDigits [first] others).shift (decimal.exponent + others.length) = decimal := by
    simp only [ofDigits, shift, List.singleton_append, read]
    congr 1
    omega
  have spelled := ofText?_magnitude ⟨.absent, figures, some exponent⟩
  rw [Spelling.magnitude, Spelling.taken, Option.elim_some, Option.elim_some,
    Exponent.taken_ofInt near, text, value, moved] at spelled
  exact spelled

end Decimal

end LineCalc
