import LineCalc.Builtin.Call
import LineCalc.Proofs.Double.HalfUp
import Mathlib.Data.Nat.Factorial.Basic
import Mathlib.Data.Nat.Find

/-!
# Factorials

Nothing but its own condition ends the loop that multiplies a product by the whole numbers up to a
limit.  The counter alone gives no bound, as the limit may be infinite, or so large that a counter
of that size cannot grow.  But the product overflows when 171 numbers have been multiplied, and up
to there the counter is exact.  The number of turns is therefore the number of whole numbers from
one to 171 that are not above the limit, and the result is the product of as many.
-/

namespace LineCalc.Double

variable {limit counter product result number : Double} {turns steps count other : Nat}

/-! ## The loop -/

/-- The loop comes to its result after some number of turns. -/
inductive Multiplies (limit : Double) : Nat → Double → Double → Double → Prop where
  | done {counter product : Double}
      (stop : (counter.atMost limit && product.isFinite) = false) :
      Multiplies limit 0 counter product product
  | turn {turns : Nat} {counter product result : Double}
      (go : (counter.atMost limit && product.isFinite) = true)
      (rest : Multiplies limit turns (counter.add one) (product.mul counter) result) :
      Multiplies limit (turns + 1) counter product result

/-- A bound on the steps that is not reached changes nothing. -/
theorem Multiplies.factorialFrom_eq (runs : Multiplies limit turns counter product result)
    (enough : turns ≤ steps) : factorialFrom limit steps counter product = result := by
  induction runs generalizing steps with
  | done stop =>
      cases steps with
      | zero => rfl
      | succ steps => rw [factorialFrom, if_neg (Bool.eq_false_iff.mp stop)]
  | turn go rest ih =>
      cases steps with
      | zero => exact absurd enough (Nat.not_succ_le_zero _)
      | succ steps =>
          rw [factorialFrom, if_pos go]
          exact ih (Nat.le_of_succ_le_succ enough)

/-! ## The counter -/

/-- The double of a count. -/
def whole (count : Nat) : Double :=
  ofRat false count

theorem toRat_whole (small : count ≤ 9007199254740992) :
    (whole count).isFinite = true ∧ (whole count).toRat = count :=
  ofRat_of_representable (representable_intCast (show (count : Int).natAbs ≤ _ from small)) false

theorem whole_one : whole 1 = one := by
  rw [whole, Nat.cast_one, ofRat_one]

theorem whole_add_one (small : count < 9007199254740992) :
    (whole count).add one = whole (count + 1) := by
  obtain ⟨bounded, value⟩ := toRat_whole small.le
  rw [add_of_finite bounded rfl, value, toRat_one, show one.isNegative = false from rfl,
    Bool.and_false, whole, Nat.cast_add_one]

theorem rank_whole_mono (le : count ≤ other) : (whole count).rank ≤ (whole other).rank :=
  rank_ofRat_mono false false (Nat.cast_le.mpr le)

/-! ## The products -/

/-- The product of the first whole numbers, rounded after each factor. -/
def productTo : Nat → Double
  | 0 => one
  | count + 1 => (productTo count).mul (whole (count + 1))

/-- The product is finite, and differs from the factorial by the errors of so many roundings. -/
structure Near (count : Nat) (product : Double) : Prop where
  bounded : product.isFinite = true
  one_le : 1 ≤ product.toRat
  low : (1 - roundoff) ^ count * count.factorial ≤ product.toRat
  high : product.toRat ≤ (1 + roundoff) ^ count * count.factorial

theorem near_one : Near 0 one := by
  refine ⟨rfl, toRat_one.ge, ?_, ?_⟩ <;> simp [toRat_one]

/-- The errors do not add up to more than what is left between the two factorials. -/
theorem overflow_between_factorials :
    (1 + roundoff) ^ 170 * Nat.factorial 170 < overflow ∧
      overflow ≤ (1 - roundoff) ^ 170 * Nat.factorial 170 * ((170 : Nat) + 1) := by
  decide +kernel

theorem factorial_lt_overflow (small : count ≤ 170) :
    (1 + roundoff) ^ count * count.factorial < overflow := by
  have base : 1 ≤ 1 + roundoff := le_add_of_nonneg_right roundoff_pos.le
  calc (1 + roundoff) ^ count * count.factorial
      ≤ (1 + roundoff) ^ 170 * Nat.factorial 170 := by gcongr
    _ < overflow := overflow_between_factorials.left

theorem pow_mul_factorial_succ (base : Rat) (count : Nat) :
    base ^ (count + 1) * (count + 1).factorial =
      base * (base ^ count * count.factorial * (count + 1)) := by
  rw [Nat.factorial_succ]
  push_cast
  ring

theorem mul_whole (bounded : product.isFinite = true) (small : count < 9007199254740992) :
    ∃ negative, product.mul (whole (count + 1)) = ofRat negative (product.toRat * (count + 1)) := by
  obtain ⟨wholeBounded, value⟩ := toRat_whole (Nat.succ_le_of_lt small)
  rw [mul_of_finite bounded wholeBounded, value, Nat.cast_add_one]
  exact ⟨_, rfl⟩

theorem Near.step (near : Near count product) (small : count < 170) :
    Near (count + 1) (product.mul (whole (count + 1))) := by
  obtain ⟨negative, is⟩ := mul_whole near.bounded (show count < 9007199254740992 by omega)
  have factor : (1 : Rat) ≤ count + 1 := le_add_of_nonneg_left (Nat.cast_nonneg count)
  have low := mul_le_mul_of_nonneg_right near.low (zero_le_one.trans factor)
  have high := mul_le_mul_of_nonneg_right near.high (zero_le_one.trans factor)
  have large := one_le_mul_of_one_le_of_one_le near.one_le factor
  rw [is]
  generalize product.toRat * (count + 1 : Rat) = exact at low high large
  have positive := zero_lt_one.trans_le large
  have above : exact ≤ (1 + roundoff) * exact :=
    le_mul_of_one_le_left positive.le (le_add_of_nonneg_right roundoff_pos.le)
  have within : (1 + roundoff) * exact ≤ (1 + roundoff) ^ (count + 1) * (count + 1).factorial := by
    rw [pow_mul_factorial_succ]
    exact mul_le_mul_of_nonneg_left high (add_nonneg zero_le_one roundoff_pos.le)
  have limit : exact < overflow :=
    (above.trans within).trans_lt (factorial_lt_overflow (Nat.succ_le_of_lt small))
  have value := toRat_ofRat_of_pos negative positive limit
  obtain ⟨least, most⟩ := abs_le.mp (abs_rounded_sub_le large)
  refine ⟨isFinite_ofRat_iff.mpr (by rwa [abs_of_nonneg positive.le]), ?_, ?_, ?_⟩
  · exact (one_le_rounded large).trans_eq value.symm
  · rw [pow_mul_factorial_succ, value]
    calc (1 - roundoff) * ((1 - roundoff) ^ count * count.factorial * (count + 1))
        ≤ (1 - roundoff) * exact :=
          mul_le_mul_of_nonneg_left low (sub_nonneg.mpr roundoff_lt_one.le)
      _ ≤ rounded exact := by linarith
  · rw [value]
    exact le_trans (by linarith) within

theorem near_productTo (small : count ≤ 170) : Near count (productTo count) := by
  induction count with
  | zero => exact near_one
  | succ count ih => exact (ih (Nat.le_of_succ_le small)).step small

theorem productTo_last : productTo 171 = infinite false := by
  have near := near_productTo (le_refl 170)
  obtain ⟨negative, is⟩ := mul_whole near.bounded (show 170 < 9007199254740992 by decide)
  have large := overflow_between_factorials.right.trans
    (mul_le_mul_of_nonneg_right near.low (show (0 : Rat) ≤ (170 : Nat) + 1 by norm_num))
  have nonneg := overflow_pos.le.trans large
  rw [productTo, is, ofRat_of_huge negative (by rwa [abs_of_nonneg nonneg]),
    decide_eq_false nonneg.not_gt]

theorem productTo_ne_nan (small : count ≤ 171) : productTo count ≠ nan := by
  rcases small.lt_or_eq with less | rfl
  · exact ne_nan_of_finite (near_productTo (Nat.le_of_lt_succ less)).bounded
  · rw [productTo_last]
    exact nofun

theorem productTo_eq_infinite_iff (small : count ≤ 171) :
    productTo count = infinite false ↔ count = 171 := by
  rcases small.lt_or_eq with less | rfl
  · refine iff_of_false ?_ less.ne
    intro infinity
    have bounded := (near_productTo (Nat.le_of_lt_succ less)).bounded
    rw [infinity] at bounded
    exact absurd bounded nofun
  · exact iff_of_true productTo_last rfl

theorem rank_productTo_le_succ (small : count ≤ 170) :
    (productTo count).rank ≤ (productTo (count + 1)).rank := by
  have near := near_productTo small
  obtain ⟨negative, is⟩ := mul_whole near.bounded (show count < 9007199254740992 by omega)
  have factor : (1 : Rat) ≤ count + 1 := le_add_of_nonneg_left (Nat.cast_nonneg count)
  rw [productTo, is]
  conv_lhs => rw [← ofRat_toRat near.bounded]
  exact rank_ofRat_mono _ _ (le_mul_of_one_le_right (zero_le_one.trans near.one_le) factor)

theorem rank_productTo_mono (le : count ≤ other) (small : other ≤ 171) :
    (productTo count).rank ≤ (productTo other).rank := by
  induction other, le using Nat.le_induction with
  | base => exact le_refl _
  | succ other _ ih =>
      exact (ih (Nat.le_of_succ_le small)).trans
        (rank_productTo_le_succ (Nat.le_of_succ_le_succ small))

/-! ## The number of factors -/

/-- How many whole numbers are multiplied: those not above the limit, but no more than it takes to
overflow. -/
def factors (limit : Double) : Nat :=
  Nat.findGreatest (fun count => (whole count).atMost limit = true) 171

theorem factors_le (limit : Double) : limit.factors ≤ 171 :=
  Nat.findGreatest_le 171

theorem whole_atMost_whole (le : count ≤ other) : (whole count).atMost (whole other) = true :=
  (atMost_iff_rank (ofRat_ne_nan _ _) (ofRat_ne_nan _ _)).mpr (rank_whole_mono le)

theorem whole_zero : whole 0 = zero false :=
  ofRat_zero false

theorem zero_atMost_one : (zero false).atMost one = true := by
  rw [← whole_zero, ← whole_one]
  exact whole_atMost_whole zero_le_one

theorem whole_atMost_iff (nonneg : (zero false).atMost limit = true) (small : count ≤ 171) :
    (whole count).atMost limit = true ↔ count ≤ limit.factors := by
  constructor
  · intro reached
    exact Nat.le_findGreatest small reached
  · intro le
    rw [← whole_zero] at nonneg
    have last := Nat.findGreatest_spec (P := fun count => (whole count).atMost limit = true)
      (Nat.zero_le 171) nonneg
    exact atMost_trans (whole_atMost_whole le) last

theorem factors_mono {left right : Double} (le : left.atMost right = true) :
    left.factors ≤ right.factors :=
  Nat.findGreatest_mono_left (fun _ reached => atMost_trans reached le) 171

theorem whole_atMost_floor_iff (small : count ≤ 9007199254740992) :
    (whole count).atMost limit.floor = true ↔ (whole count).atMost limit = true := by
  cases bounded : limit.isFinite with
  | false => rw [floor, bounded, if_neg Bool.false_ne_true]
  | true =>
      obtain ⟨below, floorValue⟩ := toRat_floor bounded
      obtain ⟨wholeBounded, value⟩ := toRat_whole small
      rw [atMost_iff_toRat wholeBounded below, atMost_iff_toRat wholeBounded bounded, value,
        floorValue]
      exact_mod_cast (Int.le_floor : (count : Int) ≤ ⌊limit.toRat⌋ ↔ _)

theorem zero_atMost_floor (nonneg : (zero false).atMost limit = true) :
    (zero false).atMost limit.floor = true := by
  rw [← whole_zero] at nonneg ⊢
  exact (whole_atMost_floor_iff (Nat.zero_le _)).mpr nonneg

theorem factors_floor (nonneg : (zero false).atMost limit = true) :
    limit.floor.factors = limit.factors := by
  have same {count : Nat} (small : count ≤ 171) :
      count ≤ limit.floor.factors ↔ count ≤ limit.factors := by
    rw [← whole_atMost_iff (zero_atMost_floor nonneg) small, ← whole_atMost_iff nonneg small,
      whole_atMost_floor_iff (small.trans (by decide))]
  exact le_antisymm ((same (factors_le _)).mp le_rfl) ((same (factors_le _)).mpr le_rfl)

theorem factors_eq_last_iff (nonneg : (zero false).atMost limit = true) :
    limit.factors = 171 ↔ (whole 171).atMost limit = true := by
  rw [whole_atMost_iff nonneg le_rfl]
  exact (factors_le limit).ge_iff_eq.symm

/-! ## Factorials -/

/-- Where the counter and the product are those of a count, there are as many turns left as factors
are missing. -/
theorem multiplies_of_add_eq (nonneg : (zero false).atMost limit = true)
    (missing : count + turns = limit.factors) :
    Multiplies limit turns (whole (count + 1)) (productTo count) (productTo limit.factors) := by
  have most := factors_le limit
  induction turns generalizing count with
  | zero =>
      obtain rfl : count = limit.factors := missing
      refine .done ?_
      rcases most.lt_or_eq with less | last
      · have above : (whole (limit.factors + 1)).atMost limit = false := by
          rw [Bool.eq_false_iff, ne_eq, whole_atMost_iff nonneg less]
          exact Nat.not_succ_le_self _
        rw [above, Bool.false_and]
      · rw [last, productTo_last]
        exact Bool.and_false _
  | succ turns ih =>
      refine .turn ?_ ?_
      · have within := (whole_atMost_iff nonneg (show count + 1 ≤ 171 by omega)).mpr (by omega)
        rw [within, (near_productTo (by omega)).bounded, Bool.and_true]
      · rw [whole_add_one (by omega)]
        exact ih (by omega)

theorem multiplies_of_nonneg (nonneg : (zero false).atMost limit = true) :
    Multiplies limit limit.factors one one (productTo limit.factors) := by
  have runs := multiplies_of_add_eq nonneg (Nat.zero_add limit.factors)
  rw [Nat.zero_add, whole_one] at runs
  exact runs

theorem zero_atMost_iff :
    (zero false).atMost number = true ↔ ¬ (number = nan ∨ number.less (zero false) = true) := by
  by_cases isNumber : number = nan
  · rw [isNumber]
    exact iff_of_false nofun fun neither => neither (.inl rfl)
  · rw [atMost_iff_not_less (ne_nan_of_finite rfl) isNumber, or_iff_right isNumber]

theorem factorial_of_nonneg (nonneg : (zero false).atMost number = true) :
    number.factorial = productTo number.factors := by
  rw [factorial, if_neg (zero_atMost_iff.mp nonneg)]
  exact (multiplies_of_nonneg nonneg).factorialFrom_eq (factors_le number)

theorem factorial_eq_nan_iff :
    number.factorial = nan ↔ number = nan ∨ number.less (zero false) = true := by
  by_cases below : number = nan ∨ number.less (zero false) = true
  · exact iff_of_true (if_pos below) below
  · refine iff_of_false ?_ below
    rw [factorial_of_nonneg (zero_atMost_iff.mpr below)]
    exact productTo_ne_nan (factors_le number)

/-- The loop ends after at most 171 turns, whatever the limit. -/
theorem exists_multiplies (number : Double) :
    ∃ turns result, turns ≤ 171 ∧ Multiplies number turns one one result ∧
      number.factorial =
        if number = nan ∨ number.less (zero false) = true then nan else result := by
  by_cases below : number = nan ∨ number.less (zero false) = true
  · refine ⟨0, one, Nat.zero_le 171, .done ?_, by rw [factorial, if_pos below, if_pos below]⟩
    have above : ¬ one.atMost number = true := by
      intro le
      exact zero_atMost_iff.mp (atMost_trans zero_atMost_one le) below
    rw [Bool.eq_false_iff.mpr above, Bool.false_and]
  · have nonneg := zero_atMost_iff.mpr below
    refine ⟨number.factors, _, factors_le number, multiplies_of_nonneg nonneg, ?_⟩
    rw [if_neg below, factorial_of_nonneg nonneg]

theorem factorial_floor (nonneg : (zero false).atMost number = true) :
    number.floor.factorial = number.factorial := by
  rw [factorial_of_nonneg nonneg, factorial_of_nonneg (zero_atMost_floor nonneg),
    factors_floor nonneg]

theorem one_atMost_factorial (nonneg : (zero false).atMost number = true) :
    one.atMost number.factorial = true := by
  have most := factors_le number
  rw [factorial_of_nonneg nonneg, atMost_iff_rank (ne_nan_of_finite rfl) (productTo_ne_nan most)]
  exact rank_productTo_mono (Nat.zero_le _) most

theorem factorial_eq_infinite_iff (nonneg : (zero false).atMost number = true) :
    number.factorial = infinite false ↔ (whole 171).atMost number = true := by
  rw [factorial_of_nonneg nonneg, productTo_eq_infinite_iff (factors_le number),
    factors_eq_last_iff nonneg]

theorem factorial_mono {left right : Double} (nonneg : (zero false).atMost left = true)
    (le : left.atMost right = true) : left.factorial.atMost right.factorial = true := by
  rw [factorial_of_nonneg nonneg, factorial_of_nonneg (atMost_trans nonneg le),
    atMost_iff_rank (productTo_ne_nan (factors_le left)) (productTo_ne_nan (factors_le right))]
  exact rank_productTo_mono (factors_mono le) (factors_le right)

/-- Factorials of all doubles.  The loop ends after at most 171 turns.  The factorial is not a
number exactly where its argument is none or is below zero.  From zero on it is that of the whole
number below, is one or more, is infinite exactly from 171 on, and never decreases.  That is what
calls of the builtin give. -/
theorem factorial_is_well_behaved :
    (∀ number : Double, ∃ turns result, turns ≤ 171 ∧ Multiplies number turns one one result ∧
      number.factorial =
        if number = nan ∨ number.less (zero false) = true then nan else result) ∧
    (∀ number : Double,
      number.factorial = nan ↔ number = nan ∨ number.less (zero false) = true) ∧
    (∀ number : Double, (zero false).atMost number = true →
      number.factorial = number.floor.factorial ∧ one.atMost number.factorial = true ∧
        (number.factorial = infinite false ↔ (whole 171).atMost number = true)) ∧
    (∀ left right : Double, (zero false).atMost left = true → left.atMost right = true →
      left.factorial.atMost right.factorial = true) ∧
    ∀ (noise : Noise) (value : Value) (effects : Effects),
      Builtin.fact.call noise [.value value] effects =
        .ok (.value (.number value.toNumber.factorial), effects) :=
  ⟨exists_multiplies, fun _ => factorial_eq_nan_iff,
    fun _ nonneg => ⟨(factorial_floor nonneg).symm, one_atMost_factorial nonneg,
      factorial_eq_infinite_iff nonneg⟩,
    fun _ _ => factorial_mono, fun _ _ _ => rfl⟩

/-- With no limit but the product, and with one between two whole numbers. -/
theorem factorial_is_well_behaved_unlimited :
    (zero false).atMost (infinite false) = true ∧ half.atMost (infinite false) = true ∧
      (infinite false).factorial = infinite false ∧ half.factorial = half.floor.factorial ∧
      half.factorial.atMost (infinite false).factorial = true := by
  have nonneg : (zero false).atMost half = true := by
    rw [atMost_iff_toRat rfl rfl, toRat_zero, toRat_half]
    norm_num
  have unlimited := atMost_infinite (ofRat_ne_nan false (171 : Nat))
  obtain ⟨_, _, values, monotone, _⟩ := factorial_is_well_behaved
  obtain ⟨_, _, large⟩ := values (infinite false) rfl
  obtain ⟨below, _, _⟩ := values half nonneg
  exact ⟨rfl, rfl, large.mpr unlimited, below, monotone half _ nonneg rfl⟩

end LineCalc.Double
