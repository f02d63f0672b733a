import LineCalc.Proofs.Builtin.Call
import LineCalc.Proofs.Double.Order

/-!
# Extrema

The builtins `max` and `min` pick the highest and the lowest of any number of arguments.  The number
picked so far is one of those that have been read and none of them goes beyond it; this carries the
whole search.  What is picked depends on which numbers there are, and not on how often or in which
order they are given.
-/

namespace LineCalc

/-- Which end of the order is looked for. -/
inductive Extremum where
  | highest
  | lowest

namespace Extremum

def builtin : Extremum → Builtin
  | highest => .max
  | lowest => .min

/-- What is picked where there is nothing to pick from. -/
def limit : Extremum → Double
  | highest => .infinite true
  | lowest => .infinite false

/-- The better one of two numbers, and the first one if they are equally good. -/
def pick : Extremum → Double → Double → Double
  | highest => Double.larger
  | lowest => Double.smaller

/-- The number does not go beyond another one. -/
def within : Extremum → Double → Double → Bool
  | highest, number, other => number.atMost other
  | lowest, number, other => other.atMost number

/-- The rank of a number in the order whose upper end is looked for. -/
def grade : Extremum → Double → WithBot (WithTop Rat)
  | highest, number => number.rank
  | lowest, number => number.neg.rank

/-- The best of some numbers, or not-a-number if that is among them. -/
def among (extremum : Extremum) (numbers : List Double) : Double :=
  if .nan ∈ numbers then .nan else numbers.foldl extremum.pick extremum.limit

/-- The best of the numbers that some values are or stand for. -/
def of (extremum : Extremum) (values : List Value) : Double :=
  extremum.among (values.map Value.toNumber)

variable {extremum : Extremum} {number other third : Double} {numbers before later : List Double}

/-! ## Picking from two numbers -/

theorem within_iff_grade (isNumber : number ≠ .nan) (otherIs : other ≠ .nan) :
    extremum.within number other = true ↔ extremum.grade number ≤ extremum.grade other := by
  cases extremum with
  | highest => exact Double.atMost_iff_rank isNumber otherIs
  | lowest =>
      exact (Double.atMost_iff_rank otherIs isNumber).trans
        (Double.rank_neg_le_rank_neg isNumber otherIs).symm

theorem pick_eq (isNumber : number ≠ .nan) (otherIs : other ≠ .nan) :
    extremum.pick number other =
      if extremum.grade number < extremum.grade other then other else number := by
  cases extremum with
  | highest => exact if_congr (Double.less_iff_rank isNumber otherIs) rfl rfl
  | lowest =>
      have turned := not_congr (Double.rank_neg_le_rank_neg otherIs isNumber)
      rw [not_le, not_le] at turned
      exact if_congr ((Double.less_iff_rank otherIs isNumber).trans turned.symm) rfl rfl

theorem limit_ne_nan (extremum : Extremum) : extremum.limit ≠ .nan := by
  cases extremum <;> exact nofun

theorem grade_limit (extremum : Extremum) : extremum.grade extremum.limit = ⊥ := by
  cases extremum <;> rfl

theorem pick_eq_or (isNumber : number ≠ .nan) (otherIs : other ≠ .nan) :
    extremum.pick number other = number ∨ extremum.pick number other = other := by
  rw [pick_eq isNumber otherIs]
  split
  · exact .inr rfl
  · exact .inl rfl

theorem pick_ne_nan (isNumber : number ≠ .nan) (otherIs : other ≠ .nan) :
    extremum.pick number other ≠ .nan := by
  rcases pick_eq_or isNumber otherIs with same | same
  · rwa [same]
  · rwa [same]

theorem grade_pick (isNumber : number ≠ .nan) (otherIs : other ≠ .nan) :
    extremum.grade (extremum.pick number other) =
      max (extremum.grade number) (extremum.grade other) := by
  rw [pick_eq isNumber otherIs]
  split
  · next better => exact (max_eq_right better.le).symm
  · next better => exact (max_eq_left (not_lt.mp better)).symm

theorem pick_limit (isNumber : number ≠ .nan) :
    extremum.pick number extremum.limit = number := by
  rw [pick_eq isNumber extremum.limit_ne_nan, grade_limit, if_neg not_lt_bot]

theorem limit_pick (isNumber : number ≠ .nan) :
    extremum.pick extremum.limit number = number := by
  match extremum, number with
  | _, .nan => exact absurd rfl isNumber
  | highest, .infinite negative | lowest, .infinite negative => cases negative <;> rfl
  | highest, .finite .. | lowest, .finite .. => rfl

theorem pick_assoc (isNumber : number ≠ .nan) (otherIs : other ≠ .nan) (thirdIs : third ≠ .nan) :
    extremum.pick (extremum.pick number other) third =
      extremum.pick number (extremum.pick other third) := by
  rw [pick_eq (pick_ne_nan isNumber otherIs) thirdIs, pick_eq isNumber (pick_ne_nan otherIs thirdIs),
    grade_pick isNumber otherIs, grade_pick otherIs thirdIs, pick_eq isNumber otherIs,
    pick_eq otherIs thirdIs]
  split_ifs <;> grind

/-! ## Picking from many numbers -/

/-- The number is among those that have been read, and none of them goes beyond it. -/
structure Picked (extremum : Extremum) (numbers : List Double) (best : Double) : Prop where
  isNumber : best ≠ .nan
  member : best ∈ numbers
  bound : ∀ number ∈ numbers, extremum.grade number ≤ extremum.grade best

theorem picked_singleton (isNumber : number ≠ .nan) : extremum.Picked [number] number where
  isNumber := isNumber
  member := List.mem_singleton_self number
  bound := by
    intro other member
    rw [List.mem_singleton.mp member]

/-- One more number is read. -/
theorem Picked.step (picked : extremum.Picked before number) (otherIs : other ≠ .nan) :
    extremum.Picked (before ++ [other]) (extremum.pick number other) where
  isNumber := pick_ne_nan picked.isNumber otherIs
  member := by
    rcases pick_eq_or picked.isNumber otherIs with same | same
    · rw [same]
      exact List.mem_append_left _ picked.member
    · rw [same]
      exact List.mem_append_right _ (List.mem_singleton_self other)
  bound := by
    rw [grade_pick picked.isNumber otherIs]
    intro third member
    rcases List.mem_append.mp member with earlier | last
    · exact le_max_of_le_left (picked.bound third earlier)
    · rw [List.mem_singleton.mp last]
      exact le_max_right _ _

theorem Picked.run (picked : extremum.Picked before number) (numbersAre : .nan ∉ later) :
    extremum.Picked (before ++ later) (later.foldl extremum.pick number) := by
  induction later generalizing before number with
  | nil => simpa using picked
  | cons other others ih =>
      rw [List.mem_cons, not_or] at numbersAre
      rw [List.append_cons]
      exact ih (picked.step (Ne.symm numbersAre.1)) numbersAre.2

theorem picked_among (extremum : Extremum) (some : numbers ≠ []) (numbersAre : .nan ∉ numbers) :
    extremum.Picked numbers (extremum.among numbers) := by
  cases numbers with
  | nil => exact absurd rfl some
  | cons first others =>
      rw [among, if_neg numbersAre]
      rw [List.mem_cons, not_or] at numbersAre
      rw [List.foldl_cons, limit_pick (Ne.symm numbersAre.1)]
      exact (picked_singleton (Ne.symm numbersAre.1)).run numbersAre.2

theorem among_eq_nan_iff (extremum : Extremum) : extremum.among numbers = .nan ↔ .nan ∈ numbers := by
  by_cases nan : .nan ∈ numbers
  · simp [among, nan]
  · cases numbers with
    | nil => simpa [among] using extremum.limit_ne_nan
    | cons first others =>
        have picked := extremum.picked_among (List.cons_ne_nil first others) nan
        simp only [nan, picked.isNumber]

theorem alike_of_grade_eq (isNumber : number ≠ .nan) (otherIs : other ≠ .nan)
    (same : extremum.grade number = extremum.grade other) : number.Alike other := by
  apply Double.alike_of_rank_eq isNumber otherIs
  cases extremum with
  | highest => exact same
  | lowest =>
      apply le_antisymm
      · exact (Double.rank_neg_le_rank_neg otherIs isNumber).mp same.ge
      · exact (Double.rank_neg_le_rank_neg isNumber otherIs).mp same.le

theorem eq_nil_of_same (same : ∀ number, number ∈ before ↔ number ∈ later) (none : before = []) :
    later = [] := by
  subst none
  exact List.eq_nil_iff_forall_not_mem.mpr fun number member =>
    absurd ((same number).mpr member) List.not_mem_nil

/-- Only the sign of a zero may depend on the order of the numbers. -/
theorem among_alike (extremum : Extremum) (same : ∀ number, number ∈ before ↔ number ∈ later) :
    (extremum.among before).Alike (extremum.among later) := by
  by_cases nan : .nan ∈ before
  · rw [extremum.among_eq_nan_iff.mpr nan, extremum.among_eq_nan_iff.mpr ((same _).mp nan)]
    exact Double.alike_refl _
  · rcases eq_or_ne before [] with rfl | some
    · obtain rfl := eq_nil_of_same same rfl
      exact Double.alike_refl _
    · have otherSome := mt (eq_nil_of_same fun number => (same number).symm) some
      have picked := extremum.picked_among some nan
      have otherPicked := extremum.picked_among otherSome (mt (same _).mpr nan)
      apply alike_of_grade_eq picked.isNumber otherPicked.isNumber
      apply le_antisymm
      · exact otherPicked.bound _ ((same _).mp picked.member)
      · exact picked.bound _ ((same _).mpr otherPicked.member)

theorem foldl_pick (isNumber : number ≠ .nan) (numbersAre : .nan ∉ later) :
    later.foldl extremum.pick number =
      extremum.pick number (later.foldl extremum.pick extremum.limit) := by
  induction later generalizing number with
  | nil => exact (pick_limit isNumber).symm
  | cons other others ih =>
      have rest : others.foldl extremum.pick extremum.limit ≠ .nan := by
        have picked := mt extremum.among_eq_nan_iff.mp
          (List.not_mem_of_not_mem_cons numbersAre)
        rwa [among, if_neg (List.not_mem_of_not_mem_cons numbersAre)] at picked
      rw [List.mem_cons, not_or] at numbersAre
      obtain ⟨otherIs, othersAre⟩ := numbersAre
      rw [List.foldl_cons, List.foldl_cons, limit_pick (Ne.symm otherIs),
        ih (pick_ne_nan isNumber (Ne.symm otherIs)) othersAre, ih (Ne.symm otherIs) othersAre,
        pick_assoc isNumber (Ne.symm otherIs) rest]

/-- The best of two parts are picked from, instead of the parts. -/
theorem among_append (extremum : Extremum) (before later : List Double) :
    extremum.among (before ++ later) =
      extremum.among [extremum.among before, extremum.among later] := by
  by_cases nan : .nan ∈ before ++ later
  · rw [extremum.among_eq_nan_iff.mpr nan]
    refine (extremum.among_eq_nan_iff.mpr ?_).symm
    rcases List.mem_append.mp nan with earlier | behind
    · simp [extremum.among_eq_nan_iff.mpr earlier]
    · simp [extremum.among_eq_nan_iff.mpr behind]
  · have parts := nan
    rw [List.mem_append, not_or] at parts
    have beforeIs := mt extremum.among_eq_nan_iff.mp parts.1
    have laterIs := mt extremum.among_eq_nan_iff.mp parts.2
    have both : .nan ∉ [extremum.among before, extremum.among later] := by
      simp [Ne.symm beforeIs, Ne.symm laterIs]
    rw [among, if_neg nan, among, if_neg both, List.foldl_append, List.foldl_cons, List.foldl_cons,
      List.foldl_nil, limit_pick beforeIs]
    rw [among, if_neg parts.1] at beforeIs ⊢
    rw [foldl_pick beforeIs parts.2, among, if_neg parts.2]

/-! ## Calls -/

/-- The values are read one after another until one is not a number. -/
theorem extremeFrom_values (pick : Double → Double → Double) (best : Double)
    (values : List Value) :
    Builtin.extremeFrom pick best (values.map .value) =
      .ok (if .nan ∈ values.map Value.toNumber then .nan
        else (values.map Value.toNumber).foldl pick best) := by
  induction values generalizing best with
  | nil => rfl
  | cons value others ih =>
      have read : Builtin.extremeFrom pick best ((value :: others).map .value) =
          if value.toNumber = .nan then .ok .nan
          else Builtin.extremeFrom pick (pick best value.toNumber) (others.map .value) := rfl
      rw [read]
      by_cases nan : value.toNumber = .nan
      · simp [nan]
      · rw [if_neg nan, ih]
        simp [Ne.symm nan]

theorem call_builtin (extremum : Extremum) (noise : Noise) (values : List Value)
    (effects : Effects) :
    extremum.builtin.call noise (values.map .value) effects =
      .ok (.value (.number (extremum.of values)), effects) := by
  have searched : extremum.builtin.call noise (values.map .value) effects =
      (fun number => (.value (.number number), effects)) <$>
        Builtin.extremeFrom extremum.pick extremum.limit (values.map .value) := by
    cases extremum <;> rfl
  rw [searched, extremeFrom_values]
  rfl

/-- Called with values, the builtins pick a best one of their numbers.  The result is not a number
if and only if one of those is not.  Otherwise it is one of them and none of them goes beyond it;
without arguments it is the infinity at the other end.  Apart from the sign of a zero it is
determined by which values there are, whatever their order and however often they are repeated.  It
can be picked from the results for two parts of the arguments. -/
theorem picks_best (extremum : Extremum) (noise : Noise) (effects : Effects) :
    (∀ values : List Value, extremum.builtin.call noise (values.map .value) effects =
      .ok (.value (.number (extremum.of values)), effects)) ∧
    (∀ values, extremum.of values = .nan ↔ ∃ value ∈ values, value.toNumber = .nan) ∧
    extremum.of [] = extremum.limit ∧
    (∀ values, values ≠ [] → extremum.of values ≠ .nan →
      (∃ value ∈ values, value.toNumber = extremum.of values) ∧
        ∀ value ∈ values, extremum.within value.toNumber (extremum.of values) = true) ∧
    (∀ left right : List Value, (∀ value, value ∈ left ↔ value ∈ right) →
      (extremum.of left).Alike (extremum.of right)) ∧
    ∀ left right : List Value, extremum.of (left ++ right) =
      extremum.of [.number (extremum.of left), .number (extremum.of right)] := by
  have nanIff (values : List Value) :
      extremum.of values = .nan ↔ ∃ value ∈ values, value.toNumber = .nan := by
    rw [of, extremum.among_eq_nan_iff, List.mem_map]
  refine ⟨fun values => extremum.call_builtin noise values effects, nanIff, rfl, ?_, ?_, ?_⟩
  · intro values some isNumber
    have numbersAre := mt extremum.among_eq_nan_iff.mpr isNumber
    have picked := extremum.picked_among (mt List.map_eq_nil_iff.mp some) numbersAre
    obtain ⟨value, member, best⟩ := List.mem_map.mp picked.member
    refine ⟨⟨value, member, best⟩, fun value member => ?_⟩
    have among : value.toNumber ∈ values.map Value.toNumber := List.mem_map_of_mem member
    exact (within_iff_grade (ne_of_mem_of_not_mem among numbersAre) picked.isNumber).mpr
      (picked.bound _ among)
  · intro left right same
    apply extremum.among_alike
    intro number
    simp only [List.mem_map, same]
  · intro left right
    have parts := extremum.among_append (left.map Value.toNumber) (right.map Value.toNumber)
    rwa [← List.map_append] at parts

/-- Texts count as the numbers that they stand for. -/
theorem picks_best_of_text :
    let values : List Value := [.number (.zero true), .text " 7 ", .number .half]
    values ≠ [] ∧ highest.of values ≠ .nan ∧ highest.of values = Double.ofText "7" ∧
      (∀ value ∈ values, highest.within value.toNumber (highest.of values) = true) := by
  intro values
  have isNumber : highest.of values ≠ .nan := by decide +kernel
  obtain ⟨_, _, _, picks, _⟩ := picks_best highest (fun _ => .nan) Effects.none
  exact ⟨List.cons_ne_nil _ _, isNumber, by decide +kernel,
    (picks values (List.cons_ne_nil _ _) isNumber).2⟩

end Extremum

end LineCalc
