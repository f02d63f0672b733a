import Mathlib.Data.List.Basic
import LineCalc.Proofs.Builtin.Unread

/-!
# Refused arguments

A call with as many arguments as the builtin takes fails if and only if it reads an argument that
is refused, and the first such argument says why.  Empty results are refused, and so are builtins
themselves except by `help`.  All arguments are read except by `max` and `min`, which leave those
behind the first not-a-number alone.
-/

namespace LineCalc

namespace Call

/-- The operands up to the first one that is not a number. -/
def upToNan : List Operand → List Operand
  | [] => []
  | operand :: others => if operand.isNan then [operand] else operand :: upToNan others

/-- The arguments that the call reads, unless it fails before. -/
def read (call : Call) : List Operand :=
  match call.builtin.body with
  | .extreme .. => upToNan call.arguments
  | _ => call.arguments

theorem upToNan_append_behindNan (operands : List Operand) :
    upToNan operands ++ behindNan operands = operands := by
  induction operands with
  | nil => rfl
  | cons operand others ih =>
      by_cases nan : operand.isNan = true
      · simp [upToNan, behindNan, nan]
      · simp [upToNan, behindNan, nan, ih]

theorem read_append_unread (call : Call) : call.read ++ call.unread = call.arguments := by
  unfold read unread
  cases call.builtin.body with
  | extreme start pick => exact upToNan_append_behindNan call.arguments
  | random | unary | binary | announce | display | describe => exact List.append_nil _

end Call

namespace Builtin

variable {noise : Noise} {builtin : Builtin} {operand : Operand} {operands : List Operand}
  {effects : Effects} {error : EvalError}

/-- Why the builtin refuses an argument, if it does. -/
def refusal? : Builtin → Operand → Option EvalError
  | help, .function _ => none
  | _, operand => operand.refusal?

theorem refusal?_of_ne_help (other : builtin ≠ help) :
    builtin.refusal? = Operand.refusal? := by
  funext operand
  cases builtin <;> first | rfl | exact absurd rfl other

theorem eq_help_of_body (describes : builtin.body = .describe) : builtin = help := by
  cases builtin <;> first | rfl | exact absurd describes nofun

theorem topic_eq_error_iff :
    topic operand = .error error ↔ help.refusal? operand = some error := by
  cases operand with
  | value content => simp [topic, refusal?, Operand.refusal?, Operand.asValue]
  | function builtin => simp [topic, refusal?, pure, Except.pure]
  | nothing builtin => simp [topic, refusal?, Operand.refusal?, Operand.asValue]

theorem joined_eq_error_iff :
    joined operands = .error error ↔ operands.findSome? Operand.refusal? = some error := by
  rw [joined, bind_eq_error_iff, Operand.mapM_asValue_eq_error_iff]
  simp [pure, Except.pure]

theorem extremeFrom_eq_error_iff {pick : Double → Double → Double} {best : Double} :
    extremeFrom pick best operands = .error error ↔
      (Call.upToNan operands).findSome? Operand.refusal? = some error := by
  induction operands generalizing best with
  | nil => simp [extremeFrom, Call.upToNan, pure, Except.pure]
  | cons operand others ih =>
      rw [extremeFrom, bind_eq_error_iff, Operand.asNumber_eq_error_iff]
      cases operand with
      | value content =>
          by_cases nan : content.toNumber = .nan
          · simp [Call.upToNan, Operand.isNan, nan, Operand.refusal?, Operand.asNumber,
              Operand.asValue, pure, Except.pure]
          · simp [Call.upToNan, Operand.isNan, nan, Operand.refusal?, Operand.asNumber,
              Operand.asValue, ih, List.findSome?_cons]
      | function builtin | nothing builtin =>
          simp [Call.upToNan, Operand.isNan, Operand.refusal?, Operand.asNumber, Operand.asValue,
            List.findSome?_cons]

theorem reply_help_eq_error_iff (allowed : help.arity.allows operands.length = true) :
    help.reply operands = .error error ↔ operands.findSome? help.refusal? = some error := by
  rcases operands with _ | ⟨operand, _ | ⟨second, others⟩⟩
  · simp [reply, body, pure, Except.pure]
  · have replied : help.reply [operand] =
        (fun name => .request (.print (helpOn name))) <$> topic operand := rfl
    rw [replied, map_eq_error_iff, topic_eq_error_iff, List.findSome?_singleton]
  · simp [arity, body, Body.arity, Arity.allows] at allowed

theorem reply_eq_error_iff (allowed : builtin.arity.allows operands.length = true) :
    builtin.reply operands = .error error ↔
      (Call.read ⟨builtin, operands⟩).findSome? builtin.refusal? = some error := by
  by_cases describes : builtin = help
  · subst describes
    exact reply_help_eq_error_iff allowed
  · rw [refusal?_of_ne_help describes]
    have other := mt eq_help_of_body describes
    rw [arity] at allowed
    unfold reply Call.read
    generalize builtin.body = body at allowed other ⊢
    cases body with
    | describe => exact absurd rfl other
    | random | announce event =>
        obtain rfl := List.length_eq_zero_iff.mp (beq_iff_eq.mp allowed)
        simp [pure, Except.pure]
    | unary function =>
        obtain ⟨first, rfl⟩ := List.length_eq_one_iff.mp (beq_iff_eq.mp allowed)
        simp [bind_eq_error_iff, Operand.asNumber_eq_error_iff, pure, Except.pure]
    | binary function =>
        obtain ⟨first, second, rfl⟩ := List.length_eq_two.mp (beq_iff_eq.mp allowed)
        rw [bind_eq_error_iff, Operand.asNumber_eq_error_iff, List.findSome?_cons,
          List.findSome?_singleton]
        cases first with
        | value content =>
            simp [Operand.asNumber_eq_ok_iff, map_eq_error_iff, Operand.asNumber_eq_error_iff]
        | function builtin | nothing builtin => simp [Operand.refusal?, Operand.asNumber_eq_ok_iff]
    | extreme start pick =>
        simp [map_eq_error_iff, extremeFrom_eq_error_iff]
    | display => simp [map_eq_error_iff, joined_eq_error_iff]

/-- Calls with the operands fail if and only if one of those considered is refused, and the first of
these that is refused says why. -/
def BlamesFirst (builtin : Builtin) (operands considered : List Operand) : Prop :=
  ∀ noise effects error, builtin.call noise operands effects = .error error ↔
    considered.findSome? builtin.refusal? = some error

theorem blamesFirst_read (allowed : builtin.arity.allows operands.length = true) :
    builtin.BlamesFirst operands (Call.read ⟨builtin, operands⟩) := by
  intro noise effects error
  rw [call_eq, map_eq_error_iff, reply_eq_error_iff allowed]

/-- Where there is nothing to blame among the arguments that are read, the others must not contain
anything to blame either. -/
theorem blamesFirst_iff (allowed : builtin.arity.allows operands.length = true) :
    builtin.BlamesFirst operands operands ↔
      (∃ operand ∈ Call.read ⟨builtin, operands⟩, builtin.refusal? operand ≠ none) ∨
        ∀ operand ∈ Call.unread ⟨builtin, operands⟩, builtin.refusal? operand = none := by
  have all : operands.findSome? builtin.refusal? =
      ((Call.read ⟨builtin, operands⟩).findSome? builtin.refusal?).or
        ((Call.unread ⟨builtin, operands⟩).findSome? builtin.refusal?) := by
    rw [← List.findSome?_append, Call.read_append_unread]
  have blamed := blamesFirst_read allowed
  rw [← List.findSome?_eq_none_iff]
  cases found : (Call.read ⟨builtin, operands⟩).findSome? builtin.refusal? with
  | some error =>
      rw [found, Option.some_or, ← found] at all
      obtain ⟨operand, member, refused⟩ := List.exists_of_findSome?_eq_some found
      simp only [BlamesFirst, all, blamed _ _ _, implies_true, true_iff]
      exact .inl ⟨operand, member, by simp [refused]⟩
  | none =>
      rw [found, Option.none_or] at all
      have kept := List.findSome?_eq_none_iff.mp found
      constructor
      · intro first
        refine .inr (Option.eq_none_iff_forall_ne_some.mpr fun error lost => ?_)
        have failed := (first (fun _ => .nan) Effects.none error).mpr (all.trans lost)
        have noticed := (blamed _ _ _).mp failed
        exact absurd (found.symm.trans noticed) nofun
      · rintro (⟨operand, member, refused⟩ | kept)
        · exact absurd (kept operand member) refused
        · intro noise effects error
          rw [blamed noise effects error, all, found, kept]

/-- Calls fail exactly for a refused argument, and the first one is blamed.  This holds of all
arguments of a call, unless `max` or `min` reads no refused argument and leaves one behind its first
not-a-number. -/
theorem blames_first_refused (allowed : builtin.arity.allows operands.length = true) :
    builtin.BlamesFirst operands (Call.read ⟨builtin, operands⟩) ∧
      (builtin ≠ max → builtin ≠ min → builtin.BlamesFirst operands operands) ∧
      (builtin.BlamesFirst operands operands ↔
        (∃ operand ∈ Call.read ⟨builtin, operands⟩, builtin.refusal? operand ≠ none) ∨
          ∀ operand ∈ Call.unread ⟨builtin, operands⟩, builtin.refusal? operand = none) := by
  refine ⟨blamesFirst_read allowed, fun notMax notMin => ?_, blamesFirst_iff allowed⟩
  have all : Call.read ⟨builtin, operands⟩ = operands := by
    cases builtin <;> first | rfl | exact absurd rfl notMax | exact absurd rfl notMin
  have blamed := blamesFirst_read allowed
  rwa [all] at blamed

theorem blames_function_before_nan :
    let operands : List Operand := [.value (.text "1"), .function .sqrt, .value (.number .nan)]
    min.arity.allows operands.length = true ∧ min.BlamesFirst operands operands := by
  intro operands
  have read : .function .sqrt ∈ Call.read ⟨min, operands⟩ := by decide +kernel
  have refused : min.refusal? (.function .sqrt) ≠ none := by decide
  exact ⟨rfl, (blames_first_refused rfl).2.2.mpr (.inl ⟨_, read, refused⟩)⟩

/-- Behind a not-a-number, an empty result is not refused. -/
theorem max_accepts_nothing :
    let operands : List Operand := [.value (.number .nan), .nothing .print]
    max.arity.allows operands.length = true ∧
      (∀ noise effects, max.call noise operands effects = .ok (.value (.number .nan), effects)) ∧
      (∀ noise effects, max.call noise operands.reverse effects =
        .error (.meaningless (.noValue "print"))) ∧
      ¬ max.BlamesFirst operands operands := by
  refine ⟨rfl, fun _ _ => rfl, fun _ _ => rfl, fun first => ?_⟩
  have failed := (first (fun _ => .nan) Effects.none (.meaningless (.noValue "print"))).mpr rfl
  exact absurd failed nofun

end Builtin

end LineCalc
