import LineCalc.Proofs.Builtin.Call

/-!
# Unread arguments

A call that succeeds has read its arguments, and an argument that is read is no empty result.  The
exceptions are the calls of `max` and `min`, which read up to the first argument that is not a
number.  An empty result behind it is lost without notice.
-/

namespace LineCalc

/-- Is the operand the empty result of a builtin? -/
def Operand.isNothing : Operand → Bool
  | nothing _ => true
  | value _ | function _ => false

/-- Is the operand a value that is not a number? -/
def Operand.isNan : Operand → Bool
  | value content => content.toNumber = .nan
  | function _ | nothing _ => false

namespace Call

/-- The operands behind the first one that is not a number. -/
def behindNan : List Operand → List Operand
  | [] => []
  | operand :: others => if operand.isNan then others else behindNan others

/-- The arguments that the call does not read. -/
def unread (call : Call) : List Operand :=
  match call.builtin.body with
  | .extreme .. => behindNan call.arguments
  | _ => []

end Call

namespace Builtin

variable {operands : List Operand}

theorem isNothing_of_asNumber {operand : Operand} {number : Double}
    (read : operand.asNumber = .ok number) : operand.isNothing = false := by
  obtain ⟨value, rfl, _⟩ := Operand.asNumber_eq_ok_iff.mp read
  rfl

theorem countP_isNothing_of_extremeFrom {pick : Double → Double → Double} {best number : Double}
    (found : extremeFrom pick best operands = .ok number) :
    operands.countP Operand.isNothing = (Call.behindNan operands).countP Operand.isNothing := by
  induction operands generalizing best with
  | nil => rfl
  | cons operand others ih =>
      obtain ⟨first, read, found⟩ := bind_eq_ok_iff.mp found
      obtain ⟨value, rfl, rfl⟩ := Operand.asNumber_eq_ok_iff.mp read
      rw [List.countP_cons_of_neg (by simp [Operand.isNothing])]
      by_cases nan : value.toNumber = .nan
      · simp [Call.behindNan, Operand.isNan, nan]
      · rw [if_neg nan] at found
        simpa [Call.behindNan, Operand.isNan, nan] using ih found

theorem countP_isNothing_of_joined {text : String} (shown : joined operands = .ok text) :
    operands.countP Operand.isNothing = 0 := by
  obtain ⟨values, read, _⟩ := bind_eq_ok_iff.mp shown
  obtain rfl := Operand.mapM_asValue_eq_ok_iff.mp read
  simp [List.countP_eq_zero, Operand.isNothing]

theorem isNothing_of_topic {operand : Operand} {name : String} (named : topic operand = .ok name) :
    operand.isNothing = false := by
  cases operand with
  | value | function => rfl
  | nothing builtin => simp [topic, Operand.asValue] at named

/-- The empty results among the arguments of a call that succeeds are not read. -/
theorem countP_isNothing_of_reply {builtin : Builtin} {reply : Reply}
    (replied : builtin.reply operands = .ok reply) :
    operands.countP Operand.isNothing =
      (Call.unread ⟨builtin, operands⟩).countP Operand.isNothing := by
  unfold Builtin.reply at replied
  unfold Call.unread
  generalize builtin.body = body at replied ⊢
  cases body with
  | random | announce event =>
      cases operands with
      | nil => rfl
      | cons => exact absurd replied (by simp)
  | unary function =>
      rcases operands with _ | ⟨first, _ | ⟨second, others⟩⟩
      · exact absurd replied (by simp)
      · obtain ⟨number, read, _⟩ := bind_eq_ok_iff.mp replied
        simp [isNothing_of_asNumber read]
      · exact absurd replied (by simp)
  | binary function =>
      rcases operands with _ | ⟨first, _ | ⟨second, _ | ⟨third, others⟩⟩⟩
      · exact absurd replied (by simp)
      · exact absurd replied (by simp)
      · obtain ⟨left, leftRead, replied⟩ := bind_eq_ok_iff.mp replied
        obtain ⟨right, rightRead, _⟩ := bind_eq_ok_iff.mp replied
        simp [isNothing_of_asNumber leftRead, isNothing_of_asNumber rightRead]
      · exact absurd replied (by simp)
  | extreme start pick =>
      obtain ⟨number, found, _⟩ := bind_eq_ok_iff.mp replied
      exact countP_isNothing_of_extremeFrom found
  | display =>
      obtain ⟨text, shown, _⟩ := bind_eq_ok_iff.mp replied
      exact countP_isNothing_of_joined shown
  | describe =>
      rcases operands with _ | ⟨operand, _ | ⟨second, others⟩⟩
      · rfl
      · obtain ⟨name, named, _⟩ := bind_eq_ok_iff.mp replied
        simp [isNothing_of_topic named]
      · exact absurd replied (by simp)

end Builtin

end LineCalc
