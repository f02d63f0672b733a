import LineCalc.Builtin.Call
import LineCalc.Proofs.Operand

/-!
# Calls

A call has a reply, which is determined by the builtin and its arguments alone: a random number to
be drawn, a computed number, or a request to the console.  What the call amounts to and adds to the
effects is determined by the reply.
-/

namespace LineCalc

namespace Builtin

/-- What a builtin does when called. -/
inductive Reply where
  /-- The next random number is the result. -/
  | draw
  /-- The number is the result. -/
  | number (content : Double)
  /-- The result is empty, and the console is asked for something. -/
  | request (event : Event)

namespace Reply

/-- The result of the call, and what has been done by then. -/
def carryOut (noise : Noise) (builtin : Builtin) (effects : Effects) : Reply → Operand × Effects
  | draw => (.value (.number (noise effects.draws)), effects.draw)
  | number content => (.value (.number content), effects)
  | request event => (.nothing builtin, effects.record event)

/-- What is asked of the console. -/
def events : Reply → List Event
  | draw | number _ => []
  | request event => [event]

theorem carryOut_events (noise : Noise) (builtin : Builtin) (effects : Effects) (reply : Reply) :
    (reply.carryOut noise builtin effects).2.events = effects.events ++ reply.events := by
  cases reply <;> simp [carryOut, events, Effects.draw, Effects.record]

end Reply

/-- The reply to a call, unless it fails. -/
def reply (builtin : Builtin) (arguments : List Operand) : Except EvalError Reply :=
  match builtin.body, arguments with
  | .random, [] => return .draw
  | .unary function, [first] => do
      let number ← first.asNumber
      return .number (function number)
  | .binary function, [first, second] => do
      let left ← first.asNumber
      let right ← second.asNumber
      return .number (function left right)
  | .extreme start pick, operands => do
      let number ← extremeFrom pick start operands
      return .number number
  | .announce event, [] => return .request event
  | .display, operands => do
      let text ← joined operands
      return .request (.print text)
  | .describe, [] => return .request (.print listing)
  | .describe, [operand] => do
      let name ← topic operand
      return .request (.print (helpOn name))
  | body, operands =>
      .error (.meaningless (.argumentCountMismatch builtin.name body.arity operands.length))

variable {noise : Noise} {builtin : Builtin} {arguments : List Operand} {effects : Effects}

theorem call_eq (noise : Noise) (builtin : Builtin) (arguments : List Operand)
    (effects : Effects) :
    builtin.call noise arguments effects =
      Reply.carryOut noise builtin effects <$> builtin.reply arguments := by
  unfold call reply
  generalize builtin.body = body
  cases body <;>
    rcases arguments with _ | ⟨first, _ | ⟨second, _ | ⟨third, others⟩⟩⟩ <;>
    simp [Reply.carryOut]

theorem call_eq_ok {operand : Operand} {later : Effects}
    (called : builtin.call noise arguments effects = .ok (operand, later)) :
    ∃ reply, builtin.reply arguments = .ok reply ∧
      reply.carryOut noise builtin effects = (operand, later) := by
  rwa [call_eq, map_eq_ok_iff] at called

/-- Only one builtin draws random numbers. -/
theorem eq_rand_of_reply (drawn : builtin.reply arguments = .ok .draw) : builtin = .rand := by
  unfold reply at drawn
  split at drawn
  case h_1 random => cases builtin <;> simp [body] at random ⊢
  case h_5 | h_7 => exact absurd (Except.ok.inj drawn) (by simp)
  all_goals simp [bind_eq_ok_iff, map_eq_ok_iff] at drawn

/-- All others come to the same with other random numbers. -/
theorem call_of_ne_rand {operand : Operand} {later : Effects} (undrawn : builtin ≠ .rand)
    (called : builtin.call noise arguments effects = .ok (operand, later)) (other : Noise) :
    builtin.call other arguments effects = .ok (operand, later) := by
  obtain ⟨reply, replied, carried⟩ := call_eq_ok called
  rw [call_eq, replied]
  cases reply with
  | draw => exact absurd (eq_rand_of_reply replied) undrawn
  | number content | request event => exact congrArg Except.ok carried

/-! ## Arities -/

theorem call_of_not_allowed (refused : builtin.arity.allows arguments.length = false) :
    builtin.call noise arguments effects =
      .error (.meaningless
        (.argumentCountMismatch builtin.name builtin.arity arguments.length)) := by
  rw [arity] at refused ⊢
  unfold call
  generalize builtin.body = body at refused ⊢
  cases body <;>
    rcases arguments with _ | ⟨first, _ | ⟨second, _ | ⟨third, others⟩⟩⟩ <;>
    simp_all [Body.arity, Arity.allows]

theorem allows_of_call {operand : Operand} {later : Effects}
    (ok : builtin.call noise arguments effects = .ok (operand, later)) :
    builtin.arity.allows arguments.length = true := by
  cases allowed : builtin.arity.allows arguments.length with
  | true => rfl
  | false =>
      rw [call_of_not_allowed allowed] at ok
      exact absurd ok (by simp)

/-! ## Failures -/

theorem semantic_extremeFrom (pick : Double → Double → Double) (best : Double)
    (operands : List Operand) : Semantic (extremeFrom pick best operands) := by
  induction operands generalizing best with
  | nil => exact semantic_ok best
  | cons operand others ih =>
      refine operand.semantic_asNumber.bind fun number => ?_
      split
      · exact semantic_ok _
      · exact ih _

theorem semantic_joined (operands : List Operand) : Semantic (joined operands) := by
  have semantic : Semantic (operands.mapM Operand.asValue) := by
    induction operands with
    | nil => exact semantic_ok []
    | cons operand others ih =>
        rw [List.mapM_cons]
        exact operand.semantic_asValue.bind fun value => ih.map _
  exact semantic.map _

theorem semantic_topic (operand : Operand) : Semantic (topic operand) := by
  cases operand with
  | function builtin => exact semantic_ok builtin.name
  | value | nothing => exact (Operand.semantic_asValue _).map _

theorem semantic_reply (builtin : Builtin) (arguments : List Operand) :
    Semantic (builtin.reply arguments) := by
  unfold reply
  split
  · exact semantic_ok _
  · exact (Operand.semantic_asNumber _).map _
  · exact (Operand.semantic_asNumber _).bind fun left => (Operand.semantic_asNumber _).map _
  · exact (semantic_extremeFrom _ _ _).map _
  · exact semantic_ok _
  · exact (semantic_joined _).map _
  · exact semantic_ok _
  · exact (semantic_topic _).map _
  · exact semantic_meaningless _

theorem semantic_call (noise : Noise) (builtin : Builtin) (arguments : List Operand)
    (effects : Effects) : Semantic (builtin.call noise arguments effects) := by
  rw [call_eq]
  exact (semantic_reply builtin arguments).map _

end Builtin

/-! ## Calls with their arguments -/

/-- A builtin with the evaluated arguments that it is called with. -/
structure Call where
  builtin : Builtin
  arguments : List Operand
  deriving DecidableEq

namespace Call

/-- What the call asks of the console. -/
def events (call : Call) : List Event :=
  match call.builtin.reply call.arguments with
  | .ok reply => reply.events
  | .error _ => []

theorem events_of_call {noise : Noise} {builtin : Builtin} {arguments : List Operand}
    {effects later : Effects} {operand : Operand}
    (called : builtin.call noise arguments effects = .ok (operand, later)) :
    later.events = effects.events ++ events ⟨builtin, arguments⟩ := by
  obtain ⟨reply, replied, carried⟩ := Builtin.call_eq_ok called
  have asked := reply.carryOut_events noise builtin effects
  rw [carried] at asked
  simpa [events, replied] using asked

/-- The call neither draws a random number nor asks anything of the console. -/
def Quiet (call : Call) : Prop :=
  call.builtin ≠ .rand ∧ call.events = []

/-- A quiet call comes to the same whatever has been done before, and does nothing else. -/
theorem Quiet.call {noise : Noise} {builtin : Builtin} {arguments : List Operand}
    {before after : Effects} {result : Operand} (quiet : Quiet ⟨builtin, arguments⟩)
    (called : builtin.call noise arguments before = .ok (result, after)) (effects : Effects) :
    builtin.call noise arguments effects = .ok (result, effects) := by
  obtain ⟨noDraw, silent⟩ := quiet
  obtain ⟨reply, replied, carried⟩ := Builtin.call_eq_ok called
  cases reply with
  | draw => exact absurd (Builtin.eq_rand_of_reply replied) noDraw
  | number content =>
      obtain ⟨rfl, _⟩ := Prod.mk.inj carried
      rw [Builtin.call_eq, replied]
      rfl
  | request event => simp [events, replied, Builtin.Reply.events] at silent

end Call

end LineCalc
