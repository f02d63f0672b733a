import LineCalc.Proofs.Builtin.Refusal

/-!
# Calls step by step

A call is carried out in steps: the count of the arguments is checked, arguments are looked up by
their places and checked in turn, and requests to the console are recorded one by one.  A step may
look for an argument where there is none, and what has been done before a step fails is not undone.
Carried out in this way, every call comes to what it comes to as a whole.  So it looks only for
arguments that are there, and it asks for nothing unless it succeeds.
-/

namespace LineCalc

/-- Why a step cannot be made. -/
inductive Fault where
  /-- There is no argument at the place. -/
  | absent (place : Nat)
  /-- The call fails. -/
  | failure (error : EvalError)

/-- Some steps of a call. -/
abbrev Routine := EStateM Fault Effects

namespace Routine

variable {α β : Type}

/-- Looks up an argument by its place. -/
def argument (arguments : List Operand) (place : Nat) : Routine Operand :=
  match arguments[place]? with
  | some operand => pure operand
  | none => throw (.absent place)

/-- Goes on with the result of a check. -/
def check : Except EvalError α → Routine α
  | .ok value => pure value
  | .error error => throw (.failure error)

/-- Looks up an argument that must be a number. -/
def number (arguments : List Operand) (place : Nat) : Routine Double := do
  check (← argument arguments place).asNumber

/-- Asks something of the console. -/
def request (event : Event) : Routine (Option Value) := fun effects =>
  .ok none (effects.record event)

/-- Picks among the numbers from a place on. -/
def extremeFrom (arguments : List Operand) (pick : Double → Double → Double) :
    Nat → Nat → Double → Routine Double
  | 0, _, best => return best
  | count + 1, place, best => do
      let next ← number arguments place
      if next = .nan then return .nan
      else extremeFrom arguments pick count (place + 1) (pick best next)

/-- The steps of a body, with the resulting value if there is one. -/
def body (noise : Noise) (arguments : List Operand) : Builtin.Body → Routine (Option Value)
  | .random => fun effects => .ok (some (.number (noise effects.draws))) effects.draw
  | .unary function => do
      return some (.number (function (← number arguments 0)))
  | .binary function => do
      let left ← number arguments 0
      let right ← number arguments 1
      return some (.number (function left right))
  | .extreme start pick => do
      return some (.number (← extremeFrom arguments pick arguments.length 0 start))
  | .announce event => request event
  | .display => do
      request (.print (← check (Builtin.joined arguments)))
  | .describe =>
      match arguments.head? with
      | none => request (.print Builtin.listing)
      | some operand => do
          request (.print (Builtin.helpOn (← check (Builtin.topic operand))))

/-- Checks the count of the arguments before the steps of a body. -/
def guarded (builtin : Builtin) (arguments : List Operand) (steps : Routine (Option Value)) :
    Routine Operand := do
  if builtin.arity.allows arguments.length then
    match ← steps with
    | some value => return .value value
    | none => return .nothing builtin
  else
    throw (.failure (.meaningless
      (.argumentCountMismatch builtin.name builtin.arity arguments.length)))

/-- The steps of a call. -/
def call (noise : Noise) (builtin : Builtin) (arguments : List Operand) : Routine Operand :=
  guarded builtin arguments (body noise arguments builtin.body)

/-! ## Single steps -/

variable {arguments : List Operand} {effects : Effects}

theorem check_bind_ok (value : α) (next : α → Routine β) :
    (check (.ok value) >>= next) = next value :=
  rfl

theorem number_eq {place : Nat} {operand : Operand} (found : arguments[place]? = some operand) :
    number arguments place = check operand.asNumber := by
  rw [number, argument, found]
  rfl

/-- Up to the last argument, all places are taken. -/
theorem extremeFrom_eq (arguments : List Operand) (pick : Double → Double → Double)
    (count place : Nat) (best : Double) (counted : place + count = arguments.length) :
    extremeFrom arguments pick count place best =
      check (Builtin.extremeFrom pick best (arguments.drop place)) := by
  induction count generalizing place best with
  | zero =>
      rw [List.drop_of_length_le (by omega)]
      rfl
  | succ count ih =>
      have there : place < arguments.length := by omega
      rw [List.drop_eq_getElem_cons there, extremeFrom, Builtin.extremeFrom,
        number_eq (List.getElem?_eq_getElem there)]
      cases arguments[place].asNumber with
      | error error => rfl
      | ok next =>
          rw [check_bind_ok, bind_ok]
          split
          · rfl
          · exact ih (place + 1) (pick best next) (by omega)

/-! ## Calls -/

variable {noise : Noise} {builtin : Builtin}

/-- A result with the effects by then, or a failure that adds nothing to the effects so far. -/
def settled (effects : Effects) : Except EvalError (α × Effects) → EStateM.Result Fault Effects α
  | .ok (value, later) => .ok value later
  | .error error => .error (.failure error) effects

theorem settled_eq_failure_iff {outcome : Except EvalError (α × Effects)} {error : EvalError}
    {later : Effects} :
    settled effects outcome = .error (.failure error) later ↔
      outcome = .error error ∧ later = effects := by
  cases outcome <;> simp [settled, eq_comm]

theorem guarded_of_not_allowed (refused : builtin.arity.allows arguments.length = false)
    (steps : Routine (Option Value)) (effects : Effects) :
    guarded builtin arguments steps effects =
      .error (.failure (.meaningless
        (.argumentCountMismatch builtin.name builtin.arity arguments.length))) effects := by
  rw [guarded, if_neg (by simp [refused])]
  rfl

/-- Step by step, a call comes to what it comes to as a whole. -/
theorem call_eq (noise : Noise) (builtin : Builtin) (arguments : List Operand)
    (effects : Effects) :
    call noise builtin arguments effects =
      settled effects (builtin.call noise arguments effects) := by
  cases allowed : builtin.arity.allows arguments.length with
  | false => rw [call, guarded_of_not_allowed allowed, Builtin.call_of_not_allowed allowed, settled]
  | true =>
      rw [call, guarded, if_pos allowed]
      rw [Builtin.arity] at allowed
      unfold Builtin.call
      generalize builtin.body = shape at allowed ⊢
      cases shape with
      | random | announce event =>
          obtain rfl := List.length_eq_zero_iff.mp (beq_iff_eq.mp allowed)
          rfl
      | unary function =>
          obtain ⟨first, rfl⟩ := List.length_eq_one_iff.mp (beq_iff_eq.mp allowed)
          rw [body, number_eq rfl]
          dsimp only
          cases first.asNumber <;> rfl
      | binary function =>
          obtain ⟨first, second, rfl⟩ := List.length_eq_two.mp (beq_iff_eq.mp allowed)
          rw [body, number_eq rfl, number_eq rfl]
          dsimp only
          cases first.asNumber with
          | error error => rfl
          | ok left => cases second.asNumber <;> rfl
      | extreme start pick =>
          rw [body, extremeFrom_eq arguments pick _ 0 start (Nat.zero_add _), List.drop_zero]
          dsimp only
          cases Builtin.extremeFrom pick start arguments <;> rfl
      | display =>
          rw [body]
          dsimp only
          cases Builtin.joined arguments <;> rfl
      | describe =>
          rcases arguments with _ | ⟨operand, _ | ⟨second, others⟩⟩
          · rfl
          · rw [body, List.head?_cons]
            dsimp only
            cases Builtin.topic operand <;> rfl
          · exact absurd allowed (by simp [Builtin.Body.arity, Arity.allows])

end Routine

/-! ## Results and requests -/

namespace Builtin

variable {builtin : Builtin} {arguments : List Operand} {error : EvalError}

/-- The builtins that speak to the console. -/
def speakers : List Builtin :=
  [help, clear, print, version]

theorem mem_speakers_iff :
    builtin ∈ speakers ↔
      match builtin.body with
      | .announce _ | .display | .describe => True
      | .random | .unary _ | .binary _ | .extreme .. => False := by
  cases builtin <;> simp [speakers, body]

/-- A request is made by those builtins and by no others. -/
theorem exists_request_iff {reply : Reply} (replied : builtin.reply arguments = .ok reply) :
    (∃ event, reply = .request event) ↔ builtin ∈ speakers := by
  rw [mem_speakers_iff]
  unfold Builtin.reply at replied
  generalize builtin.body = shape at replied ⊢
  split at replied
  case h_1 | h_5 | h_7 =>
    obtain rfl := Except.ok.inj replied
    simp
  case h_2 | h_4 | h_6 | h_8 =>
    obtain ⟨_, _, replied⟩ := bind_eq_ok_iff.mp replied
    obtain rfl := Except.ok.inj replied
    simp
  case h_3 =>
    obtain ⟨_, _, replied⟩ := bind_eq_ok_iff.mp replied
    obtain ⟨_, _, replied⟩ := bind_eq_ok_iff.mp replied
    obtain rfl := Except.ok.inj replied
    simp
  case h_9 => exact absurd replied nofun

theorem ne_mismatch_of_refusal? {operand : Operand}
    (refused : builtin.refusal? operand = some error) (name : String) (expected : Arity)
    (found : Nat) : error ≠ .meaningless (.argumentCountMismatch name expected found) := by
  rintro rfl
  cases operand with
  | value content => cases builtin <;> exact absurd refused nofun
  | function other | nothing other =>
      cases builtin <;> simp [refusal?, Operand.refusal?] at refused

/-- The count of the arguments is blamed exactly if the builtin does not take so many. -/
theorem call_eq_mismatch_iff {noise : Noise} {effects : Effects} {name : String}
    {expected : Arity} {found : Nat} :
    builtin.call noise arguments effects =
        .error (.meaningless (.argumentCountMismatch name expected found)) ↔
      builtin.arity.allows arguments.length = false ∧ name = builtin.name ∧
        expected = builtin.arity ∧ found = arguments.length := by
  cases allowed : builtin.arity.allows arguments.length with
  | false =>
      rw [call_of_not_allowed allowed]
      simp [eq_comm]
  | true =>
      simp only [Bool.true_eq_false, false_and, iff_false]
      intro failed
      have first := (blamesFirst_read allowed noise effects _).mp failed
      obtain ⟨operand, _, refused⟩ := List.exists_of_findSome?_eq_some first
      exact ne_mismatch_of_refusal? refused name expected found rfl

/-- A call that succeeds has an empty result and one request if its builtin speaks to the console, and
a value and no request otherwise. -/
theorem request_or_value {noise : Noise} {effects later : Effects} {result : Operand}
    (called : builtin.call noise arguments effects = .ok (result, later)) :
    builtin ∈ speakers ∧ result = .nothing builtin ∧
        (∃ event, later = effects.record event) ∨
      builtin ∉ speakers ∧ (∃ content, result = .value content) ∧
        later.events = effects.events := by
  obtain ⟨reply, replied, carried⟩ := call_eq_ok called
  have speaks := exists_request_iff replied
  cases reply with
  | request event =>
      obtain ⟨rfl, rfl⟩ := Prod.mk.inj carried
      exact .inl ⟨speaks.mp ⟨event, rfl⟩, rfl, event, rfl⟩
  | draw | number content =>
      obtain ⟨rfl, rfl⟩ := Prod.mk.inj carried
      exact .inr ⟨mt speaks.mpr (by simp), ⟨_, rfl⟩, rfl⟩

end Builtin

namespace Routine

/-- Step by step, a call never looks for an argument that is not there.  If and only if the builtin
does not take so many arguments, their count is blamed, whatever steps would follow.  An empty
result is that of the builtin itself, which then speaks to the console, and has asked it for one
thing; otherwise nothing has been asked for, and nothing has been done if the call fails. -/
theorem call_disciplined (noise : Noise) (builtin : Builtin) (arguments : List Operand)
    (effects : Effects) :
    call noise builtin arguments effects =
      settled effects (builtin.call noise arguments effects) ∧
    (∀ place later, call noise builtin arguments effects ≠ .error (.absent place) later) ∧
    (∀ name expected found later, call noise builtin arguments effects =
        .error (.failure (.meaningless (.argumentCountMismatch name expected found))) later ↔
      builtin.arity.allows arguments.length = false ∧ name = builtin.name ∧
        expected = builtin.arity ∧ found = arguments.length ∧ later = effects) ∧
    (builtin.arity.allows arguments.length = false → ∀ steps,
      guarded builtin arguments steps effects = call noise builtin arguments effects) ∧
    match call noise builtin arguments effects with
    | .ok (.nothing other) later =>
        other = builtin ∧ builtin ∈ Builtin.speakers ∧
          ∃ event, later.events = effects.events ++ [event]
    | .ok (.value _) later => builtin ∉ Builtin.speakers ∧ later.events = effects.events
    | .ok (.function _) _ => False
    | .error _ later => later = effects := by
  have whole := call_eq noise builtin arguments effects
  refine ⟨whole, ?_, ?_, ?_, ?_⟩
  · intro place later
    rw [whole]
    cases builtin.call noise arguments effects <;> exact nofun
  · intro name expected found later
    rw [whole, settled_eq_failure_iff, Builtin.call_eq_mismatch_iff, and_assoc, and_assoc,
      and_assoc]
  · intro refused steps
    rw [call, guarded_of_not_allowed refused, guarded_of_not_allowed refused]
  · rw [whole]
    cases called : builtin.call noise arguments effects with
    | error error => rfl
    | ok reached =>
        obtain ⟨result, later⟩ := reached
        rcases Builtin.request_or_value called with
          ⟨speaks, rfl, event, rfl⟩ | ⟨silent, ⟨content, rfl⟩, kept⟩
        · exact ⟨rfl, speaks, event, rfl⟩
        · exact ⟨silent, kept⟩

/-- What has been asked for before is left alone. -/
theorem call_disciplined_sqrt :
    let effects := Effects.none.record (.print "before")
    Builtin.sqrt.arity.allows 0 = false ∧
      call (fun _ => .nan) .sqrt [] effects =
        .error (.failure (.meaningless (.argumentCountMismatch "sqrt" (.exactly 1) 0))) effects := by
  intro effects
  obtain ⟨_, _, mismatch, _⟩ := call_disciplined (fun _ => .nan) .sqrt [] effects
  exact ⟨rfl, (mismatch _ _ _ _).mpr ⟨rfl, rfl, rfl, rfl, rfl⟩⟩

end Routine

end LineCalc
