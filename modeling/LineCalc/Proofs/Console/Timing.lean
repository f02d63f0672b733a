import LineCalc.Proofs.Console.Run

/-!
# Timing

Whether a console tells how long its evaluations take makes no difference to anything else.  Two
consoles with the same variables that are asked for the same things come to the same outcomes and
keep the same variables, and they show the same apart from the times.
-/

namespace LineCalc

/-- Has the line been evaluated? -/
def Outcome.evaluated : Outcome → Bool
  | value _ | nothing | error _ => true
  | ignored | command => false

namespace Console

/-- The request, if its evaluation takes another time. -/
def Request.taking (nanoseconds : Nat) : Request → Request
  | submit input _ => submit input nanoseconds
  | setTimed timed => setTimed timed
  | greet => greet

/-- What a console with the setting adds to tell how long the request took. -/
def Request.time (timed : Bool) : Request → List Event
  | submit input nanoseconds => if Evaluable input.line then timing timed nanoseconds else []
  | setTimed _ | greet => []

/-- What is shown apart from the time, which comes last if timing is on and a line was evaluated. -/
def Response.untimed (response : Response) : List Event :=
  if response.console.timed && response.outcome.any Outcome.evaluated then
    response.events.dropLast
  else
    response.events

variable {console : Console} {request : Request} {response : Response}

/-! ## Single requests -/

theorem Shows.evaluated {result : Except EvalError (Option Value)} {outcome : Outcome}
    {shown : List Event} (shows : Shows result outcome shown) : outcome.evaluated = true := by
  cases shows <;> rfl

/-- Nothing but the time of an evaluated line is left out. -/
theorem Step.events (step : Step console request response) :
    response.events = response.untimed ++ request.time console.timed := by
  cases step with
  | blank blank =>
      have unevaluable : ¬ Evaluable _ := fun evaluable => evaluable.1 blank
      simp [Request.time, unevaluable, Response.untimed, Outcome.evaluated]
  | command commands =>
      have unevaluable : ¬ Evaluable _ := fun evaluable => evaluable.2 _ commands
      simp [Request.time, unevaluable, Response.untimed, Outcome.evaluated]
  | evaluated evaluable _ shows =>
      cases timed : console.timed with
      | false => simp [Request.time, Response.untimed, timing]
      | true =>
          rw [Request.time, if_pos evaluable, Response.untimed, timing, if_pos rfl, if_pos]
          · rw [List.dropLast_concat]
          · simpa using shows.evaluated
  | setTimed | greet => simp [Request.time, Response.untimed]

variable {line : String} {noise : Noise} {nanoseconds : Nat}

theorem untimed_of_evaluable (evaluable : Evaluable line) :
    (console.respond (.submit ⟨line, noise⟩ nanoseconds)).untimed =
      let evaluation := console.session.evaluate noise line
      .print ("> " ++ line) :: evaluation.events ++ notice (outcome evaluation.result) := by
  have shown := (step_respond console (.submit ⟨line, noise⟩ nanoseconds)).events
  rw [Request.time, if_pos evaluable, respond_of_evaluable evaluable] at shown
  rw [respond_of_evaluable evaluable]
  exact (List.append_cancel_right shown).symm

/-- What there is to a response apart from the time and the setting. -/
def Response.apart (response : Response) : Option Outcome × List Event × Session :=
  (response.outcome, response.untimed, response.console.session)

/-- Apart from the time, neither the setting nor the time makes a difference to a response. -/
theorem apart_respond (session : Session) (timed other : Bool) (request : Request)
    (nanoseconds : Nat) :
    ((Console.mk session timed).respond request).apart =
      ((Console.mk session other).respond (request.taking nanoseconds)).apart := by
  cases request with
  | setTimed | greet => simp [Request.taking, respond, Response.apart, Response.untimed, setTimed]
  | submit input =>
      obtain ⟨line, noise⟩ := input
      rw [Request.taking]
      rcases blank_or_commands_or_evaluable line with blank | ⟨set, commands⟩ | evaluable
      · simp [respond, submit_of_blank blank, eventsTaking_eq, timing, Response.apart,
          Response.untimed, Outcome.evaluated]
      · simp [respond, submit_of_commands commands, eventsTaking_eq, timing, Response.apart,
          Response.untimed, Outcome.evaluated]
      · rw [Response.apart, Response.apart, untimed_of_evaluable evaluable,
          untimed_of_evaluable evaluable, respond_of_evaluable evaluable,
          respond_of_evaluable evaluable]

/-- How long an evaluation takes makes no difference to the console. -/
theorem console_respond_taking (console : Console) (request : Request) (nanoseconds : Nat) :
    (console.respond (request.taking nanoseconds)).console = (console.respond request).console := by
  cases request <;> rfl

/-! ## Runs -/

theorem run_apart (session : Session) (timed other : Bool) (requests : List Request)
    (durations : Nat → Nat) :
    ((Console.mk session timed).run requests).map Response.apart =
      ((Console.mk session other).run
        (requests.mapIdx fun place => Request.taking (durations place))).map Response.apart := by
  induction requests generalizing session timed other durations with
  | nil => rfl
  | cons request others ih =>
      have first := apart_respond session timed other request (durations 0)
      have kept : ((Console.mk session timed).respond request).console.session =
          ((Console.mk session other).respond (request.taking (durations 0))).console.session :=
        congrArg (fun apart => apart.2.2) first
      rw [List.mapIdx_cons, run, run, List.map_cons, List.map_cons, first]
      congr 1
      generalize (Console.mk session timed).respond request = response at kept ⊢
      generalize (Console.mk session other).respond _ = answer at kept ⊢
      obtain ⟨_, _, ⟨next, set⟩⟩ := response
      obtain ⟨_, _, ⟨otherNext, otherSet⟩⟩ := answer
      obtain rfl : next = otherNext := kept
      exact ih next set otherSet fun place => durations (place + 1)

theorem consoles_run_taking (console : Console) (requests : List Request)
    (durations : Nat → Nat) :
    (console.run (requests.mapIdx fun place => Request.taking (durations place))).map
        Response.console =
      (console.run requests).map Response.console := by
  induction requests generalizing console durations with
  | nil => rfl
  | cons request others ih =>
      rw [List.mapIdx_cons, run, run, List.map_cons, List.map_cons, console_respond_taking]
      exact congrArg _ (ih _ fun place => durations (place + 1))

/-- From a request on that sets timing, the consoles are the same. -/
theorem consoles_of_setting (session : Session) (timed other : Bool) {requests : List Request}
    (durations : Nat → Nat) {place : Nat} (found : requests[place]? = some request)
    (sets : request.setting?.isSome = true) :
    (((Console.mk session timed).run requests).drop place).map Response.console =
      (((Console.mk session other).run
        (requests.mapIdx fun place => Request.taking (durations place))).drop place).map
          Response.console := by
  induction requests generalizing session timed other durations place with
  | nil => exact absurd found (by simp)
  | cons first others ih =>
      have apart := apart_respond session timed other first (durations 0)
      have kept : ((Console.mk session timed).respond first).console.session =
          ((Console.mk session other).respond (first.taking (durations 0))).console.session :=
        congrArg (fun apart => apart.2.2) apart
      have settings := (step_respond ⟨session, timed⟩ first).setting
      have otherSettings := (step_respond ⟨session, other⟩ first).setting
      rw [← console_respond_taking _ _ (durations 0)] at otherSettings
      rw [List.mapIdx_cons, run, run]
      generalize (Console.mk session timed).respond first = response at kept settings ⊢
      generalize (Console.mk session other).respond _ = answer at kept otherSettings ⊢
      obtain ⟨_, _, ⟨next, set⟩⟩ := response
      obtain ⟨_, _, ⟨otherNext, otherSet⟩⟩ := answer
      obtain rfl : next = otherNext := kept
      cases place with
      | zero =>
          obtain rfl : first = request := Option.some.inj found
          obtain ⟨setting, same⟩ := Option.isSome_iff_exists.mp sets
          simp only [same, Option.getD_some] at settings otherSettings
          subst settings otherSettings
          rw [List.drop_zero, List.drop_zero, List.map_cons, List.map_cons]
          exact congrArg (List.cons _)
            (consoles_run_taking _ others fun place => durations (place + 1)).symm
      | succ place => exact ih next set otherSet (fun place => durations (place + 1)) found

/-- Two consoles with the same variables are asked for the same things, which may take them different
times; timing may be on for one of them only.  Step by step they come to the same outcomes and have
the same variables, and without the times they show the same.  From a request on that sets timing,
the consoles are the same.  The times are all that is left out: they come last, and only where a
line was evaluated with timing on. -/
theorem runs_agree_apart_from_timing (session : Session) (timed other : Bool)
    (requests : List Request) (durations : Nat → Nat) :
    let again := requests.mapIdx fun place => Request.taking (durations place)
    let responses := (Console.mk session timed).run requests
    let answers := (Console.mk session other).run again
    responses.map Response.outcome = answers.map Response.outcome ∧
      (responses.map fun response => response.console.session) =
        (answers.map fun answer => answer.console.session) ∧
      responses.flatMap Response.untimed = answers.flatMap Response.untimed ∧
      (∀ place request, requests[place]? = some request → request.setting?.isSome = true →
        (responses.drop place).map Response.console = (answers.drop place).map Response.console) ∧
      ∀ (console : Console) (request : Request),
        (console.respond request).events =
          (console.respond request).untimed ++ request.time console.timed := by
  intro again responses answers
  have apart : responses.map Response.apart = answers.map Response.apart :=
    run_apart session timed other requests durations
  have same {α : Type} (part : Option Outcome × List Event × Session → α) :
      responses.map (part ∘ Response.apart) = answers.map (part ∘ Response.apart) := by
    rw [← List.map_map, apart, List.map_map]
  exact ⟨same Prod.fst, same fun parts => parts.2.2,
    congrArg List.flatten (same fun parts => parts.2.1),
    fun place request => consoles_of_setting session timed other durations,
    fun console request => (step_respond console request).events⟩

end Console

end LineCalc
