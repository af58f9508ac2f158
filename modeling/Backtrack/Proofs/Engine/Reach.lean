import Backtrack.Engine.Run
import Backtrack.Proofs.Engine.Levels

/-!
Runs.  A state is reachable if instructions that all succeed lead to it, after
the first unit of the input was waited for.  A run can also be traced: the trace
keeps every instruction with the state that it found, and a run is its trace with
everything but the builder forgotten.
-/

namespace Backtrack

namespace Engine

inductive Steps (config : Config) :
    Engine → Buffer → List Instruction → Engine → Buffer → Prop
  | nil {e : Engine} {b : Buffer} : Steps config e b [] e b
  | cons {e e₁ e' : Engine} {b b₁ b' : Buffer} {i : Instruction} {rest : List Instruction}
      {answer : Answer} : Yields (step config e i : Exec Answer _) b (answer, e₁) b₁ →
      Steps config e₁ b₁ rest e' b' → Steps config e b (i :: rest) e' b'

/-- The state `e` is reached over `input`, of which `b` has arrived. -/
def Reachable (config : Config) (input : Buffer) (e : Engine) (b : Buffer) : Prop :=
  ∃ b₀ instructions, (Job.await 1 : Job Answer Buffer).Runs input b₀ b₀ ∧
    Steps config (start config) b₀ instructions e b

theorem Stands.of_step {config : Config} {e e' : Engine} {i : Instruction} {answer : Answer}
    {b b' : Buffer} {levels : List Level} (h : e.Stands levels)
    (hstep : Yields (step config e i : Exec Answer _) b (answer, e') b') :
    ∃ levels', Level.Step b.content i levels levels' ∧ e'.Stands levels' :=
  (h.executed (e.executed + 1)).of_transition (transition_of_step hstep)

theorem Stands.of_steps {config : Config} {e e' : Engine} {b b' : Buffer}
    {instructions : List Instruction} {levels : List Level} (h : e.Stands levels)
    (hsteps : Steps config e b instructions e' b') : ∃ levels', e'.Stands levels' := by
  induction hsteps generalizing levels with
  | nil => exact ⟨levels, h⟩
  | cons hstep _ ih =>
      obtain ⟨levels₁, _, hstands⟩ := h.of_step hstep
      exact ih hstands

theorem Steps.append {config : Config} {e e₁ e' : Engine} {b b₁ b' : Buffer}
    {before after : List Instruction} (h : Steps config e b before e₁ b₁)
    (hafter : Steps config e₁ b₁ after e' b') : Steps config e b (before ++ after) e' b' := by
  induction h with
  | nil => exact hafter
  | cons hstep _ ih => exact .cons hstep (ih hafter)

theorem Reachable.step {config : Config} {input b b' : Buffer} {e e' : Engine} {i : Instruction}
    {answer : Answer} (h : Reachable config input e b)
    (hstep : Yields (step config e i : Exec Answer _) b (answer, e') b') :
    Reachable config input e' b' := by
  obtain ⟨b₀, instructions, hawait, hsteps⟩ := h
  exact ⟨b₀, instructions ++ [i], hawait, hsteps.append (.cons hstep .nil)⟩

/-- The journals of a reachable state stand for one state for each frame. -/
theorem Reachable.exists_stands {config : Config} {input b : Buffer} {e : Engine}
    (h : Reachable config input e b) : ∃ levels, e.Stands levels := by
  obtain ⟨b₀, instructions, _, hsteps⟩ := h
  exact (stands_start config).of_steps hsteps

/-! ## Instructions that never wait -/

def execute (config : Config) : List Instruction → Engine → Buffer → Option (Engine × Buffer)
  | [], e, b => some (e, b)
  | i :: rest, e, b =>
    match (step config e i : Exec Answer _).run.poll b [] with
    | { buffer, outcome := .inl (.ok (_, e')), .. } => execute config rest e' buffer
    | _ => none

theorem steps_of_execute {config : Config} {instructions : List Instruction} {e e' : Engine}
    {b b' : Buffer} (h : execute config instructions e b = some (e', b')) :
    Steps config e b instructions e' b' := by
  induction instructions generalizing e b with
  | nil =>
      cases h
      exact .nil
  | cons i rest ih =>
      rw [execute] at h
      split at h
      · next events buffer answer e₁ hpoll =>
          have hruns := (@Job.runs_of_poll Answer _ (step config e i).run b []).1 _
            (by rw [hpoll])
          rw [hpoll] at hruns
          exact .cons hruns (ih h)
      · cases h

theorem Steps.exists_yields {config : Config} {e e' : Engine} {b b' : Buffer} {i : Instruction}
    (h : Steps config e b [i] e' b') :
    ∃ answer, Yields (step config e i : Exec Answer _) b (answer, e') b' := by
  cases h with
  | cons hstep hrest =>
      cases hrest
      exact ⟨_, hstep⟩

theorem execute_append (config : Config) (before after : List Instruction) (e : Engine)
    (b : Buffer) :
    execute config (before ++ after) e b =
      (execute config before e b).bind fun reached => execute config after reached.1 reached.2 := by
  induction before generalizing e b with
  | nil => rfl
  | cons i rest ih =>
      rw [List.cons_append, execute, execute]
      split
      · exact ih _ _
      · rfl

theorem reachable_of_execute {config : Config} {instructions : List Instruction}
    {input b₀ b : Buffer} {e : Engine} (hfill : input.fill 1 = (b₀, true))
    (h : execute config instructions (start config) b₀ = some (e, b)) :
    Reachable config input e b :=
  ⟨b₀, instructions, .fill hfill .done, steps_of_execute h⟩

/-! ## Traces -/

/-- A run with every instruction and the state that it found. -/
def traceFrom (config : Config) :
    Strategy Unit → Engine → Job Answer (List (Engine × Instruction) × Except Error Engine)
  | .done _, e => .done ([], .ok e)
  | .pause rest, e => .pause (traceFrom config rest e)
  | .ask i rest, e =>
    Job.bind (step config e i).run fun
      | .error error => .done ([(e, i)], .error error)
      | .ok (answer, e') =>
        .emit answer (Job.bind (traceFrom config (rest answer) e') fun traced =>
          .done ((e, i) :: traced.1, traced.2))

def trace (config : Config) (strategy : Strategy Unit) :
    Job Answer (List (Engine × Instruction) × Except Error Engine) :=
  .fill 1 fun _ => traceFrom config strategy (start config)

end Engine

namespace Job

variable {ω α β γ : Type}

theorem bind_assoc (job : Job ω α) (f : α → Job ω β) (g : β → Job ω γ) :
    (job.bind f).bind g = job.bind fun a => (f a).bind g := by
  induction job with
  | done a => rfl
  | emit event rest ih => simp only [bind, ih]
  | fill upto rest ih => simp only [bind, ih]
  | pause rest ih => simp only [bind, ih]

theorem poll_bind_done (job : Job ω α) (f : α → β) (b : Buffer) (events : List ω) :
    (job.bind fun a => .done (f a)).poll b events =
      let polled := job.poll b events
      { events := polled.events, buffer := polled.buffer,
        outcome := polled.outcome.map f fun rest => rest.bind fun a => .done (f a) } := by
  induction job generalizing b events with
  | done a => rfl
  | emit event rest ih => exact ih b (event :: events)
  | fill upto rest ih =>
      simp only [bind, poll]
      split
      · exact ih _ _ _
      · rfl
  | pause rest ih => rfl

theorem result_drive_bind_done (polls : Nat) (job : Job ω α) (f : α → β) (b : Buffer) :
    ((job.bind fun a => .done (f a)).drive polls b).result =
      (job.drive polls b).result.map f := by
  suffices hfrom : ∀ events waits,
      (driveFrom polls (job.bind fun a => .done (f a)) b events waits).result =
        (driveFrom polls job b events waits).result.map f from hfrom [] 0
  induction polls generalizing job b with
  | zero =>
      intro events waits
      rfl
  | succ polls ih =>
      intro events waits
      rw [driveFrom, driveFrom, poll_bind_done]
      rcases job.poll b events with ⟨events', b', a | rest⟩
      · rfl
      · exact ih rest b' events' (waits + 1)

end Job

namespace Engine

theorem runFrom_eq_traceFrom (config : Config) (strategy : Strategy Unit) (e : Engine) :
    runFrom config strategy e =
      (traceFrom config strategy e).bind fun traced => .done (traced.2.map (·.builder)) := by
  induction strategy generalizing e with
  | done a => rfl
  | pause rest ih =>
      rw [runFrom, traceFrom, ih]
      rfl
  | ask i rest ih =>
      rw [runFrom, traceFrom, Job.bind_assoc]
      congr 1
      funext result
      cases result with
      | error error => rfl
      | ok pair =>
          obtain ⟨answer, e'⟩ := pair
          show Job.emit answer _ = Job.emit answer _
          rw [ih answer e', Job.bind_assoc]
          rfl

theorem run_eq_trace (config : Config) (strategy : Strategy Unit) :
    run config strategy =
      (trace config strategy).bind fun traced => .done (traced.2.map (·.builder)) := by
  rw [run, trace, Job.bind]
  simp only [runFrom_eq_traceFrom]

theorem result_run (config : Config) (strategy : Strategy Unit) (polls : Nat) (input : Buffer) :
    ((run config strategy).drive polls input).result =
      ((trace config strategy).drive polls input).result.map fun traced =>
        traced.2.map (·.builder) := by
  rw [run_eq_trace, Job.result_drive_bind_done]

end Engine

end Backtrack
