import Backtrack.Input.Buffer

/-!
Jobs: computations that read the input and may have to wait for it.  A job
says what it needs next instead of blocking.  Polling a job goes on until it is
done or has to wait, and a job that had to wait can be polled again later, or be
dropped.
-/

namespace Backtrack

/-- A computation with result `α` that reports events `ω` on its way. -/
inductive Job (ω α : Type) where
  | done (a : α)
  | emit (event : ω) (rest : Job ω α)
  /-- Go on with the buffer once `upto` units have arrived or the input has
  ended. -/
  | fill (upto : Nat) (rest : Buffer → Job ω α)
  /-- Wait once for something other than the input. -/
  | pause (rest : Job ω α)

namespace Job

variable {ω α β : Type}

def bind : Job ω α → (α → Job ω β) → Job ω β
  | .done a, f => f a
  | .emit event rest, f => .emit event (rest.bind f)
  | .fill upto rest, f => .fill upto (fun b => (rest b).bind f)
  | .pause rest, f => .pause (rest.bind f)

instance : Monad (Job ω) where
  pure := .done
  bind := Job.bind

/-- The buffer once `upto` units have arrived or the input has ended.  The count
is a machine number: one that is too large starts again from zero. -/
def await (upto : Nat) : Job ω Buffer := .fill (upto % UInt64.size) .done

def look : Job ω Buffer := .fill 0 .done

/-- Where one poll leaves a job. -/
structure Polled (ω α : Type) where
  /-- What was reported, last first. -/
  events : List ω
  buffer : Buffer
  /-- The result, or what is left to do after a wait. -/
  outcome : α ⊕ Job ω α

/-- Go on until the job is done or has to wait.  `events` holds what was
reported before. -/
def poll : Job ω α → Buffer → List ω → Polled ω α
  | .done a, buffer, events => { events, buffer, outcome := .inl a }
  | .emit event rest, buffer, events => rest.poll buffer (event :: events)
  | .fill upto rest, buffer, events =>
    match buffer.fill upto with
    | (buffer, true) => (rest buffer).poll buffer events
    | (buffer, false) => { events, buffer, outcome := .inr (.fill upto rest) }
  | .pause rest, buffer, events => { events, buffer, outcome := .inr rest }

/-- Where a number of polls leaves a job. -/
structure Driven (ω α : Type) where
  events : List ω
  buffer : Buffer
  /-- How many polls had to wait. -/
  waits : Nat
  /-- The result, unless every poll had to wait. -/
  result : Option α

def driveFrom : Nat → Job ω α → Buffer → List ω → Nat → Driven ω α
  | 0, _, buffer, events, waits => { events := events.reverse, buffer, waits, result := none }
  | polls + 1, job, buffer, events, waits =>
    match job.poll buffer events with
    | { events, buffer, outcome := .inl a } =>
      { events := events.reverse, buffer, waits, result := some a }
    | { events, buffer, outcome := .inr rest } => driveFrom polls rest buffer events (waits + 1)

def drive (polls : Nat) (job : Job ω α) (buffer : Buffer) : Driven ω α :=
  driveFrom polls job buffer [] 0

end Job

end Backtrack
