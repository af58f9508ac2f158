import Backtrack.Proofs.Input.Runs
import Mathlib.Data.List.Forall2

/-!
Two jobs side by side.  A job follows another if both ask the input for the same,
report events that belong together and end with results that belong together; it may
also stop early.  Driven over the same input, the two then wait alike, and what came
of them belongs together.
-/

namespace Backtrack

namespace Job

variable {ω α β γ δ : Type}

/-- The second job does what the first does, unless it stops with a result that `Stop`
admits. -/
inductive Follows (E : ω → ω → Prop) (R : α → β → Prop) (Stop : β → Prop) :
    Job ω α → Job ω β → Prop
  | done {a : α} {c : β} : R a c → Follows E R Stop (.done a) (.done c)
  | stop {job : Job ω α} {c : β} : Stop c → Follows E R Stop job (.done c)
  | emit {event event' : ω} {rest : Job ω α} {rest' : Job ω β} : E event event' →
      Follows E R Stop rest rest' → Follows E R Stop (.emit event rest) (.emit event' rest')
  | fill {upto : Nat} {rest : Buffer → Job ω α} {rest' : Buffer → Job ω β} :
      (∀ b, Follows E R Stop (rest b) (rest' b)) →
      Follows E R Stop (.fill upto rest) (.fill upto rest')
  | pause {rest : Job ω α} {rest' : Job ω β} : Follows E R Stop rest rest' →
      Follows E R Stop (.pause rest) (.pause rest')

variable {E : ω → ω → Prop} {R : α → β → Prop} {Stop : β → Prop}

theorem Follows.bind {R' : γ → δ → Prop} {Stop' : δ → Prop} {job : Job ω α} {job' : Job ω β}
    {f : α → Job ω γ} {g : β → Job ω δ} (h : Follows E R Stop job job')
    (hf : ∀ a c, R a c → Follows E R' Stop' (f a) (g c))
    (hstop : ∀ c, Stop c → ∃ d, g c = .done d ∧ Stop' d) :
    Follows E R' Stop' (job.bind f) (job'.bind g) := by
  induction h with
  | done hresult => exact hf _ _ hresult
  | stop hstopped =>
      obtain ⟨d, hdone, hstopped⟩ := hstop _ hstopped
      rw [Job.bind, hdone]
      exact .stop hstopped
  | emit hevent _ ih => exact .emit hevent ih
  | fill _ ih => exact .fill ih
  | pause _ ih => exact .pause ih

theorem Follows.mono {R' : α → β → Prop} {job : Job ω α} {job' : Job ω β}
    (h : Follows E R Stop job job') (hR : ∀ a c, R a c → R' a c) :
    Follows E R' Stop job job' := by
  induction h with
  | done hresult => exact .done (hR _ _ hresult)
  | stop hstopped => exact .stop hstopped
  | emit hevent _ ih => exact .emit hevent ih
  | fill _ ih => exact .fill ih
  | pause _ ih => exact .pause ih

/-! ## Polling -/

theorem poll_events (job : Job ω α) (b : Buffer) (events : List ω) :
    job.poll b events = { job.poll b [] with events := (job.poll b []).events ++ events } := by
  induction job generalizing b events with
  | done a => rfl
  | emit event rest ih =>
      rw [poll, poll, ih b (event :: events), ih b [event]]
      simp
  | fill upto rest ih =>
      rw [poll, poll]
      split
      · exact ih _ _ _
      · rfl
  | pause rest ih => rfl

theorem driveFrom_events (polls : Nat) (job : Job ω α) (b : Buffer) (events : List ω)
    (waits : Nat) :
    driveFrom polls job b events waits =
      { job.drive polls b with
        events := events.reverse ++ (job.drive polls b).events
        waits := waits + (job.drive polls b).waits } := by
  rw [drive]
  induction polls generalizing job b events waits with
  | zero => simp [driveFrom]
  | succ polls ih =>
      rw [driveFrom, driveFrom, job.poll_events b events]
      rcases job.poll b [] with ⟨reported, b', a | rest⟩
      · simp
      · simp only
        rw [ih rest b' (reported ++ events) (waits + 1), ih rest b' reported (0 + 1)]
        simp [Nat.add_assoc]

/-- Where one poll leaves two jobs side by side. -/
inductive Polled.Follows (E : ω → ω → Prop) (R : α → β → Prop) (Stop : β → Prop) :
    Polled ω α → Polled ω β → Prop
  | stop {left : Polled ω α} {events : List ω} {b : Buffer} {c : β} : Stop c →
      Polled.Follows E R Stop left ⟨events, b, .inl c⟩
  | done {events events' : List ω} {b : Buffer} {a : α} {c : β} :
      List.Forall₂ E events events' → R a c →
      Polled.Follows E R Stop ⟨events, b, .inl a⟩ ⟨events', b, .inl c⟩
  | wait {events events' : List ω} {b : Buffer} {rest : Job ω α} {rest' : Job ω β} :
      List.Forall₂ E events events' → rest.Follows E R Stop rest' →
      Polled.Follows E R Stop ⟨events, b, .inr rest⟩ ⟨events', b, .inr rest'⟩

theorem Follows.poll {job : Job ω α} {job' : Job ω β} (h : Follows E R Stop job job')
    (b : Buffer) {events events' : List ω} (hevents : List.Forall₂ E events events') :
    Polled.Follows E R Stop (job.poll b events) (job'.poll b events') := by
  induction h generalizing b events events' with
  | done hresult => exact .done hevents hresult
  | stop hstopped => exact .stop hstopped
  | emit hevent _ ih => exact ih b (.cons hevent hevents)
  | fill hrest ih =>
      rw [Job.poll, Job.poll]
      split
      · exact ih _ _ hevents
      · exact .wait hevents (.fill hrest)
  | pause hrest _ => exact .wait hevents hrest

/-- What came of two jobs that were driven side by side. -/
structure Driven.Alike (E : ω → ω → Prop) (R : α → β → Prop) (left : Driven ω α)
    (right : Driven ω β) : Prop where
  events : List.Forall₂ E left.events right.events
  buffer : left.buffer = right.buffer
  waits : left.waits = right.waits
  result : Option.Rel R left.result right.result

theorem Follows.driveFrom {job : Job ω α} {job' : Job ω β} (h : Follows E R Stop job job')
    (polls : Nat) (b : Buffer) {events events' : List ω} (waits : Nat)
    (hevents : List.Forall₂ E events events') :
    (∃ c, (driveFrom polls job' b events' waits).result = some c ∧ Stop c) ∨
      Driven.Alike E R (driveFrom polls job b events waits)
        (driveFrom polls job' b events' waits) := by
  induction polls generalizing job job' b events events' waits with
  | zero => exact Or.inr ⟨List.rel_reverse hevents, rfl, rfl, .none⟩
  | succ polls ih =>
      rw [Job.driveFrom, Job.driveFrom]
      have hpolled := h.poll b hevents
      generalize job.poll b events = left at hpolled
      generalize job'.poll b events' = right at hpolled
      cases hpolled with
      | stop hstopped => exact Or.inl ⟨_, rfl, hstopped⟩
      | done hevents hresult =>
          exact Or.inr ⟨List.rel_reverse hevents, rfl, rfl, .some hresult⟩
      | wait hevents hrest => exact ih hrest _ (waits + 1) hevents

/-- Driven over the same input, a job that follows another has stopped, or has come as
far. -/
theorem Follows.drive {job : Job ω α} {job' : Job ω β} (h : Follows E R Stop job job')
    (polls : Nat) (b : Buffer) :
    (∃ c, (job'.drive polls b).result = some c ∧ Stop c) ∨
      Driven.Alike E R (job.drive polls b) (job'.drive polls b) :=
  h.driveFrom polls b 0 .nil

/-! ## One job after the other -/

theorem poll_bind (job : Job ω α) (f : α → Job ω γ) (b : Buffer) (events : List ω) :
    (job.bind f).poll b events =
      match job.poll b events with
      | ⟨events, b, .inl a⟩ => (f a).poll b events
      | ⟨events, b, .inr rest⟩ => ⟨events, b, .inr (rest.bind f)⟩ := by
  induction job generalizing b events with
  | done a => rfl
  | emit event rest ih => exact ih b (event :: events)
  | fill upto rest ih =>
      rw [Job.bind, poll, poll]
      split
      · exact ih _ _ _
      · rfl
  | pause rest ih => rfl

theorem drive_bind_of_none (f : α → Job ω γ) {polls : Nat} {job : Job ω α} {b : Buffer}
    (h : (job.drive polls b).result = none) :
    (job.bind f).drive polls b = { job.drive polls b with result := none } := by
  induction polls generalizing job b with
  | zero => rfl
  | succ polls ih =>
      rw [drive, driveFrom] at h
      rw [drive, drive, driveFrom, driveFrom, poll_bind]
      rcases hpoll : job.poll b [] with ⟨reported, b', a | rest⟩
      · rw [hpoll] at h
        cases h
      · rw [hpoll] at h
        dsimp only at h ⊢
        rw [driveFrom_events] at h
        rw [driveFrom_events polls rest, driveFrom_events polls (rest.bind f), ih h]

/-- The second job has the polls that the first one leaves, and begins in the poll in which
that ends. -/
theorem drive_bind_of_some (f : α → Job ω γ) {polls : Nat} {job : Job ω α} {b : Buffer} {a : α}
    (h : (job.drive polls b).result = some a) :
    ∃ left, (job.drive polls b).waits + (left + 1) = polls ∧
      (job.bind f).drive polls b =
        { (f a).drive (left + 1) (job.drive polls b).buffer with
          events := (job.drive polls b).events ++
            ((f a).drive (left + 1) (job.drive polls b).buffer).events
          waits := (job.drive polls b).waits +
            ((f a).drive (left + 1) (job.drive polls b).buffer).waits } := by
  induction polls generalizing job b with
  | zero => cases h
  | succ polls ih =>
      rw [drive, driveFrom] at h
      rw [drive, drive, driveFrom, driveFrom, poll_bind]
      rcases hpoll : job.poll b [] with ⟨reported, b', a' | rest⟩
      · rw [hpoll] at h
        cases h
        exact ⟨polls, Nat.zero_add _, driveFrom_events (polls + 1) (f a) b' reported 0⟩
      · rw [hpoll] at h
        dsimp only at h ⊢
        rw [driveFrom_events] at h
        obtain ⟨left, hleft, hdrive⟩ := ih h
        refine ⟨left, ?_, ?_⟩
        · rw [driveFrom_events]
          dsimp only
          omega
        · rw [driveFrom_events polls rest, driveFrom_events polls (rest.bind f), hdrive]
          simp [Nat.add_assoc]

theorem drive_emit (polls : Nat) (event : ω) (rest : Job ω α) (b : Buffer) :
    (emit event rest).drive (polls + 1) b =
      { rest.drive (polls + 1) b with events := event :: (rest.drive (polls + 1) b).events } := by
  have hevents := driveFrom_events (polls + 1) rest b [event] 0
  rw [Nat.zero_add] at hevents
  exact hevents

theorem drive_pause (polls : Nat) (rest : Job ω α) (b : Buffer) :
    (pause rest).drive (polls + 1) b =
      { rest.drive polls b with waits := 1 + (rest.drive polls b).waits } :=
  driveFrom_events polls rest b [] 1

/-- A job followed by one that ends at once. -/
theorem drive_bind_of_poll {f : α → Job ω γ} {polls : Nat} {job : Job ω α} {b b' : Buffer}
    {told : List ω} {a : α} {c : γ} (h : (job.drive polls b).result = some a)
    (hpoll : (f a).poll (job.drive polls b).buffer [] = ⟨told, b', .inl c⟩) :
    (job.bind f).drive polls b =
      { events := (job.drive polls b).events ++ told.reverse
        buffer := b'
        waits := (job.drive polls b).waits
        result := some c } := by
  obtain ⟨left, _, hdrive⟩ := drive_bind_of_some f h
  have hsecond : (f a).drive (left + 1) (job.drive polls b).buffer =
      { events := told.reverse, buffer := b', waits := 0, result := some c } := by
    rw [drive, driveFrom, hpoll]
  rw [hdrive, hsecond]
  rfl

end Job

end Backtrack
