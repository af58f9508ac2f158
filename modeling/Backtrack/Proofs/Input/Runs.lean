import Backtrack.Engine.Step
import Backtrack.Proofs.Input.Content

/-!
How a job ends.  `Runs` says that a job that starts on one buffer ends with a
result on another, however often it has to wait on the way.  A job that was
driven to its end runs to that end, and the parts of a composed job run one after
the other.
-/

namespace Backtrack

namespace Job

variable {ω α β : Type}

/-- The job ends with a result and leaves a buffer. -/
inductive Runs : Job ω α → Buffer → α → Buffer → Prop
  | done {a : α} {b : Buffer} : Runs (.done a) b a b
  | emit {event : ω} {rest : Job ω α} {a : α} {b b' : Buffer} :
      Runs rest b a b' → Runs (.emit event rest) b a b'
  | fill {upto : Nat} {rest : Buffer → Job ω α} {a : α} {b b₁ b' : Buffer} :
      b.fill upto = (b₁, true) → Runs (rest b₁) b₁ a b' → Runs (.fill upto rest) b a b'
  /-- What arrived before the wait is kept, and the job asks again. -/
  | wait {upto : Nat} {rest : Buffer → Job ω α} {a : α} {b b₁ b' : Buffer} :
      b.fill upto = (b₁, false) → Runs (.fill upto rest) b₁ a b' →
      Runs (.fill upto rest) b a b'
  | pause {rest : Job ω α} {a : α} {b b' : Buffer} :
      Runs rest b a b' → Runs (.pause rest) b a b'

theorem runs_done_iff {x a : α} {b b' : Buffer} :
    Runs (.done x : Job ω α) b a b' ↔ a = x ∧ b' = b := by
  constructor
  · intro h
    cases h
    exact ⟨rfl, rfl⟩
  · rintro ⟨rfl, rfl⟩
    exact .done

theorem runs_fill_of_done {upto : Nat} {rest : Buffer → Job ω α} {a : α} {b b₁ b₂ b' : Buffer}
    (hfilled : Runs (.fill upto .done : Job ω Buffer) b b₁ b₂) (hrest : Runs (rest b₁) b₂ a b') :
    Runs (.fill upto rest) b a b' := by
  generalize hjob : (.fill upto .done : Job ω Buffer) = job at hfilled
  induction hfilled with
  | done => cases hjob
  | emit => cases hjob
  | pause => cases hjob
  | fill hfill hdone =>
      cases hjob
      obtain ⟨rfl, rfl⟩ := runs_done_iff.mp hdone
      exact .fill hfill hrest
  | wait hfill _ ih =>
      cases hjob
      exact .wait hfill (ih hrest rfl)

theorem runs_fill_iff {upto : Nat} {rest : Buffer → Job ω α} {a : α} {b b' : Buffer} :
    Runs (.fill upto rest) b a b' ↔
      ∃ b₁, Runs (.fill upto .done : Job ω Buffer) b b₁ b₁ ∧ Runs (rest b₁) b₁ a b' := by
  constructor
  · intro h
    generalize hjob : (Job.fill upto rest : Job ω α) = job at h
    induction h with
    | done => cases hjob
    | emit => cases hjob
    | pause => cases hjob
    | fill hfill hrest =>
        cases hjob
        exact ⟨_, .fill hfill .done, hrest⟩
    | wait hfill _ ih =>
        cases hjob
        obtain ⟨b₂, hfilled, hrest⟩ := ih rfl
        exact ⟨b₂, .wait hfill hfilled, hrest⟩
  · rintro ⟨b₁, hfilled, hrest⟩
    exact runs_fill_of_done hfilled hrest

theorem runs_bind_iff {job : Job ω α} {f : α → Job ω β} {c : β} {b b' : Buffer} :
    Runs (job.bind f) b c b' ↔ ∃ a b₁, Runs job b a b₁ ∧ Runs (f a) b₁ c b' := by
  induction job generalizing b with
  | done x =>
      constructor
      · intro h
        exact ⟨x, b, .done, h⟩
      · rintro ⟨a, b₁, hdone, h⟩
        obtain ⟨rfl, rfl⟩ := runs_done_iff.mp hdone
        exact h
  | emit event rest ih =>
      constructor
      · intro h
        cases h with
        | emit h =>
            obtain ⟨a, b₁, hrest, h⟩ := ih.mp h
            exact ⟨a, b₁, .emit hrest, h⟩
      · rintro ⟨a, b₁, hemit, h⟩
        cases hemit with
        | emit hrest => exact .emit (ih.mpr ⟨a, b₁, hrest, h⟩)
  | fill upto rest ih =>
      constructor
      · intro h
        obtain ⟨b₁, hfilled, h⟩ := runs_fill_iff.mp h
        obtain ⟨a, b₂, hrest, h⟩ := (ih b₁).mp h
        exact ⟨a, b₂, runs_fill_iff.mpr ⟨b₁, hfilled, hrest⟩, h⟩
      · rintro ⟨a, b₂, hfill, h⟩
        obtain ⟨b₁, hfilled, hrest⟩ := runs_fill_iff.mp hfill
        exact runs_fill_iff.mpr ⟨b₁, hfilled, (ih b₁).mpr ⟨a, b₂, hrest, h⟩⟩
  | pause rest ih =>
      constructor
      · intro h
        cases h with
        | pause h =>
            obtain ⟨a, b₁, hrest, h⟩ := ih.mp h
            exact ⟨a, b₁, .pause hrest, h⟩
      · rintro ⟨a, b₁, hpause, h⟩
        cases hpause with
        | pause hrest => exact .pause (ih.mpr ⟨a, b₁, hrest, h⟩)

/-- Running a job changes how much has arrived, and nothing else. -/
theorem Runs.content_eq {job : Job ω α} {a : α} {b b' : Buffer} (h : Runs job b a b') :
    b'.content = b.content := by
  induction h with
  | done => rfl
  | emit _ ih => exact ih
  | @fill upto _ _ b _ _ hfill _ ih =>
      have hcontent := b.content_fill upto
      rw [hfill] at hcontent
      exact ih.trans hcontent
  | @wait upto _ _ b _ _ hfill _ ih =>
      have hcontent := b.content_fill upto
      rw [hfill] at hcontent
      exact ih.trans hcontent
  | pause _ ih => exact ih

theorem Runs.size_le {job : Job ω α} {a : α} {b b' : Buffer} (h : Runs job b a b') :
    b.size ≤ b'.size := by
  induction h with
  | done => exact Nat.le_refl _
  | emit _ ih => exact ih
  | @fill upto _ _ b _ _ hfill _ ih =>
      have hsize := b.size_fill upto
      rw [hfill] at hsize
      exact Nat.le_trans hsize ih
  | @wait upto _ _ b _ _ hfill _ ih =>
      have hsize := b.size_fill upto
      rw [hfill] at hsize
      exact Nat.le_trans hsize ih
  | pause _ ih => exact ih

theorem Runs.unique {job : Job ω α} {a a' : α} {b b' b'' : Buffer} (h : Runs job b a b')
    (h' : Runs job b a' b'') : a' = a ∧ b'' = b' := by
  induction h with
  | done => exact runs_done_iff.mp h'
  | emit _ ih =>
      cases h' with
      | emit h' => exact ih h'
  | fill hfill _ ih =>
      cases h' with
      | fill hfill' h' =>
          rw [hfill] at hfill'
          cases hfill'
          exact ih h'
      | wait hfill' _ =>
          rw [hfill] at hfill'
          cases hfill'
  | wait hfill _ ih =>
      cases h' with
      | fill hfill' _ =>
          rw [hfill] at hfill'
          cases hfill'
      | wait hfill' h' =>
          rw [hfill] at hfill'
          cases hfill'
          exact ih h'
  | pause _ ih =>
      cases h' with
      | pause h' => exact ih h'

theorem reached_of_fill {upto : Nat} {b b₁ b' : Buffer}
    (h : Runs (.fill upto .done : Job ω Buffer) b b₁ b') : b' = b₁ ∧ b₁.Reached upto := by
  generalize hjob : (.fill upto .done : Job ω Buffer) = job at h
  induction h with
  | done => cases hjob
  | emit => cases hjob
  | pause => cases hjob
  | fill hfill hdone =>
      cases hjob
      obtain ⟨rfl, rfl⟩ := runs_done_iff.mp hdone
      exact ⟨rfl, Buffer.reached_fill hfill⟩
  | wait _ _ ih => exact ih hjob

theorem reached_of_await {upto : Nat} {b b₁ b' : Buffer}
    (h : Runs (await upto : Job ω Buffer) b b₁ b') :
    b' = b₁ ∧ b₁.Reached (upto % UInt64.size) :=
  reached_of_fill h

theorem runs_look (b : Buffer) : Runs (look : Job ω Buffer) b b b := .fill b.fill_zero .done

theorem eq_of_look {b b₁ b' : Buffer} (h : Runs (look : Job ω Buffer) b b₁ b') :
    b₁ = b ∧ b' = b := by
  cases h with
  | fill hfill hdone =>
      obtain ⟨rfl, rfl⟩ := runs_done_iff.mp hdone
      rw [Buffer.fill_zero] at hfill
      cases hfill
      exact ⟨rfl, rfl⟩
  | wait hfill _ =>
      rw [Buffer.fill_zero] at hfill
      cases hfill

/-! ## Driving -/

theorem runs_of_poll {job : Job ω α} {b : Buffer} {events : List ω} :
    (∀ a, (job.poll b events).outcome = .inl a → Runs job b a (job.poll b events).buffer) ∧
      ∀ rest, (job.poll b events).outcome = .inr rest → ∀ a b',
        Runs rest (job.poll b events).buffer a b' → Runs job b a b' := by
  induction job generalizing b events with
  | done x =>
      refine ⟨?_, fun rest h => nomatch h⟩
      intro a h
      cases h
      exact .done
  | emit event rest ih =>
      obtain ⟨hdone, hrest⟩ := @ih b (event :: events)
      exact ⟨fun a h => .emit (hdone a h), fun job h a b' hruns => .emit (hrest job h a b' hruns)⟩
  | fill upto rest ih =>
      rw [poll]
      split
      · next b₁ hfill =>
          obtain ⟨hdone, hrest⟩ := @ih b₁ b₁ events
          exact ⟨fun a h => .fill hfill (hdone a h),
            fun job h a b' hruns => .fill hfill (hrest job h a b' hruns)⟩
      · next b₁ hfill =>
          refine ⟨fun a h => (nomatch h), ?_⟩
          intro job h a b' hruns
          cases h
          exact .wait hfill hruns
  | pause rest ih =>
      refine ⟨fun a h => (nomatch h), ?_⟩
      intro job h a b' hruns
      cases h
      exact .pause hruns

theorem runs_drive {polls : Nat} {job : Job ω α} {b : Buffer} {a : α}
    (h : (job.drive polls b).result = some a) : Runs job b a (job.drive polls b).buffer := by
  suffices hfrom : ∀ events waits, (driveFrom polls job b events waits).result = some a →
      Runs job b a (driveFrom polls job b events waits).buffer from hfrom [] 0 h
  clear h
  induction polls generalizing job b with
  | zero =>
      intro events waits h
      cases h
  | succ polls ih =>
      intro events waits h
      obtain ⟨hdone, hrest⟩ := @runs_of_poll ω α job b events
      rw [driveFrom] at h ⊢
      split at h
      · next hpoll =>
          rw [hpoll] at hdone
          cases h
          exact hdone a rfl
      · next rest hpoll =>
          rw [hpoll] at hrest
          exact hrest rest rfl a _ (ih _ _ h)

theorem runs_of_drive {polls : Nat} {job : Job ω α} {b : Buffer} {a : α}
    (h : (job.drive polls b).result = some a) : ∃ b', Runs job b a b' :=
  ⟨_, runs_drive h⟩

end Job

namespace Engine

/-! ## Executions that succeed -/

variable {ω α β : Type}

/-- The execution succeeds with a result and leaves a buffer. -/
def Yields (x : Exec ω α) (b : Buffer) (a : α) (b' : Buffer) : Prop := x.run.Runs b (.ok a) b'

theorem yields_pure_iff {x a : α} {b b' : Buffer} :
    Yields (pure x : Exec ω α) b a b' ↔ a = x ∧ b' = b := by
  show Job.Runs (.done (.ok x) : Job ω (Except Error α)) b (.ok a) b' ↔ _
  rw [Job.runs_done_iff, Except.ok.injEq]

theorem not_yields_throw {error : Error} {a : α} {b b' : Buffer} :
    ¬ Yields (throw error : Exec ω α) b a b' := by
  intro h
  have hdone : Job.Runs (.done (.error error) : Job ω (Except Error α)) b (.ok a) b' := h
  cases (Job.runs_done_iff.mp hdone).1

theorem yields_bind_iff {x : Exec ω α} {f : α → Exec ω β} {c : β} {b b' : Buffer} :
    Yields (x >>= f) b c b' ↔ ∃ a b₁, Yields x b a b₁ ∧ Yields (f a) b₁ c b' := by
  show Job.Runs (Job.bind x.run _ : Job ω (Except Error β)) b (.ok c) b' ↔ _
  rw [Job.runs_bind_iff]
  constructor
  · rintro ⟨result, b₁, hx, hf⟩
    cases result with
    | error error =>
        cases (Job.runs_done_iff.mp hf).1
    | ok a => exact ⟨a, b₁, hx, hf⟩
  · rintro ⟨a, b₁, hx, hf⟩
    exact ⟨.ok a, b₁, hx, hf⟩

theorem yields_lift_iff {job : Job ω α} {a : α} {b b' : Buffer} :
    Yields (ExceptT.lift job : Exec ω α) b a b' ↔ job.Runs b a b' := by
  show Job.Runs (Job.bind job fun x => .done (.ok x) : Job ω (Except Error α)) b (.ok a) b' ↔ _
  rw [Job.runs_bind_iff]
  constructor
  · rintro ⟨x, b₁, hjob, hdone⟩
    obtain ⟨hx, rfl⟩ := Job.runs_done_iff.mp hdone
    cases hx
    exact hjob
  · intro hjob
    exact ⟨a, b', hjob, .done⟩

theorem yields_mk_iff {result : Except Error α} {a : α} {b b' : Buffer} :
    Yields (ExceptT.mk (pure result) : Exec ω α) b a b' ↔ result = .ok a ∧ b' = b := by
  show Job.Runs (.done result : Job ω (Except Error α)) b (.ok a) b' ↔ _
  rw [Job.runs_done_iff, eq_comm]

theorem Yields.content_eq {x : Exec ω α} {a : α} {b b' : Buffer} (h : Yields x b a b') :
    b'.content = b.content :=
  Job.Runs.content_eq h

/-! ## Executions that fail -/

/-- The execution fails with an error and leaves a buffer. -/
def Fails (x : Exec ω α) (b : Buffer) (error : Error) (b' : Buffer) : Prop :=
  x.run.Runs b (.error error) b'

theorem fails_throw (error : Error) (b : Buffer) : Fails (throw error : Exec ω α) b error b :=
  .done

theorem Fails.bind {x : Exec ω α} {error : Error} {b b' : Buffer} (h : Fails x b error b')
    (f : α → Exec ω β) : Fails (x >>= f) b error b' :=
  Job.runs_bind_iff.mpr ⟨.error error, b', h, .done⟩

theorem Fails.not_yields {x : Exec ω α} {error : Error} {a : α} {b b' b'' : Buffer}
    (h : Fails x b error b') : ¬ Yields x b a b'' := by
  intro hyields
  cases (Job.Runs.unique h hyields).1

theorem Yields.bind_fails {x : Exec ω α} {f : α → Exec ω β} {a : α} {error : Error}
    {b b₁ b' : Buffer} (h : Yields x b a b₁) (hf : Fails (f a) b₁ error b') :
    Fails (x >>= f) b error b' :=
  Job.runs_bind_iff.mpr ⟨.ok a, b₁, h, hf⟩

end Engine

end Backtrack
