import Backtrack.Proofs.Engine.Annotation
import Backtrack.Proofs.Engine.Forward

/-!
Limits only cut a run short.  No state that is reached is beyond the limits, and nothing
but the checks of the two limits looks at them.  So a run under limits does what the run
under wider limits does, up to the first instruction that is one too many or the first
branch that goes too deep.
-/

namespace Backtrack

namespace Job

variable {ω ω₁ ω₂ α β : Type}

/-- The job with other reports.  What `f` has no word for is not reported. -/
def retell (f : ω → Option ω₁) : Job ω α → Job ω₁ α
  | .done a => .done a
  | .emit event rest =>
    match f event with
    | some told => .emit told (rest.retell f)
    | none => rest.retell f
  | .fill upto rest => .fill upto fun b => (rest b).retell f
  | .pause rest => .pause (rest.retell f)

theorem retell_some (job : Job ω α) : job.retell some = job := by
  induction job with
  | done a => rfl
  | emit event rest ih => rw [retell, ih]
  | fill upto rest ih =>
      rw [retell]
      exact congrArg (Job.fill upto) (funext ih)
  | pause rest ih => rw [retell, ih]

theorem retell_retell (f : ω → Option ω₁) (g : ω₁ → Option ω₂) (job : Job ω α) :
    (job.retell f).retell g = job.retell fun event => (f event).bind g := by
  induction job with
  | done a => rfl
  | emit event rest ih =>
      rw [retell, retell]
      cases hf : f event with
      | none => exact ih
      | some told =>
          rw [Option.bind_some]
          show retell g (.emit told _) = _
          rw [retell]
          cases hg : g told with
          | none => exact ih
          | some retold => exact congrArg (Job.emit retold) ih
  | fill upto rest ih => exact congrArg (Job.fill upto) (funext ih)
  | pause rest ih => exact congrArg Job.pause ih

theorem retell_bind (f : ω → Option ω₁) (job : Job ω α) (g : α → Job ω β) :
    (job.bind g).retell f = (job.retell f).bind fun a => (g a).retell f := by
  induction job with
  | done a => rfl
  | emit event rest ih =>
      rw [Job.bind, retell, retell]
      cases hf : f event with
      | none => exact ih
      | some told => exact congrArg (Job.emit told) ih
  | fill upto rest ih => exact congrArg (Job.fill upto) (funext ih)
  | pause rest ih => exact congrArg Job.pause ih

theorem poll_retell (f : ω → Option ω₁) (job : Job ω α) (b : Buffer) (events : List ω) :
    (job.retell f).poll b (events.filterMap f) =
      { events := (job.poll b events).events.filterMap f
        buffer := (job.poll b events).buffer
        outcome := (job.poll b events).outcome.map id (retell f) } := by
  induction job generalizing b events with
  | done a => rfl
  | emit event rest ih =>
      have hrest := ih b (event :: events)
      rw [retell, poll]
      cases hf : f event with
      | none =>
          rw [List.filterMap_cons_none hf] at hrest
          exact hrest
      | some told =>
          rw [List.filterMap_cons_some hf] at hrest
          exact hrest
  | fill upto rest ih =>
      rw [retell, poll, poll]
      split
      · exact ih _ _ _
      · rfl
  | pause rest ih => rfl

theorem drive_retell (f : ω → Option ω₁) (polls : Nat) (job : Job ω α) (b : Buffer) :
    (job.retell f).drive polls b =
      { events := (job.drive polls b).events.filterMap f
        buffer := (job.drive polls b).buffer
        waits := (job.drive polls b).waits
        result := (job.drive polls b).result } := by
  suffices hfrom : ∀ events waits,
      driveFrom polls (job.retell f) b (events.filterMap f) waits =
        { events := (driveFrom polls job b events waits).events.filterMap f
          buffer := (driveFrom polls job b events waits).buffer
          waits := (driveFrom polls job b events waits).waits
          result := (driveFrom polls job b events waits).result } from hfrom [] 0
  induction polls generalizing job b with
  | zero =>
      intro events waits
      rw [driveFrom, driveFrom, List.filterMap_reverse]
  | succ polls ih =>
      intro events waits
      rw [driveFrom, driveFrom, poll_retell]
      rcases job.poll b events with ⟨events', b', a | rest⟩
      · simp only [Sum.map_inl, id_eq, List.filterMap_reverse]
      · exact ih rest b' events' (waits + 1)

end Job

/-- The same settings under other limits.  A limit that is disabled is `unlimited`, the
widest that there is. -/
def Config.withLimits (c : Config) (depth count : Nat) : Config :=
  { c with maxBranchDepth := depth, maxInstructions := count }

def Instruction.isBranch : Instruction → Bool
  | .branch => true
  | _ => false

namespace Engine

variable {config : Config} {e e' : Engine} {b b' : Buffer} {i : Instruction} {answer : Answer}

/-! ## Within the limits -/

structure WithinLimits (config : Config) (e : Engine) : Prop where
  executed : e.executed ≤ config.maxInstructions
  depth : e.frames.depth ≤ config.maxBranchDepth

theorem withinLimits_start (config : Config) : WithinLimits config (start config) where
  executed := Nat.zero_le _
  depth := Nat.zero_le _

theorem Transition.executed_eq {units : List Symbol} (h : Transition units e i e') :
    e'.executed = e.executed := by
  cases h <;> rfl

theorem Level.Step.length_le {units : List Symbol} {levels levels' : List Level}
    (h : Level.Step units i levels levels') :
    levels'.length ≤ levels.length + i.isBranch.toNat := by
  cases h <;> simp [Instruction.isBranch]

/-- A step counts one instruction, and adds a frame if it branches. -/
theorem Stands.counts_of_step {levels : List Level} (h : e.Stands levels)
    (hstep : Yields (step config e i : Exec Answer _) b (answer, e') b') :
    e'.executed = e.executed + 1 ∧ e'.frames.depth ≤ e.frames.depth + i.isBranch.toNat := by
  obtain ⟨levels', hlevels, hstands⟩ := h.of_step hstep
  have hlength := hlevels.length_le
  rw [h.length_eq, hstands.length_eq] at hlength
  exact ⟨(transition_of_step hstep).executed_eq, by omega⟩

/-- What succeeds was within the limits. -/
theorem limits_of_step (hstep : Yields (step config e i : Exec Answer _) b (answer, e') b') :
    e.executed < config.maxInstructions ∧
      (i = .branch → e.frames.depth < config.maxBranchDepth) := by
  obtain ⟨hcount, hdispatch⟩ := yields_guard_iff.mp hstep
  refine ⟨Nat.lt_of_not_le fun hle => hcount (Nat.lt_succ_of_le hle), ?_⟩
  rintro rfl
  obtain ⟨_, _, hbranch, _⟩ := yields_bind_iff.mp hdispatch
  obtain ⟨hdepth, _⟩ := yields_guard_iff.mp hbranch
  exact Nat.lt_of_not_le fun hle => hdepth (Nat.lt_succ_of_le hle)

theorem WithinLimits.of_step {levels : List Level} (h : WithinLimits config e)
    (hstands : e.Stands levels)
    (hstep : Yields (step config e i : Exec Answer _) b (answer, e') b') :
    WithinLimits config e' := by
  obtain ⟨hexecuted, hdepth⟩ := hstands.counts_of_step hstep
  obtain ⟨hcount, hbranch⟩ := limits_of_step hstep
  refine ⟨by omega, ?_⟩
  cases i with
  | branch => exact Nat.le_trans hdepth (hbranch rfl)
  | _ => exact Nat.le_trans hdepth h.depth

/-- Every instruction is counted, and none leads beyond the limits. -/
theorem WithinLimits.of_steps {instructions : List Instruction} {levels : List Level}
    (h : WithinLimits config e) (hstands : e.Stands levels)
    (hsteps : Steps config e b instructions e' b') :
    e'.executed = e.executed + instructions.length ∧ WithinLimits config e' := by
  induction hsteps generalizing levels with
  | nil => exact ⟨rfl, h⟩
  | cons hstep _ ih =>
      obtain ⟨levels₁, _, hstands₁⟩ := hstands.of_step hstep
      obtain ⟨hexecuted, hwithin⟩ := ih (h.of_step hstands hstep) hstands₁
      rw [(hstands.counts_of_step hstep).1] at hexecuted
      refine ⟨?_, hwithin⟩
      rw [hexecuted, List.length_cons]
      omega

/-! ## What the limits decide -/

variable {d n d' n' : Nat}

/-- A step that goes beyond no limit does not look at the limits. -/
theorem step_withLimits (hd : d ≤ d') (hn : n ≤ n') (hcount : e.executed < n)
    (hbranch : i = .branch → e.frames.depth < d) :
    (step (config.withLimits d n) e i : Exec Answer _) =
      step (config.withLimits d' n') e i := by
  have hlimited : e.executed + 1 ≤ (config.withLimits d n).maxInstructions := hcount
  have hfree : e.executed + 1 ≤ (config.withLimits d' n').maxInstructions :=
    Nat.le_trans hcount hn
  rw [step_eq_dispatch hlimited, step_eq_dispatch hfree]
  cases i with
  | branch =>
      have hdepth : e.frames.depth < d := hbranch rfl
      have hlimited : ¬ e.frames.depth + 1 > (config.withLimits d n).maxBranchDepth :=
        Nat.not_lt.mpr hdepth
      have hfree : ¬ e.frames.depth + 1 > (config.withLimits d' n').maxBranchDepth :=
        Nat.not_lt.mpr (Nat.le_trans hdepth hd)
      rw [dispatch, dispatch, branch, branch]
      dsimp only
      rw [if_neg hlimited, if_neg hfree]
  | advance t => cases t <;> rfl
  | _ => rfl

theorem step_branch_eq_throw (hcount : e.executed < config.maxInstructions)
    (hdepth : e.frames.depth = config.maxBranchDepth) :
    (step config e .branch : Exec Answer _) =
      throw (.branchLimitExceeded (config.maxBranchDepth + 1) config.maxBranchDepth) := by
  have hdeep : e.frames.depth + 1 > config.maxBranchDepth := by omega
  rw [step_eq_dispatch hcount, dispatch, branch]
  dsimp only
  rw [if_pos hdeep, hdepth]
  rfl

/-! ## Transcripts -/

inductive Event where
  /-- An instruction is asked for while `depth` frames are live above the root. -/
  | asked (depth : Nat) (i : Instruction)
  | answered (answer : Answer)

namespace Event

def answer? : Event → Option Answer
  | .asked _ _ => none
  | .answered answer => some answer

end Event

/-- A run that also reports what it asks for. -/
def transcriptFrom (config : Config) :
    Strategy Unit → Engine → Job Event (Except Error Builder)
  | .done _, e => .done (.ok e.builder)
  | .pause rest, e => .pause (transcriptFrom config rest e)
  | .ask i rest, e =>
    .emit (.asked e.frames.depth i)
      (Job.bind ((step config e i).run.retell fun answer => some (.answered answer)) fun
        | .error error => .done (.error error)
        | .ok (answer, e) => .emit (.answered answer) (transcriptFrom config (rest answer) e))

def transcript (config : Config) (strategy : Strategy Unit) :
    Job Event (Except Error Builder) :=
  .fill 1 fun _ => transcriptFrom config strategy (start config)

def tellOn (config : Config) (rest : Answer → Strategy Unit) :
    Except Error (Answer × Engine) → Job Event (Except Error Builder)
  | .error error => .done (.error error)
  | .ok (answer, e) => .emit (.answered answer) (transcriptFrom config (rest answer) e)

theorem transcriptFrom_ask (config : Config) (i : Instruction) (rest : Answer → Strategy Unit)
    (e : Engine) :
    transcriptFrom config (.ask i rest) e =
      .emit (.asked e.frames.depth i)
        (((step config e i).run.retell fun answer => some (.answered answer)).bind
          (tellOn config rest)) := by
  rw [transcriptFrom]
  rfl

theorem retell_transcriptFrom (config : Config) (strategy : Strategy Unit) (e : Engine) :
    (transcriptFrom config strategy e).retell Event.answer? = runFrom config strategy e := by
  induction strategy generalizing e with
  | done a => rfl
  | pause rest ih => exact congrArg Job.pause (ih e)
  | ask i rest ih =>
      have hstep : ((step config e i : Exec Answer _).run.retell fun answer =>
          some (.answered answer)).retell Event.answer? = (step config e i).run := by
        rw [Job.retell_retell]
        exact Job.retell_some _
      rw [transcriptFrom_ask, runFrom_ask, Job.retell]
      show Job.retell Event.answer? (Job.bind _ _) = _
      rw [Job.retell_bind, hstep]
      congr 1
      funext result
      cases result with
      | error error => rfl
      | ok pair => exact congrArg (Job.emit pair.1) (ih pair.1 pair.2)

theorem retell_transcript (config : Config) (strategy : Strategy Unit) :
    (transcript config strategy).retell Event.answer? = run config strategy :=
  congrArg (Job.fill 1) (funext fun _ => retell_transcriptFrom config strategy (start config))

/-! ## Cutting a run short -/

/-- The answers of a run up to where the limits end it, and the error it ends with then,
if it gets there.  `count` instructions were asked for before. -/
def cut (d n : Nat) : Nat → List Event → List Answer × Option Error
  | _, [] => ([], none)
  | count, .answered answer :: rest =>
    (answer :: (cut d n count rest).1, (cut d n count rest).2)
  | count, .asked depth i :: rest =>
    if count = n then ([], some (.instructionLimitExceeded (n + 1) n))
    else if i.isBranch ∧ depth = d then ([], some (.branchLimitExceeded (d + 1) d))
    else cut d n (count + 1) rest

/-- What came of a run under limits, beside what came of the run under wider limits. -/
structure CutShort (d n count : Nat) (free : Job.Driven Event (Except Error Builder))
    (limited : Job.Driven Answer (Except Error Builder)) : Prop where
  answers : limited.events = (cut d n count free.events).1
  stopped : ∀ error, (cut d n count free.events).2 = some error →
    limited.result = some (.error error)
  /-- A run that stays within the limits is not touched. -/
  whole : (cut d n count free.events).2 = none →
    limited.waits = free.waits ∧ limited.buffer = free.buffer ∧ limited.result = free.result

variable {count : Nat} {free : Job.Driven Event (Except Error Builder)}
  {limited : Job.Driven Answer (Except Error Builder)}

theorem cut_answered (answers : List Answer) (events : List Event) :
    cut d n count (answers.map .answered ++ events) =
      (answers ++ (cut d n count events).1, (cut d n count events).2) := by
  induction answers with
  | nil => rfl
  | cons answer answers ih => rw [List.map_cons, List.cons_append, cut, ih, List.cons_append]

theorem cutShort_zero (job : Job Event (Except Error Builder))
    (job' : Job Answer (Except Error Builder)) (b : Buffer) :
    CutShort d n count (job.drive 0 b) (job'.drive 0 b) :=
  ⟨rfl, fun _ h => (nomatch h), fun _ => ⟨rfl, rfl, rfl⟩⟩

theorem cutShort_answered (answers : List Answer) (b : Buffer) (waits : Nat)
    (result : Option (Except Error Builder)) :
    CutShort d n count ⟨answers.map .answered, b, waits, result⟩ ⟨answers, b, waits, result⟩ := by
  have hcut := @cut_answered d n count answers []
  rw [List.append_nil] at hcut
  refine ⟨?_, ?_, fun _ => ⟨rfl, rfl, rfl⟩⟩
  · rw [hcut]
    exact (List.append_nil _).symm
  · intro error herror
    rw [hcut] at herror
    cases herror

theorem CutShort.after (h : CutShort d n count free limited) (answers : List Answer)
    (waits : Nat) :
    CutShort d n count
      { free with
        events := answers.map .answered ++ free.events
        waits := waits + free.waits }
      { limited with
        events := answers ++ limited.events
        waits := waits + limited.waits } := by
  have hcut := @cut_answered d n count answers free.events
  refine ⟨?_, ?_, ?_⟩
  · show _ = (cut d n count (_ ++ _)).1
    rw [hcut, h.answers]
  · intro error herror
    rw [hcut] at herror
    exact h.stopped error herror
  · intro hnone
    rw [hcut] at hnone
    obtain ⟨hwaits, hbuffer, hresult⟩ := h.whole hnone
    exact ⟨congrArg (waits + ·) hwaits, hbuffer, hresult⟩

theorem CutShort.emit (h : CutShort d n count free limited) (answer : Answer) :
    CutShort d n count { free with events := .answered answer :: free.events }
      { limited with events := answer :: limited.events } := by
  have hafter := h.after [answer] 0
  rw [Nat.zero_add, Nat.zero_add] at hafter
  exact hafter

/-- One instruction that the limits allow. -/
theorem CutShort.asked {depth : Nat} (h : CutShort d n (count + 1) free limited)
    (hcount : count ≠ n) (hbranch : ¬ (i.isBranch ∧ depth = d)) :
    CutShort d n count { free with events := .asked depth i :: free.events } limited := by
  have hcut : cut d n count (.asked depth i :: free.events) = cut d n (count + 1) free.events := by
    rw [cut, if_neg hcount, if_neg hbranch]
  exact ⟨by rw [hcut]; exact h.answers, by rw [hcut]; exact h.stopped, by rw [hcut]; exact h.whole⟩

/-- One instruction that the limits do not allow. -/
theorem cutShort_of_excess {depth : Nat} {error : Error} (free : Job.Driven Event _) (polls : Nat)
    (b : Buffer)
    (hcut : cut d n count (.asked depth i :: free.events) = ([], some error)) :
    CutShort d n count { free with events := .asked depth i :: free.events }
      ((Job.done (.error error) : Job Answer _).drive (polls + 1) b) := by
  refine ⟨?_, ?_, ?_⟩
  · rw [hcut]
    rfl
  · intro error' herror
    rw [hcut] at herror
    cases herror
    rfl
  · intro hnone
    rw [hcut] at hnone
    cases hnone

theorem cutShort_bind {α : Type} {job : Job Answer α} {f : α → Job Event (Except Error Builder)}
    {g : α → Job Answer (Except Error Builder)} {polls : Nat} {b : Buffer}
    (h : ∀ a left, (job.drive polls b).result = some a →
      CutShort d n count ((f a).drive (left + 1) (job.drive polls b).buffer)
        ((g a).drive (left + 1) (job.drive polls b).buffer)) :
    CutShort d n count
      (((job.retell fun answer => some (.answered answer)).bind f).drive polls b)
      ((job.bind g).drive polls b) := by
  have hretell := job.drive_retell (fun answer => some (Event.answered answer)) polls b
  rw [List.filterMap_eq_map'] at hretell
  cases hjob : (job.drive polls b).result with
  | none =>
      have hnone : ((job.retell fun answer => some (Event.answered answer)).drive polls b).result =
          none := by rw [hretell, hjob]
      rw [Job.drive_bind_of_none f hnone, Job.drive_bind_of_none g hjob, hretell]
      exact cutShort_answered _ _ _ _
  | some a =>
      have hsome : ((job.retell fun answer => some (Event.answered answer)).drive polls b).result =
          some a := by rw [hretell, hjob]
      obtain ⟨left, hleft, hdrive⟩ := Job.drive_bind_of_some f hsome
      obtain ⟨left', hleft', hdrive'⟩ := Job.drive_bind_of_some g hjob
      rw [hretell] at hleft hdrive
      obtain rfl : left' = left := by
        dsimp only at hleft
        omega
      rw [hdrive, hdrive']
      exact (h a left' hjob).after _ _

/-- The two runs go on alike from a state within the limits. -/
theorem cutShort_runFrom (config : Config) (hd : d ≤ d') (hn : n ≤ n') (strategy : Strategy Unit)
    {levels : List Level} (hstands : e.Stands levels)
    (hwithin : WithinLimits (config.withLimits d n) e) (polls : Nat) (b : Buffer) :
    CutShort d n e.executed
      ((transcriptFrom (config.withLimits d' n') strategy e).drive polls b)
      ((runFrom (config.withLimits d n) strategy e).drive polls b) := by
  induction strategy generalizing e levels polls b with
  | done a =>
      cases polls with
      | zero => exact cutShort_zero _ _ b
      | succ polls => exact cutShort_answered [] b 0 (some (.ok e.builder))
  | pause rest ih =>
      cases polls with
      | zero => exact cutShort_zero _ _ b
      | succ polls =>
          rw [transcriptFrom, runFrom, Job.drive_pause, Job.drive_pause]
          exact (ih hstands hwithin polls b).after [] 1
  | ask i rest ih =>
      cases polls with
      | zero => exact cutShort_zero _ _ b
      | succ polls =>
          rw [transcriptFrom_ask, runFrom_ask, Job.drive_emit]
          by_cases hcount : e.executed = n
          · have hexcess : e.executed + 1 > (config.withLimits d n).maxInstructions :=
              Nat.lt_succ_of_le (Nat.le_of_eq hcount.symm)
            rw [step_eq_throw hexcess, hcount]
            exact cutShort_of_excess _ polls b (if_pos rfl)
          have hlower : e.executed < n := Nat.lt_of_le_of_ne hwithin.executed hcount
          by_cases hbranch : i.isBranch ∧ e.frames.depth = d
          · obtain ⟨hi, hdepth⟩ := hbranch
            obtain rfl : i = .branch := by cases i <;> first | rfl | cases hi
            rw [@step_branch_eq_throw (config.withLimits d n) e hlower hdepth]
            refine cutShort_of_excess _ polls b ?_
            rw [cut, if_neg hcount, if_pos ⟨rfl, hdepth⟩]
            rfl
          · have hshallow : i = .branch → e.frames.depth < d := by
              rintro rfl
              exact Nat.lt_of_le_of_ne hwithin.depth fun hdepth => hbranch ⟨rfl, hdepth⟩
            have hstep := @step_withLimits config e i d n d' n' hd hn hlower hshallow
            rw [hstep]
            refine (cutShort_bind fun result left hresult => ?_).asked hcount hbranch
            cases result with
            | error error => exact cutShort_answered [] _ 0 (some (.error error))
            | ok pair =>
                obtain ⟨answer, e'⟩ := pair
                have hyields : Yields (step (config.withLimits d' n') e i : Exec Answer _) b
                    (answer, e') _ := Job.runs_drive hresult
                rw [← hstep] at hyields
                obtain ⟨levels', _, hstands'⟩ := hstands.of_step hyields
                have hwithin' := hwithin.of_step hstands hyields
                rw [tellOn, goOn, Job.drive_emit, Job.drive_emit,
                  ← (hstands.counts_of_step hyields).1]
                exact (ih answer hstands' hwithin' _ _).emit answer

/-- No state is beyond the limits, and a run under limits is the run under wider limits, cut
short where an instruction is one too many or a branch goes too deep. -/
theorem limits_only_cut (config : Config) (hd : d ≤ d') (hn : n ≤ n') :
    (∀ input b₀ instructions e b, (Job.await 1 : Job Answer Buffer).Runs input b₀ b₀ →
      Steps (config.withLimits d n) (start (config.withLimits d n)) b₀ instructions e b →
      instructions.length ≤ n ∧ e.frames.depth ≤ d) ∧
    ∀ strategy polls input,
      let free := (transcript (config.withLimits d' n') strategy).drive polls input
      (run (config.withLimits d' n') strategy).drive polls input =
          { events := free.events.filterMap Event.answer?
            buffer := free.buffer
            waits := free.waits
            result := free.result } ∧
        CutShort d n 0 free ((run (config.withLimits d n) strategy).drive polls input) := by
  refine ⟨?_, ?_⟩
  · intro input b₀ instructions e b _ hsteps
    have hstart := withinLimits_start (config.withLimits d n)
    obtain ⟨hexecuted, hwithin⟩ := hstart.of_steps (stands_start _) hsteps
    have hcount := hwithin.executed
    rw [hexecuted] at hcount
    exact ⟨Nat.le_of_add_left_le hcount, hwithin.depth⟩
  · intro strategy polls input
    refine ⟨?_, ?_⟩
    · rw [← retell_transcript, Job.drive_retell]
    · have hfirst := @cutShort_bind d n 0 Buffer (Job.await 1)
        (fun _ => transcriptFrom (config.withLimits d' n') strategy
          (start (config.withLimits d' n')))
        (fun _ => runFrom (config.withLimits d n) strategy (start (config.withLimits d n)))
        polls input fun b left _ => cutShort_runFrom config hd hn strategy (stands_start _)
          (withinLimits_start _) _ _
      exact hfirst

/-- Without limits both branches succeed; with one frame the second is too deep. -/
theorem limits_only_cut_twoBranches :
    1 ≤ unlimited ∧ 5 ≤ unlimited ∧
      let strategy := Strategy.ofInstructions [.branch, .branch]
      ((run (Config.withLimits {} unlimited unlimited) strategy).drive 1 (.ofText "")).events.length
        = 2 ∧
      ((run (Config.withLimits {} 1 5) strategy).drive 1 (.ofText "")).result.map
        (Except.map fun _ => ()) = some (.error (.branchLimitExceeded 2 1)) := by
  have hd : 1 ≤ unlimited := by decide
  have hn : 5 ≤ unlimited := by decide
  refine ⟨hd, hn, ?_⟩
  intro strategy
  obtain ⟨hfree, hcut⟩ := (limits_only_cut {} hd hn).2 strategy 1 (.ofText "")
  refine ⟨?_, ?_⟩
  · rw [hfree]
    decide +kernel
  · rw [hcut.stopped (.branchLimitExceeded 2 1) (by decide +kernel)]
    rfl

end Engine

end Backtrack
