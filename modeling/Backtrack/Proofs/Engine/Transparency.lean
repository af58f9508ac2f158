import Backtrack.Proofs.Engine.Deeper

/-!
Accepted attempts leave no trace.  Instructions that retire only frames of their own
may run inside of a branch that is accepted after them: the answers tell the same,
but for the frames, a failure has the same reason, and in the end the place, the
regions, the tree and its journals are the same.
-/

namespace Backtrack

namespace Engine

variable {e e' : Engine} {saved : Level} {below : List Level} {depth : Nat}

/-! ## Series of instructions -/

def perform (config : Config) : List Instruction → Engine → Job Answer (Except Error Engine)
  | [], e => .done (.ok e)
  | i :: rest, e =>
    Job.bind (step config e i).run fun
      | .error error => .done (.error error)
      | .ok (answer, e) => .emit answer (perform config rest e)

/-- What is done after the first instructions, if they succeed. -/
def andThen (config : Config) (after : List Instruction) :
    Except Error Engine → Job Answer (Except Error Engine)
  | .error error => .done (.error error)
  | .ok e => perform config after e

theorem perform_append (config : Config) (before after : List Instruction) (e : Engine) :
    perform config (before ++ after) e =
      (perform config before e).bind (andThen config after) := by
  induction before generalizing e with
  | nil => rfl
  | cons i rest ih =>
      rw [List.cons_append, perform, perform, Job.bind_assoc]
      congr 1
      funext result
      cases result with
      | error error => rfl
      | ok pair => exact congrArg (Job.emit pair.1) (ih pair.2)

/-- The answers tell the same, but for the frames and the language. -/
def SameAnswer (answer answer' : Answer) : Prop := answer.blurred = answer'.blurred

theorem Deeper.perform (h : Deeper saved below depth e e') (config : Config)
    {instructions : List Instruction} {depth' : Nat}
    (hdepth : instructions.foldlM depthAfter depth = some depth') :
    (perform config instructions e).Follows SameAnswer (Results (Deeper saved below depth'))
      (Stopped IsLimit) (perform config instructions e') := by
  induction instructions generalizing e e' depth with
  | nil =>
      cases hdepth
      exact .done (.ok h)
  | cons i rest ih =>
      rw [List.foldlM_cons] at hdepth
      obtain ⟨next, hnext, hrest⟩ := Option.bind_eq_some_iff.mp hdepth
      refine Job.Follows.bind (h.step config hnext) ?_ ?_
      · intro result result' hresult
        cases hresult with
        | ok hanswered => exact .emit hanswered.1 (ih hanswered.2 hrest)
        | error => exact .done .error
      · rintro result ⟨error, rfl, hlimit⟩
        exact ⟨.error error, rfl, error, rfl, hlimit⟩

/-! ## Opening and closing the attempt -/

theorem Stands.perform_branch {level : Level} (h : e.Stands (level :: below)) (config : Config)
    (rest : List Instruction) :
    (∃ error : Error, error.isLimit = true ∧
        Engine.perform config (.branch :: rest) e = .done (.error error)) ∨
      ∃ e₁, Deeper level below 0 e e₁ ∧ Engine.perform config (.branch :: rest) e =
        .fill 0 fun b => .emit (.state (e₁.view b)) (Engine.perform config rest e₁) := by
  rw [Engine.perform]
  by_cases hcount : e.executed + 1 > config.maxInstructions
  · rw [step_eq_throw hcount]
    exact Or.inl ⟨_, rfl, rfl⟩
  rw [step_eq_dispatch (Nat.not_lt.mp hcount)]
  by_cases hdepth : e.frames.depth + 1 > config.maxBranchDepth
  · refine Or.inl ⟨.branchLimitExceeded (e.frames.depth + 1) config.maxBranchDepth, rfl, ?_⟩
    rw [dispatch, branch]
    dsimp only
    rw [if_pos hdepth]
    rfl
  · obtain ⟨e₁, language, hexecuted, hbuilder, hstands, hbranch⟩ :=
      (h.executed (e.executed + 1)).branch_eq
    refine Or.inr ⟨e₁, ?_, ?_⟩
    · obtain ⟨_, _, hnext, _⟩ := h.builder.branch
      have hcopy : level.Alike ⟨{ level.scope with language }, level.state⟩ :=
        ⟨⟨rfl, rfl⟩, rfl⟩
      refine deeper_of_stands rfl hcopy .nil h hstands ?_ hexecuted ?_
      · rw [hbuilder, hnext]
      · rw [hbuilder, h.builder.journaled.carried_branch]
        cases hcarried : e.builder.journal.carried with
        | nil => simp [FrameStack.carried_eq] at hcarried
        | cons journal lower =>
            refine Journal.absorbs_fork fun hlower => ?_
            rw [hlower] at hcarried
            exact h.builder.journaled.carried_root hcarried
    · rw [dispatch, hbranch config (Nat.not_lt.mp hdepth)]
      rfl

/-- The two can only be told apart by the names of frames and the language. -/
structure Alike (e e' : Engine) : Prop where
  cursor : e.scope.cursor = e'.scope.cursor
  regions : e.scope.regions = e'.scope.regions
  state : e.builder.state = e'.builder.state
  nextId : e.builder.nextId = e'.builder.nextId
  journals : e.builder.journal.carried = e'.builder.journal.carried
  /-- Rejecting frames below leads to the same. -/
  levels : ∃ top top' lower, e.Stands (top :: lower) ∧ e'.Stands (top' :: lower)

/-- Accepting the attempt, unless a limit stops it, leaves what would be without it. -/
theorem Deeper.perform_accept (h : Deeper saved below 0 e e') (config : Config) :
    (∃ error : Error, error.isLimit = true ∧
        ∀ b, (Engine.perform config [.accept] e').poll b [] = ⟨[], b, .inl (.error error)⟩) ∨
      ∃ e₁, e.Alike e₁ ∧ ∀ b, (Engine.perform config [.accept] e').poll b [] =
        ⟨[.state (e₁.view b)], b, .inl (.ok e₁)⟩ := by
  rw [Engine.perform]
  by_cases hcount : e'.executed + 1 > config.maxInstructions
  · rw [step_eq_throw hcount]
    exact Or.inl ⟨_, rfl, fun _ => rfl⟩
  rw [step_eq_dispatch (Nat.not_lt.mp hcount)]
  obtain ⟨inner, inner', hlength, hinner, hstands, hstands'⟩ := h.levels
  cases List.length_eq_zero_iff.mp hlength
  cases hinner
  obtain ⟨e₁, hexecuted, hbuilder, hstands₁, haccept⟩ :=
    (hstands'.executed (e'.executed + 1)).accept_eq
  obtain ⟨_, hstate, hnext, _⟩ := hstands'.builder.accept
  refine Or.inr ⟨e₁, ?_, ?_⟩
  · have hscope : e₁.scope = e'.scope := FrameStack.current_of_carried hstands₁.scopes
    refine ⟨?_, ?_, ?_, ?_, ?_, _, _, _, hstands, hstands₁⟩
    · rw [hscope, h.scope.cursor]
    · rw [hscope, h.scope.regions]
    · rw [hbuilder, hstate, h.builder.state]
    · rw [hbuilder, hnext, h.builder.nextId]
    · rw [hbuilder, hstands'.builder.journaled.carried_accept (by simp)]
      exact h.journals.folded_eq.symm
  · intro b
    rw [Engine.dispatch, haccept]
    show Job.poll (.fill 0 _) b [] = _
    rw [Job.poll, Buffer.fill_zero]
    rfl

/-! ## Whole attempts -/

/-- How the instructions end without and within an attempt, and the answer to its
acceptance if they succeed. -/
inductive EndsAlike (b : Buffer) :
    Option (Except Error Engine) → List Answer → Option (Except Error Engine) → Prop
  | waits : EndsAlike b none [] none
  | fails {error : Error} : EndsAlike b (some (.error error)) [] (some (.error error))
  | succeeds {e e' : Engine} {closed : StateView} : closed.blurred = (e.view b).blurred →
      e.Alike e' → EndsAlike b (some (.ok e)) [.state closed] (some (.ok e'))

/-- Instructions were carried out without and within an attempt.  They waited and read
alike, and the answers within come after that to the branch. -/
structure Transparent (s : Engine) (b : Buffer)
    (plain tried : Job.Driven Answer (Except Error Engine)) : Prop where
  buffer : plain.buffer = tried.buffer
  waits : plain.waits = tried.waits
  answers : ∃ opened inner closed, tried.events = .state opened :: (inner ++ closed) ∧
    opened.blurred = (s.view b).blurred ∧ List.Forall₂ SameAnswer plain.events inner ∧
    EndsAlike plain.buffer plain.result closed tried.result

/-- The instructions inside of the attempt and its acceptance. -/
theorem Deeper.drive_accept (h : Deeper saved below 0 e e') (config : Config)
    {body : List Instruction} (hnested : Nested body) (polls : Nat) (b : Buffer) :
    let plain := (Engine.perform config body e).drive polls b
    let tried := (Engine.perform config (body ++ [.accept]) e').drive polls b
    (∃ error : Error, error.isLimit = true ∧ tried.result = some (.error error)) ∨
      plain.buffer = tried.buffer ∧ plain.waits = tried.waits ∧
        ∃ inner closed, tried.events = inner ++ closed ∧
          List.Forall₂ SameAnswer plain.events inner ∧
          EndsAlike plain.buffer plain.result closed tried.result := by
  intro plain tried
  have htried : tried =
      ((Engine.perform config body e').bind (andThen config [.accept])).drive polls b := by
    rw [← perform_append]
  rcases (h.perform config hnested).drive polls b with
    ⟨_, hresult, error, rfl, hlimit⟩ | halike
  · rw [htried, Job.drive_bind_of_poll hresult rfl]
    exact Or.inl ⟨error, hlimit, rfl⟩
  · have hrelated := halike.result
    rw [htried]
    generalize hplain : ((Engine.perform config body e).drive polls b).result = ended at hrelated
    generalize hinner : ((Engine.perform config body e').drive polls b).result = ended' at hrelated
    cases hrelated with
    | none =>
        rw [Job.drive_bind_of_none _ hinner]
        exact Or.inr ⟨halike.buffer, halike.waits, _, [], (List.append_nil _).symm, halike.events,
          .waits⟩
    | some hresult =>
        cases hresult with
        | error =>
            rw [Job.drive_bind_of_poll hinner rfl]
            exact Or.inr ⟨halike.buffer, halike.waits, _, [], rfl, halike.events, .fails⟩
        | @ok e₂ e₂' hdeeper =>
            rcases hdeeper.perform_accept config with
              ⟨error, hlimit, haccept⟩ | ⟨e₃, hsame, haccept⟩
            · rw [Job.drive_bind_of_poll hinner (haccept _)]
              exact Or.inl ⟨error, hlimit, rfl⟩
            · rw [Job.drive_bind_of_poll hinner (haccept _)]
              refine Or.inr ⟨halike.buffer, halike.waits, _, [_], rfl, halike.events,
                .succeeds ?_ hsame⟩
              rw [show plain.buffer = _ from halike.buffer]
              exact (view_blurred_eq ⟨hsame.cursor, hsame.regions⟩ hsame.state _).symm

/-- Running instructions inside of a branch that is accepted after them is the same as
running them without it, if no limit stops the branch. -/
theorem accepted_branch_transparent {config : Config} {input b : Buffer} {s : Engine}
    {body : List Instruction} (hs : Reachable config input s b) (hnested : Nested body)
    (polls : Nat)
    (hlimits : ∀ error, ((perform config (.branch :: (body ++ [.accept])) s).drive
      (polls + 1) b).result = some (.error error) → error.isLimit = false) :
    Transparent s b ((perform config body s).drive (polls + 1) b)
      ((perform config (.branch :: (body ++ [.accept])) s).drive (polls + 1) b) := by
  obtain ⟨levels, hstands⟩ := hs.exists_stands
  obtain ⟨below, rfl⟩ := hstands.exists_cons
  rcases hstands.perform_branch config (body ++ [.accept]) with
    ⟨error, hlimit, hperform⟩ | ⟨e₁, hdeeper, hperform⟩
  · rw [hperform] at hlimits
    rw [hlimits error rfl] at hlimit
    cases hlimit
  · have hdrive : (perform config (.branch :: (body ++ [.accept])) s).drive (polls + 1) b =
        { (perform config (body ++ [.accept]) e₁).drive (polls + 1) b with
          events := .state (e₁.view b) ::
            ((perform config (body ++ [.accept]) e₁).drive (polls + 1) b).events } := by
      rw [hperform, Job.drive, Job.driveFrom, Job.poll, Buffer.fill_zero]
      have hevents := Job.driveFrom_events (polls + 1) (perform config (body ++ [.accept]) e₁) b
        [.state (e₁.view b)] 0
      rw [Nat.zero_add] at hevents
      exact hevents
    rw [hdrive] at hlimits ⊢
    rcases hdeeper.drive_accept config hnested (polls + 1) b with
      ⟨error, hlimit, hresult⟩ | ⟨hbuffer, hwaits, inner, closed, hinner, hsame, hends⟩
    · rw [hlimits error hresult] at hlimit
      cases hlimit
    · refine ⟨hbuffer, hwaits, e₁.view b, inner, closed, ?_, ?_, hsame, hends⟩
      · exact congrArg (Answer.state (e₁.view b) :: ·) hinner
      · exact (view_blurred_eq hdeeper.scope hdeeper.builder.state b).symm

def sumTried : List Instruction :=
  [.advance (.openNode (.typed "Sum")), .branch, .advance (.literal "x")]

/-- Shifts a value into a node in an attempt of its own, and gives up another one, which
leaves a slot to repair. -/
def pairShifted : List Instruction :=
  [.advance (.reference { name := "left" }), .advance .gap, .branch, .advance .shift,
    .advance (.openNode (.typed "Pair")), .advance (.reference { name := "first" }),
    .advance .gap, .accept, .branch, .advance (.reference { name := "second" }),
    .advance (.openNode (.typed "Word")), .advance (.literal "y"), .reject, .getState]

def lateUnit : Buffer :=
  .ofFeed { deliveries := [.chunk [.char 'x'], .chunk [.gap], .wait, .chunk [.char 'y']] }

theorem accepted_branch_transparent_pairShifted : ∃ (s e e' : Engine) (b : Buffer),
    Reachable {} lateUnit s b ∧ s.frames.depth = 1 ∧ Nested pairShifted ∧
      (∀ error, ((perform {} (.branch :: (pairShifted ++ [.accept])) s).drive 2 b).result =
        some (.error error) → error.isLimit = false) ∧
      Transparent s b ((perform {} pairShifted s).drive 2 b)
        ((perform {} (.branch :: (pairShifted ++ [.accept])) s).drive 2 b) ∧
      ((perform {} pairShifted s).drive 2 b).result = some (.ok e) ∧
      ((perform {} (.branch :: (pairShifted ++ [.accept])) s).drive 2 b).result =
        some (.ok e') ∧ e.Alike e' := by
  have hfacts : (lateUnit.fill 1).2 = true ∧
      (execute {} sumTried (start {}) (lateUnit.fill 1).1).map (fun reached =>
        (reached.1.frames.depth,
          ((perform {} (.branch :: (pairShifted ++ [.accept])) reached.1).drive 2
            reached.2).result.map (Except.map fun _ => ()))) =
      some (1, some (.ok ())) := by decide +kernel
  obtain ⟨⟨s, b⟩, hexecute, hreached⟩ := Option.map_eq_some_iff.mp hfacts.2
  simp only [Prod.mk.injEq] at hreached
  obtain ⟨hdepth, hsucceeds⟩ := hreached
  have hreachable : Reachable {} lateUnit s b :=
    reachable_of_execute (Prod.ext rfl hfacts.1) hexecute
  have hnested : Nested pairShifted := by decide
  obtain ⟨ended, htried, hended⟩ := Option.map_eq_some_iff.mp hsucceeds
  have hlimits : ∀ error, ((perform {} (.branch :: (pairShifted ++ [.accept])) s).drive 2
      b).result = some (.error error) → error.isLimit = false := by
    intro error herror
    rw [htried, Option.some.injEq] at herror
    rw [herror] at hended
    cases hended
  have htransparent := accepted_branch_transparent hreachable hnested 1 hlimits
  obtain ⟨_, _, closed, _, _, _, hends⟩ := htransparent.answers
  generalize hplain : ((perform {} pairShifted s).drive 2 b).result = plain at hends
  generalize hresult : ((perform {} (.branch :: (pairShifted ++ [.accept])) s).drive 2
    b).result = tried at hends
  cases hends with
  | waits =>
      rw [hresult] at htried
      cases htried
  | fails =>
      rw [hresult, Option.some.injEq] at htried
      rw [← htried] at hended
      cases hended
  | succeeds _ halike =>
      exact ⟨s, _, _, b, hreachable, hdepth, hnested, hlimits, htransparent, hplain, hresult,
        halike⟩

end Engine

end Backtrack
