import Backtrack.Proofs.Engine.Fault
import Backtrack.Proofs.Engine.Lockstep

/-!
Failures that never happen.  While the engine and its builder are in step, the frame
that is branched from, accepted or rejected is on top, a cursor is moved only over
units that are there, and a unit is released or a value taken out only if that is
possible.  A run never fails in a way that only parts out of step could.
-/

namespace Backtrack

/-- Failures that only parts out of step could have. -/
def Error.outOfStep : Error → Bool
  | .notOnTop _ => true
  | .source (.pastEnd _ _ _) => true
  | .source .needsInput => true
  | .source .notHolding => true
  | .build .alreadyShifted => true
  | _ => false

/-! ## Failures of the builder

Only a shift can fail for a value that is held already. -/

theorem of_bind_eq_error {ε α β : Type} {x : Except ε α} {f : α → Except ε β} {e : ε}
    (h : (x >>= f) = .error e) : x = .error e ∨ ∃ a, x = .ok a ∧ f a = .error e := by
  cases x with
  | error e' =>
      cases h
      exact Or.inl rfl
  | ok a => exact Or.inr ⟨a, rfl, h⟩

namespace Node

theorem checkBindable_ne_alreadyShifted (n : Node) (r : Reference) :
    n.checkBindable r ≠ .error .alreadyShifted := by
  unfold checkBindable
  split
  · nofun
  · split <;> nofun
  · nofun

theorem bind_ne_alreadyShifted (n : Node) (r : Reference) (value : Property) :
    n.bind r value ≠ .error .alreadyShifted := by
  intro h
  rcases of_bind_eq_error h with hcheck | ⟨_, _, hbound⟩
  · exact n.checkBindable_ne_alreadyShifted r hcheck
  · split at hbound
    · split at hbound <;> cases hbound
    · cases hbound

end Node

namespace BuildState

theorem requireOpen_ne_alreadyShifted (s : BuildState) (action : String) :
    s.requireOpen action ≠ .error .alreadyShifted := by
  unfold requireOpen
  split <;> nofun

theorem modifyNode_ne_alreadyShifted (s : BuildState) (action : String) (f : Node → Node) :
    s.modifyNode action f ≠ .error .alreadyShifted := by
  intro h
  rcases of_bind_eq_error h with hopen | ⟨_, _, hmodified⟩
  · exact s.requireOpen_ne_alreadyShifted action hopen
  · cases hmodified

theorem bindOpen_ne_alreadyShifted (s : BuildState) (r : Reference) (value : Property)
    (action : String) : s.bindOpen r value action ≠ .error .alreadyShifted := by
  intro h
  rcases of_bind_eq_error h with hopen | ⟨⟨_, n, _⟩, _, hrest⟩
  · exact s.requireOpen_ne_alreadyShifted action hopen
  · rcases of_bind_eq_error hrest with hbind | ⟨_, _, hbound⟩
    · exact n.bind_ne_alreadyShifted r value hbind
    · cases hbound

theorem attempt_ne_error {s : BuildState} {x : Except BuildError (BuildState × Undo)}
    {e : BuildError} (h : x ≠ .error e) : (s.attempt x).2 ≠ .error e := by
  intro hattempt
  unfold attempt at hattempt
  split at hattempt
  · cases hattempt
  · cases hattempt
    exact h rfl

theorem bindPending_ne_alreadyShifted (s : BuildState) (value : Property) (tookHeld : Bool)
    (action : String) :
    (s.bindPending value tookHeld action).2 ≠ .error .alreadyShifted := by
  unfold bindPending
  split
  · nofun
  · refine attempt_ne_error ?_
    split
    · nofun
    · intro h
      rcases of_bind_eq_error h with hopen | ⟨_, _, hbound⟩
      · exact bindOpen_ne_alreadyShifted _ _ value action hopen
      · cases hbound

theorem applyClose_ne_alreadyShifted (s : BuildState) :
    s.applyClose.2 ≠ .error .alreadyShifted := by
  unfold applyClose
  split
  · nofun
  · nofun
  · refine attempt_ne_error ?_
    split
    · nofun
    · intro h
      rcases of_bind_eq_error h with hopen | ⟨_, _, hbound⟩
      · exact bindOpen_ne_alreadyShifted _ _ _ "close" hopen
      · cases hbound

theorem applyShift_ne_alreadyShifted {s : BuildState} (id : PathId) (h : s.held = none) :
    (s.applyShift id).2 ≠ .error .alreadyShifted := by
  rw [applyShift, h, Option.isSome_none, if_neg Bool.false_ne_true]
  split
  · simp
  · split
    · simp
    · dsimp only
      split <;> simp

theorem apply_ne_alreadyShifted {s : BuildState} {t : Terminal} (id : PathId)
    (h : t = .shift → s.held = none) : (s.apply id t).2 ≠ .error .alreadyShifted := by
  cases t with
  | doctype tag =>
      refine attempt_ne_error ?_
      unfold applyDoctype
      split <;> nofun
  | openNode tag =>
      refine attempt_ne_error ?_
      unfold applyOpen
      split
      · split <;> nofun
      · split <;> nofun
  | close => exact s.applyClose_ne_alreadyShifted
  | literal text =>
      refine attempt_ne_error ?_
      intro hliteral
      rcases of_bind_eq_error hliteral with hmodify | ⟨_, _, hadded⟩
      · exact s.modifyNode_ne_alreadyShifted _ _ hmodify
      · cases hadded
  | gap => exact s.bindPending_ne_alreadyShifted _ _ "gap"
  | shift => exact applyShift_ne_alreadyShifted id (h rfl)
  | reference r =>
      refine attempt_ne_error ?_
      intro hreference
      rcases of_bind_eq_error hreference with hopen | ⟨⟨_, n, _⟩, _, hrest⟩
      · exact s.requireOpen_ne_alreadyShifted _ hopen
      · rcases of_bind_eq_error hrest with hcheck | ⟨_, _, hrest⟩
        · exact n.checkBindable_ne_alreadyShifted r hcheck
        · rcases of_bind_eq_error hrest with hmodify | ⟨_, _, hadded⟩
          · exact s.modifyNode_ne_alreadyShifted _ _ hmodify
          · cases hadded
  | null => exact s.bindPending_ne_alreadyShifted _ _ "null"

end BuildState

namespace Builder

theorem outOfStep_of_ne {e : BuildError} (h : e ≠ .alreadyShifted) :
    (Error.build e).outOfStep = false := by
  cases e with
  | alreadyShifted => exact absurd rfl h
  | _ => rfl

theorem outOfStep_advance {b : Builder} {t : Terminal} {error : Error}
    (hheld : t = .shift → b.state.held = none) (h : (b.advance t).2 = .error error) :
    error.outOfStep = false := by
  rw [advance_eq] at h
  split at h
  · next state e happly =>
      cases h
      refine outOfStep_of_ne ?_
      rintro rfl
      exact BuildState.apply_ne_alreadyShifted ⟨b.nextId⟩ hheld (congrArg Prod.snd happly)
  · cases h

theorem outOfStep_bindAttribute {b : Builder} {key : String} {value : Value} {error : Error}
    (h : (b.bindAttribute key value).2 = .error error) : error.outOfStep = false := by
  unfold bindAttribute at h
  split at h
  · next e hbind =>
      cases h
      refine outOfStep_of_ne ?_
      rintro rfl
      rcases of_bind_eq_error hbind with hopen | ⟨_, _, hrest⟩
      · exact b.state.requireOpen_ne_alreadyShifted _ hopen
      · rcases of_bind_eq_error hrest with hmodify | ⟨_, _, hbound⟩
        · exact b.state.modifyNode_ne_alreadyShifted _ _ hmodify
        · cases hbound
  · cases h

theorem outOfStep_finish {b : Builder} {error : Error} (h : b.finish = .error error) :
    error.outOfStep = false := by
  unfold finish at h
  split at h
  · split at h
    · cases h
      rfl
    · cases h
  · cases h
    rfl

end Builder

/-! ## Failures of an instruction -/

namespace Regions

theorem outOfStep_popSpan {r : Regions} {error : Error} (h : r.popSpan.2 = .error error) :
    error.outOfStep = false := by
  unfold popSpan SpanStack.pop at h
  cases hinner : r.spans.inner with
  | nil =>
      rw [hinner] at h
      cases h
      rfl
  | cons span inner =>
      rw [hinner] at h
      cases h

theorem outOfStep_endBalanced {r : Regions} {tag : OpenTag} {error : Error}
    (h : (r.endBalanced tag).2 = .error error) : error.outOfStep = false := by
  unfold endBalanced at h
  split at h
  · cases h
    rfl
  · dsimp only at h
    split at h
    · exact outOfStep_popSpan h
    · cases h

theorem outOfStep_enter {r : Regions} {tag : OpenTag} {error : Error}
    (h : (r.enter tag).2 = .error error) : error.outOfStep = false := by
  unfold enter at h
  by_cases hbalancer : (tag.attributes.get? "balancer").any Value.isTruthy = true
  · rw [if_pos hbalancer] at h
    dsimp only at h
    split at h
    · next hended =>
        cases h
        exact outOfStep_endBalanced hended
    · cases h
  · rw [if_neg hbalancer] at h
    cases h

theorem outOfStep_leave {r : Regions} {tag : OpenTag} {error : Error}
    (h : (r.leave tag).2 = .error error) : error.outOfStep = false := by
  unfold leave at h
  split at h
  · exact outOfStep_popSpan h
  · cases h

end Regions

namespace Engine

variable {ω α β : Type}

/-- If the execution fails, it is not for parts out of step. -/
abbrev Careful (x : Exec ω α) (b : Buffer) : Prop :=
  FailsOnly (fun error => error.outOfStep = false) x b

theorem careful_advanceCursor {e : Engine} {n : Nat} {b : Buffer}
    (h : e.scope.cursor.offset + n ≤ b.size) :
    Careful (e.advanceCursor n : Exec ω Engine) b := by
  refine (failsOnly_lift _ b).bind ?_
  intro moved b₁ hlift
  rw [yields_lift_iff] at hlift
  have hsize := hlift.size_le
  obtain ⟨b₂, b₃, hawait, hdone⟩ := Job.runs_bind_iff.mp hlift
  obtain ⟨rfl, _⟩ := Job.reached_of_await hawait
  obtain ⟨rfl, rfl⟩ := Job.runs_done_iff.mp hdone
  rw [Cursor.tryAdvance_of_le (Nat.le_trans h hsize)]
  refine (failsOnly_mk b₁ ?_).bind fun cursor b₄ _ => failsOnly_pure _ b₄
  rintro error ⟨⟩

/-- Only a shift needs to know that nothing is held. -/
theorem careful_build_advance (e : Engine) (t : Terminal) (h : t ≠ .shift) (b : Buffer) :
    Careful (e.build (·.advance t) : Exec ω (Emitted × Engine)) b :=
  failsOnly_build b fun _ => Builder.outOfStep_advance fun ht => absurd ht h

theorem careful_advanceOpen (e : Engine) (tag : OpenTag) (b : Buffer) :
    Careful (e.advanceOpen tag : Exec ω (Emitted × Engine)) b :=
  failsOnly_advanceOpen b (careful_build_advance e (.openNode tag) (by simp) b)
    fun _ _ _ _ _ => Regions.outOfStep_enter

theorem careful_advanceClose (e : Engine) (b : Buffer) :
    Careful (e.advanceClose : Exec ω (Emitted × Engine)) b :=
  failsOnly_advanceClose b (careful_build_advance e .close (by simp) b) rfl (fun _ => rfl)
    fun _ _ _ _ _ _ _ => Regions.outOfStep_leave

theorem careful_advanceLiteral (config : Config) {e : Engine} {b : Buffer} (text : String)
    (hoffset : e.scope.cursor.offset ≤ b.size) :
    Careful (advanceLiteral config e text : Exec ω (Emitted × Engine)) b := by
  refine (failsOnly_lift _ b).bind ?_
  intro found b₁ hmatch
  have hmatch := yields_lift_iff.mp hmatch
  have hsize := hmatch.size_le
  obtain ⟨_, _, hfound⟩ := matchAt_eq_of_runs hmatch
  cases found with
  | none => exact failsOnly_throw b₁ rfl
  | some range =>
      obtain ⟨hlength, harrived, _⟩ := literal_of_matchStart hfound.symm
      have hfits : e.scope.cursor.offset + range.length ≤ b₁.size := by omega
      exact (careful_advanceCursor hfits).bind fun e₁ b₂ _ =>
        careful_build_advance e₁ (.literal text) (by simp) b₂

theorem careful_advanceGap (e : Engine) (b : Buffer) :
    Careful (e.advanceGap : Exec ω (Emitted × Engine)) b := by
  refine (failsOnly_lift _ b).bind ?_
  intro b₁ b₂ hprime
  obtain ⟨rfl, hreached, _⟩ := prime_of_yields hprime
  refine failsOnly_guard rfl fun hahead => ?_
  split
  · next hholding =>
      have hset : Careful (e.setCursor <$> ExceptT.mk (pure (liftSource e.scope.cursor.unshift)) :
          Exec ω Engine) b₂ := by
        rw [Cursor.unshift, if_pos hholding]
        refine FailsOnly.bind (failsOnly_mk b₂ ?_) fun cursor b₃ _ => failsOnly_pure _ b₃
        rintro error ⟨⟩
      exact hset.bind fun e₁ b₃ _ => careful_build_advance e₁ .gap (by simp) b₃
  · next hholding =>
      -- There is a gap under the cursor, so the input goes on.
      simp only [Bool.or_eq_true, not_or, Bool.not_eq_true] at hahead hholding
      have hfits := Cursor.lt_size_of_not_done hreached hholding hahead.2
      exact (careful_advanceCursor hfits).bind fun e₁ b₃ _ =>
        careful_build_advance e₁ .gap (by simp) b₃

theorem careful_advanceShift {e : Engine} (b : Buffer)
    (hheld : e.scope.cursor.holding = e.builder.state.held.isSome) :
    Careful (e.advanceShift : Exec ω (Emitted × Engine)) b := by
  unfold advanceShift Cursor.shift
  split
  · refine FailsOnly.bind (failsOnly_mk b ?_) ?_
    · rintro error ⟨⟩
      rfl
    · intro cursor b₁ hmk
      cases (yields_mk_iff.mp hmk).1
  · next hholding =>
      have hnone : e.builder.state.held = none := by
        rw [hheld] at hholding
        simpa using hholding
      refine FailsOnly.bind (failsOnly_mk b ?_) fun cursor b₁ _ =>
        failsOnly_build b₁ fun error => Builder.outOfStep_advance fun _ => hnone
      rintro error ⟨⟩

theorem careful_advance (config : Config) {e : Engine} {b : Buffer} {levels : List Level}
    (h : e.InStep b levels) (t : Terminal) :
    Careful (advance config e t : Exec ω (Emitted × Engine)) b := by
  cases t with
  | doctype tag => exact careful_build_advance e (.doctype tag) (by simp) b
  | openNode tag => exact careful_advanceOpen e tag b
  | close => exact careful_advanceClose e b
  | literal text => exact careful_advanceLiteral config text h.here.2
  | gap => exact careful_advanceGap e b
  | shift => exact careful_advanceShift b h.here.1
  | reference r => exact careful_build_advance e (.reference r) (by simp) b
  | null => exact careful_build_advance e .null (by simp) b

/-! ## Runs -/

theorem careful_step (config : Config) {e : Engine} {b : Buffer} {levels : List Level}
    (h : e.InStep b levels) (i : Instruction) :
    Careful (step config e i : Exec ω (Answer × Engine)) b := by
  refine failsOnly_guard rfl fun _ => ?_
  have hcounted := h.executed (e.executed + 1)
  cases i with
  | advance t => exact (careful_advance config hcounted t).bind fun _ b₁ _ => failsOnly_pure _ b₁
  | test p =>
      refine (failsOnly_lift _ b).bind ?_
      intro found b₁ _
      cases found with
      | none => exact failsOnly_pure _ b₁
      | some range => exact failsOnly_pure _ b₁
  | branch =>
      exact (failsOnly_branch config b hcounted.stands fun _ _ => rfl).bind
        fun _ b₁ _ => failsOnly_pure _ b₁
  | accept =>
      have hroot : Error.acceptedRoot.outOfStep = false := rfl
      exact (failsOnly_accept b hcounted.stands hroot).bind fun _ b₁ _ => failsOnly_pure _ b₁
  | reject =>
      have hroot : Error.rejectedRoot.outOfStep = false := rfl
      refine (failsOnly_reject b hcounted.stands hroot ?_ ?_).bind
        fun _ b₁ _ => failsOnly_pure _ b₁
      · exact fun e r b => careful_build_advance e (.reference r) (by simp) b
      · exact fun e b => careful_build_advance e .null (by simp) b
  | write text =>
      exact (failsOnly_build_ok b ⟨_, rfl⟩).bind fun _ b₁ _ => failsOnly_pure _ b₁
  | bindAttribute key value =>
      exact (failsOnly_build b fun error => Builder.outOfStep_bindAttribute).bind
        fun _ b₁ _ => failsOnly_pure _ b₁
  | getState => exact (failsOnly_lift _ b).bind fun _ b₁ _ => failsOnly_pure _ b₁
  | unknown verb => exact failsOnly_throw b rfl

theorem outOfStep_of_runFrom {config : Config} {strategy : Strategy Unit} {e : Engine}
    {b b' : Buffer} {levels : List Level} {error : Error} (h : e.InStep b levels)
    (hruns : (runFrom config strategy e).Runs b (.error error) b') :
    error.outOfStep = false := by
  induction strategy generalizing e b levels with
  | done a => cases (Job.runs_done_iff.mp hruns).1
  | pause rest ih =>
      cases hruns with
      | pause hrest => exact ih h hrest
  | ask i rest ih =>
      rw [runFrom] at hruns
      obtain ⟨result, b₁, hstep, hrest⟩ := Job.runs_bind_iff.mp hruns
      cases result with
      | error error' =>
          obtain ⟨hsame, _⟩ := Job.runs_done_iff.mp hrest
          cases hsame
          exact careful_step config h i _ _ hstep
      | ok pair =>
          obtain ⟨answer, e'⟩ := pair
          obtain ⟨levels', hnext⟩ := h.of_step hstep
          cases hrest with
          | emit hrest => exact ih answer hnext hrest

theorem outOfStep_of_run {config : Config} {strategy : Strategy Unit} {input : Buffer}
    {polls : Nat} {error : Error}
    (h : ((run config strategy).drive polls input).result = some (.error error)) :
    error.outOfStep = false := by
  obtain ⟨b', hruns⟩ := Job.runs_of_drive h
  obtain ⟨b₁, _, hrest⟩ := Job.runs_fill_iff.mp hruns
  exact outOfStep_of_runFrom (inStep_start config b₁) hrest

/-- In every reachable state the engine and its builder are in step, and no run over
any input fails in a way that only parts out of step could. -/
theorem lockstep_of_reachable :
    (∀ (config : Config) (input b : Buffer) (e : Engine), Reachable config input e b →
      e.Lockstep b) ∧
    ∀ (config : Config) (strategy : Strategy Unit) (input : Buffer) (polls : Nat)
      (error : Error), (parse config strategy input polls).result = some (.error error) →
      error.outOfStep = false := by
  refine ⟨fun config input b e h => h.lockstep, ?_⟩
  intro config strategy input polls error h
  obtain ⟨built, hrun, hfinish⟩ := Option.map_eq_some_iff.mp h
  cases built with
  | error error' =>
      cases hfinish
      exact outOfStep_of_run hrun
  | ok builder => exact Builder.outOfStep_finish hfinish

/-- Takes a value back inside of two attempts. -/
def gapHeld : List Instruction :=
  [.advance (.openNode (.typed "Root")), .advance (.literal "x"), .branch,
    .advance (.reference { name := "a" }), .advance .gap, .advance .shift, .branch]

def gapInside : Buffer := .ofChunks [[.char 'x'], [.gap], [.char 'y']]

/-- Shifting while a unit is held ends the run, but not for parts out of step. -/
theorem lockstep_of_reachable_gapHeld :
    (∃ (e : Engine) (b : Buffer), Reachable {} gapInside e b ∧ e.Lockstep b ∧
      e.frames.depth = 2 ∧ e.offsets = [1, 2, 2] ∧ e.scope.cursor.holding = true) ∧
    ∃ error, (parse {} (.ofInstructions (gapHeld ++ [.advance .shift])) gapInside 1).result =
        some (.error error) ∧
      error.outOfStep = false ∧ error = .source .alreadyHolding := by
  refine ⟨?_, ?_⟩
  · have hfacts : (gapInside.fill 1).2 = true ∧
        (execute {} gapHeld (start {}) (gapInside.fill 1).1).map (fun reached =>
          (reached.1.frames.depth, reached.1.offsets, reached.1.scope.cursor.holding)) =
        some (2, [1, 2, 2], true) := by decide +kernel
    obtain ⟨⟨e, b⟩, hexecute, hreached⟩ := Option.map_eq_some_iff.mp hfacts.2
    simp only [Prod.mk.injEq] at hreached
    obtain ⟨hdepth, hoffsets, hholding⟩ := hreached
    have hreachable : Reachable {} gapInside e b :=
      reachable_of_execute (Prod.ext rfl hfacts.1) hexecute
    exact ⟨e, b, hreachable, lockstep_of_reachable.1 {} gapInside b e hreachable, hdepth,
      hoffsets, hholding⟩
  · have hfails :
        (parse {} (.ofInstructions (gapHeld ++ [.advance .shift])) gapInside 1).result.map
          (Except.map fun _ => ()) = some (.error (.source .alreadyHolding)) := by
      decide +kernel
    obtain ⟨result, hresult, herror⟩ := Option.map_eq_some_iff.mp hfails
    cases result with
    | ok document => cases herror
    | error error =>
        cases herror
        exact ⟨_, hresult, lockstep_of_reachable.2 {} _ gapInside 1 _ hresult, rfl⟩

end Engine

end Backtrack
