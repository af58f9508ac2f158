import Backtrack.Proofs.Engine.Rejection
import Backtrack.Proofs.Input.Completion

/-!
Going forward over an input that is all there.  An instruction waits for nothing
but the input, so over such an input it never waits, and whether it succeeds can be
told from the tree, the scope on top and the frames.
-/

namespace Backtrack

namespace Job

variable {ω α β : Type}

/-- The job waits for nothing but the input. -/
inductive Prompt : Job ω α → Prop
  | done {a : α} : Prompt (.done a)
  | emit {event : ω} {rest : Job ω α} : Prompt rest → Prompt (.emit event rest)
  | fill {upto : Nat} {rest : Buffer → Job ω α} : (∀ b, Prompt (rest b)) →
      Prompt (.fill upto rest)

theorem Prompt.bind {job : Job ω α} {f : α → Job ω β} (h : job.Prompt)
    (hf : ∀ a, (f a).Prompt) : (job.bind f).Prompt := by
  induction h with
  | done => exact hf _
  | emit _ ih => exact .emit ih
  | fill _ ih => exact .fill ih

theorem Prompt.waits_complete {job : Job ω α} {b : Buffer} (h : job.Prompt)
    (hb : b.exhausted = true) : (job.complete b).waits = 0 := by
  induction h with
  | done => rfl
  | emit _ ih => exact ih
  | fill _ ih =>
      rw [complete, Buffer.settle_of_exhausted hb]
      simp only [ih b]

theorem Runs.result_complete {job : Job ω α} {a : α} {b b' : Buffer} (h : job.Runs b a b')
    (hb : b.exhausted = true) : (job.complete b).result = a := by
  induction h with
  | done => rfl
  | emit _ ih => exact ih hb
  | pause _ ih => exact ih hb
  | fill hfill _ ih =>
      rw [complete, Buffer.settle_of_fill hfill]
      rw [Buffer.fill_of_exhausted hb] at hfill
      cases hfill
      exact ih hb
  | wait hfill _ ih =>
      rw [Buffer.fill_of_exhausted hb] at hfill
      cases hfill

/-- Over the input as it is the job ends with a result and without a wait. -/
structure Ends (job : Job ω α) (b : Buffer) (a : α) : Prop where
  result : (job.complete b).result = a
  waits : (job.complete b).waits = 0

theorem Prompt.ends {job : Job ω α} {a : α} {b b' : Buffer} (h : job.Prompt)
    (hb : b.exhausted = true) (hruns : job.Runs b a b') : job.Ends b a :=
  ⟨hruns.result_complete hb, h.waits_complete hb⟩

theorem Ends.bind {job : Job ω α} {f : α → Job ω β} {a : α} {c : β} {b : Buffer}
    (h : job.Ends b a) (hb : b.exhausted = true) (hf : (f a).Ends b c) : (job.bind f).Ends b c := by
  have hcomplete := complete_bind job f b
  rw [h.result, buffer_complete_of_exhausted job hb] at hcomplete
  constructor
  · rw [hcomplete, Completed.andThen, hf.result]
  · rw [hcomplete, Completed.andThen, hf.waits, h.waits]

end Job

namespace Engine

variable {ω α β : Type}

/-! ## Instructions only wait for the input -/

theorem prompt_mk (result : Except Error α) :
    (ExceptT.mk (pure result) : Exec ω α).run.Prompt := .done

theorem prompt_bind {x : Exec ω α} {f : α → Exec ω β} (h : x.run.Prompt)
    (hf : ∀ a, (f a).run.Prompt) : (x >>= f).run.Prompt := by
  refine Job.Prompt.bind h ?_
  intro result
  cases result with
  | error error => exact .done
  | ok a => exact hf a

theorem prompt_lift {job : Job ω α} (h : job.Prompt) :
    (ExceptT.lift job : Exec ω α).run.Prompt :=
  h.bind fun _ => .done

theorem prompt_prime (c : Cursor) : (c.prime : Job ω Buffer).Prompt :=
  .fill fun _ => .done

theorem prompt_matchAt (config : Config) (scope : Scope) (p : Pattern) :
    (matchAt config scope p : Job ω (Option TokenRange)).Prompt :=
  .fill fun _ => .done

theorem prompt_build (e : Engine) (change : Builder → Builder × Except Error α) :
    (e.build change : Exec ω (α × Engine)).run.Prompt := by
  unfold build
  split
  · exact .done
  · exact .done

theorem prompt_updateRegions (e : Engine) (change : Regions → Regions × Except Error Unit) :
    (e.updateRegions change : Exec ω Engine).run.Prompt := by
  unfold updateRegions
  split
  · exact .done
  · exact .done

theorem prompt_advanceCursor (e : Engine) (n : Nat) :
    (e.advanceCursor n : Exec ω Engine).run.Prompt := by
  refine prompt_bind (prompt_lift (.fill fun _ => .done)) fun moved => ?_
  exact prompt_bind (prompt_mk _) fun _ => .done

theorem prompt_advanceOpen (e : Engine) (tag : OpenTag) :
    (e.advanceOpen tag : Exec ω (Emitted × Engine)).run.Prompt := by
  refine prompt_bind (prompt_build e _) fun p => ?_
  have hlanguage : ∀ e₁ : Engine,
      (enterLanguage p.1 e₁ tag.language : Exec ω (Emitted × Engine)).run.Prompt := by
    intro e₁
    cases tag.language with
    | none => exact .done
    | some language => exact .done
  dsimp only
  split
  · exact prompt_bind (prompt_updateRegions _ _) hlanguage
  · exact hlanguage _

theorem prompt_guard {c : Prop} [Decidable c] {error : Error} {f : PUnit → Exec ω α}
    {x : Exec ω α} (h : x.run.Prompt) : (if c then throw error >>= f else x).run.Prompt := by
  split
  · exact .done
  · exact h

theorem prompt_finalize (e : Engine) : (e.finalize : Exec ω Unit).run.Prompt := by
  refine prompt_bind (prompt_lift (prompt_prime _)) fun b => prompt_guard ?_
  split
  · exact .done
  · exact .done

theorem prompt_advanceClose (e : Engine) :
    (e.advanceClose : Exec ω (Emitted × Engine)).run.Prompt := by
  refine prompt_bind (prompt_build e _) fun p => ?_
  dsimp only
  split
  · exact prompt_bind (prompt_finalize _) fun _ => .done
  · split
    · exact .done
    · exact prompt_bind (prompt_updateRegions _ _) fun _ => .done

theorem prompt_advance (config : Config) (e : Engine) (t : Terminal) :
    (advance config e t : Exec ω (Emitted × Engine)).run.Prompt := by
  cases t with
  | doctype tag => exact prompt_build e (·.advance (.doctype tag))
  | openNode tag => exact prompt_advanceOpen e tag
  | close => exact prompt_advanceClose e
  | literal text =>
      refine prompt_bind (prompt_lift (prompt_matchAt config e.scope _)) fun found => ?_
      cases found with
      | none => exact .done
      | some range => exact prompt_bind (prompt_advanceCursor e _) fun _ => prompt_build _ _
  | gap =>
      refine prompt_bind (prompt_lift (prompt_prime _)) fun b => prompt_guard ?_
      split
      · refine prompt_bind ?_ fun _ => prompt_build _ _
        exact prompt_bind (prompt_mk _) fun _ => .done
      · exact prompt_bind (prompt_advanceCursor e 1) fun _ => prompt_build _ _
  | shift => exact prompt_bind (prompt_mk _) fun _ => prompt_build _ _
  | reference r => exact prompt_build e (·.advance (.reference r))
  | null => exact prompt_build e (·.advance .null)

theorem prompt_view (e : Engine) (f : StateView → α) :
    (do return (f (e.view (← look)), e) : Exec ω (α × Engine)).run.Prompt :=
  .fill fun _ => .done

theorem prompt_branch (config : Config) (e : Engine) :
    (branch config e : Exec ω (StateView × Engine)).run.Prompt := by
  refine prompt_guard (prompt_bind (prompt_build e _) fun p => ?_)
  exact prompt_bind (prompt_mk _) fun q => prompt_view _ id

theorem prompt_accept (e : Engine) : (e.accept : Exec ω (StateView × Engine)).run.Prompt := by
  refine prompt_guard (prompt_bind (prompt_build e _) fun p => ?_)
  exact prompt_bind (prompt_mk _) fun q => prompt_view _ id

theorem prompt_repair (e : Engine) (rejected : Path) :
    (e.repair rejected : Exec ω Engine).run.Prompt := by
  unfold repair
  split
  · exact .done
  · refine prompt_bind (prompt_build e _) fun p => ?_
    exact prompt_bind (prompt_build _ _) fun _ => .done

theorem prompt_reject (e : Engine) : (e.reject : Exec ω (StateView × Engine)).run.Prompt := by
  refine prompt_guard (prompt_bind (prompt_build e _) fun p => ?_)
  refine prompt_bind (prompt_mk _) fun q => ?_
  exact prompt_bind (prompt_repair _ _) fun e₁ => prompt_view e₁ id

theorem prompt_step (config : Config) (e : Engine) (i : Instruction) :
    (step config e i : Exec ω (Answer × Engine)).run.Prompt := by
  refine prompt_guard ?_
  cases i with
  | advance t => exact prompt_bind (prompt_advance config _ t) fun _ => .done
  | test p =>
      refine prompt_bind (prompt_lift (prompt_matchAt config _ p)) fun found => ?_
      cases found with
      | none => exact .done
      | some range => exact .done
  | branch => exact prompt_bind (prompt_branch config _) fun _ => .done
  | accept => exact prompt_bind (prompt_accept _) fun _ => .done
  | reject => exact prompt_bind (prompt_reject _) fun _ => .done
  | write text => exact prompt_bind (prompt_build _ _) fun _ => .done
  | bindAttribute key value => exact prompt_bind (prompt_build _ _) fun _ => .done
  | getState => exact prompt_view _ Answer.state
  | unknown verb => exact .done

end Engine

/-- The strategy never pauses. -/
inductive Strategy.Prompt {α : Type} : Strategy α → Prop
  | done {a : α} : Prompt (.done a)
  | ask {i : Instruction} {rest : Answer → Strategy α} : (∀ a, Prompt (rest a)) →
      Prompt (.ask i rest)

namespace Engine

variable {ω α β : Type}

variable {config : Config} {e : Engine} {b : Buffer} {builder : Builder} {emitted : Emitted}

theorem Stands.length_eq {levels : List Level} (h : e.Stands levels) :
    levels.length = e.frames.depth + 1 := by
  have hlength := congrArg List.length h.scopes
  simpa [FrameStack.carried, FrameStack.live, FrameStack.depth] using hlength.symm

theorem Stands.frame_ne_root {level parent : Level} {below : List Level}
    (h : e.Stands (level :: parent :: below)) : e.frame ≠ .root := by
  rw [h.frame, Ne, h.frames.topId_eq_root_iff]
  exact h.above_ne_nil

/-- Rejecting a path that did not go deeper needs no repair. -/
theorem Stands.yields_reject {level parent : Level} {below : List Level}
    (h : e.Stands (level :: parent :: below))
    (hpath : level.state.segments.length ≤ parent.state.segments.length) (b : Buffer) :
    ∃ e', Yields (e.reject : Exec ω _) b (e'.view b, e') b ∧ e'.executed = e.executed ∧
      e'.Stands (parent :: below) := by
  obtain ⟨hok, hframes, hstands⟩ := h.rolledBack
  have hlevel : level.state = e.builder.state := Option.some.inj h.state
  have hparent : parent.state = e.rolledBack.builder.state := Option.some.inj hstands.state
  have hdepth : e.builder.path.depth ≤ e.rolledBack.builder.path.depth := by
    rw [hlevel, hparent] at hpath
    simp only [Path.depth, Builder.path, List.length_reverse, List.length_map]
    omega
  have hslot : repairSlot? e.rolledBack.builder e.builder.path = none := by
    simp [repairSlot?, repairReference?, hdepth]
  have hrepair := @yields_repair_of_none ω e.rolledBack _ hslot b
  exact ⟨e.rolledBack, Engine.yields_reject h.frame_ne_root hok hframes hrepair, rfl, hstands⟩

end Engine

end Backtrack
