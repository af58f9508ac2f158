import Backtrack.Proofs.Engine.Levels

/-!
What an execution can fail with.  `FailsOnly` bounds the failures of an execution by a
condition on the error.  A composed execution meets the condition if its parts do, and
an instruction meets it if it admits the few errors that the instruction can end with.
-/

namespace Backtrack

namespace Engine

variable {ω α β : Type} {Q : Error → Prop}

/-- If the execution fails, the error meets the condition. -/
def FailsOnly (Q : Error → Prop) (x : Exec ω α) (b : Buffer) : Prop :=
  ∀ error b', Fails x b error b' → Q error

theorem failsOnly_pure (a : α) (b : Buffer) : FailsOnly Q (pure a : Exec ω α) b := by
  intro error b' h
  have hdone : Job.Runs (.done (.ok a) : Job ω (Except Error α)) b (.error error) b' := h
  cases (Job.runs_done_iff.mp hdone).1

theorem failsOnly_mk {result : Except Error α} (b : Buffer)
    (h : ∀ error, result = .error error → Q error) :
    FailsOnly Q (ExceptT.mk (pure result) : Exec ω α) b := by
  intro error b' hfails
  have hdone : Job.Runs (.done result : Job ω (Except Error α)) b (.error error) b' := hfails
  exact h error (Job.runs_done_iff.mp hdone).1.symm

theorem failsOnly_throw {error : Error} (b : Buffer) (h : Q error) :
    FailsOnly Q (throw error : Exec ω α) b := by
  refine failsOnly_mk b ?_
  rintro _ ⟨⟩
  exact h

theorem FailsOnly.bind {x : Exec ω α} {f : α → Exec ω β} {b : Buffer} (h : FailsOnly Q x b)
    (hf : ∀ a b₁, Yields x b a b₁ → FailsOnly Q (f a) b₁) : FailsOnly Q (x >>= f) b := by
  intro error b' hfails
  obtain ⟨result, b₁, hx, hrest⟩ := Job.runs_bind_iff.mp hfails
  cases result with
  | error error' =>
      obtain ⟨hsame, rfl⟩ := Job.runs_done_iff.mp hrest
      cases hsame
      exact h _ _ hx
  | ok a => exact hf a b₁ hx error b' hrest

theorem failsOnly_lift (job : Job ω α) (b : Buffer) :
    FailsOnly Q (ExceptT.lift job : Exec ω α) b := by
  intro error b' hfails
  obtain ⟨a, b₁, _, hdone⟩ := Job.runs_bind_iff.mp hfails
  cases (Job.runs_done_iff.mp hdone).1

theorem failsOnly_guard {c : Prop} [Decidable c] {error : Error} {f : PUnit → Exec ω α}
    {x : Exec ω α} {b : Buffer} (herror : Q error) (h : ¬ c → FailsOnly Q x b) :
    FailsOnly Q (if c then throw error >>= f else x) b := by
  split
  · refine (failsOnly_throw b herror).bind ?_
    intro a b₁ hthrow
    exact absurd hthrow not_yields_throw
  · next hc => exact h hc

theorem failsOnly_build {e : Engine} {change : Builder → Builder × Except Error α} (b : Buffer)
    (h : ∀ error, (change e.builder).2 = .error error → Q error) :
    FailsOnly Q (e.build change : Exec ω (α × Engine)) b := by
  unfold build
  split
  · exact failsOnly_pure _ b
  · next builder error hchange => exact failsOnly_throw b (h error (by rw [hchange]))

theorem failsOnly_build_ok {e : Engine} {change : Builder → Builder × Except Error α} (b : Buffer)
    (h : ∃ a, (change e.builder).2 = .ok a) :
    FailsOnly Q (e.build change : Exec ω (α × Engine)) b := by
  obtain ⟨a, hok⟩ := h
  refine failsOnly_build b ?_
  intro error herror
  rw [hok] at herror
  cases herror

theorem failsOnly_updateRegions {e : Engine} {change : Regions → Regions × Except Error Unit}
    (b : Buffer) (h : ∀ error, (change e.scope.regions).2 = .error error → Q error) :
    FailsOnly Q (e.updateRegions change : Exec ω Engine) b := by
  unfold updateRegions
  split
  · exact failsOnly_pure _ b
  · next regions error hchange => exact failsOnly_throw b (h error (by rw [hchange]))

/-! ## Opening and closing nodes -/

/-- A node that is opened is refused by the builder or by the regions. -/
theorem failsOnly_advanceOpen {e : Engine} {tag : OpenTag} (b : Buffer)
    (hbuild : FailsOnly Q (e.build (·.advance (.openNode tag)) : Exec ω (Emitted × Engine)) b)
    (henter : ∀ builder emitted error,
      e.builder.advance (.openNode tag) = (builder, .ok emitted) → tag.nodeType.isSome = true →
      (e.scope.regions.enter tag).2 = .error error → Q error) :
    FailsOnly Q (e.advanceOpen tag : Exec ω (Emitted × Engine)) b := by
  refine hbuild.bind ?_
  rintro ⟨output, e₁⟩ b₁ hyields
  obtain ⟨builder, hadvance, rfl, rfl⟩ := build_of_yields hyields
  have hlanguage : ∀ (e₂ : Engine) b₂,
      FailsOnly Q (enterLanguage output e₂ tag.language : Exec ω (Emitted × Engine)) b₂ := by
    intro e₂ b₂
    cases tag.language with
    | none => exact failsOnly_pure _ b₂
    | some language => exact failsOnly_pure _ b₂
  dsimp only
  split
  · next htyped =>
    exact (failsOnly_updateRegions b₁ fun error => henter builder output error hadvance htyped).bind
      fun e₂ b₂ _ => hlanguage e₂ b₂
  · exact hlanguage _ b₁

theorem failsOnly_finalize (e : Engine) (b : Buffer) (hinput : Q .inputNotConsumed)
    (hbalanced : ∀ remaining, Q (.unbalancedAtEnd remaining)) :
    FailsOnly Q (e.finalize : Exec ω Unit) b := by
  refine (failsOnly_lift _ b).bind ?_
  intro b₁ b₂ _
  refine failsOnly_guard hinput fun _ => ?_
  split
  · exact failsOnly_throw b₂ (hbalanced _)
  · exact failsOnly_pure _ b₂

/-- A node that is closed is refused by the builder, by the regions, or at the end of the
document. -/
theorem failsOnly_advanceClose {e : Engine} (b : Buffer)
    (hbuild : FailsOnly Q (e.build (·.advance .close) : Exec ω (Emitted × Engine)) b)
    (hinput : Q .inputNotConsumed) (hbalanced : ∀ remaining, Q (.unbalancedAtEnd remaining))
    (hleave : ∀ builder emitted tag error, e.builder.advance .close = (builder, .ok emitted) →
      builder.path.isEmpty = false →
      (e.builder.node?.map (·.tag)).filter (·.nodeType.isSome) = some tag →
      (e.scope.regions.leave tag).2 = .error error → Q error) :
    FailsOnly Q (e.advanceClose : Exec ω (Emitted × Engine)) b := by
  refine hbuild.bind ?_
  rintro ⟨output, e₁⟩ b₁ hyields
  obtain ⟨builder, hadvance, rfl, rfl⟩ := build_of_yields hyields
  dsimp only
  split
  · exact (failsOnly_finalize _ b₁ hinput hbalanced).bind fun _ b₂ _ => failsOnly_pure _ b₂
  · next hinner =>
    split
    · exact failsOnly_pure _ b₁
    · next tag hclosing =>
      rw [Bool.not_eq_true] at hinner
      exact (failsOnly_updateRegions b₁ fun error =>
        hleave builder output tag error hadvance hinner hclosing).bind
          fun _ b₂ _ => failsOnly_pure _ b₂

/-! ## Frames -/

theorem failsOnly_branch (config : Config) {e : Engine} {levels : List Level} (b : Buffer)
    (h : e.Stands levels) (hlimit : ∀ depth limit, Q (.branchLimitExceeded depth limit)) :
    FailsOnly Q (branch config e : Exec ω (StateView × Engine)) b := by
  refine failsOnly_guard (hlimit _ _) fun _ => ?_
  refine (failsOnly_build_ok b ⟨(), h.builder.branch.1⟩).bind ?_
  rintro ⟨⟨⟩, e₁⟩ b₁ hbuild
  obtain ⟨builder, _, rfl, rfl⟩ := build_of_yields hbuild
  refine FailsOnly.bind (failsOnly_mk b₁ ?_) ?_
  · intro error herror
    rw [h.frame, h.frames.branch_topId] at herror
    cases herror
  · rintro ⟨frames, frame⟩ b₂ _
    exact (failsOnly_lift _ b₂).bind fun b₃ b₄ _ => failsOnly_pure _ b₄

theorem failsOnly_accept {e : Engine} {levels : List Level} (b : Buffer) (h : e.Stands levels)
    (hroot : Q .acceptedRoot) : FailsOnly Q (e.accept : Exec ω (StateView × Engine)) b := by
  refine failsOnly_guard hroot fun hframe => ?_
  obtain ⟨below, rfl⟩ := h.exists_cons
  obtain ⟨parent, below, rfl⟩ := h.exists_parent hframe
  obtain ⟨top, rest, habove⟩ := List.exists_cons_of_ne_nil h.above_ne_nil
  refine (failsOnly_build_ok b ⟨(), h.builder.accept.1⟩).bind ?_
  rintro ⟨⟨⟩, e₁⟩ b₁ hbuild
  obtain ⟨builder, _, rfl, rfl⟩ := build_of_yields hbuild
  refine FailsOnly.bind (failsOnly_mk b₁ ?_) ?_
  · intro error herror
    rw [h.frame, h.frames.accept_topId habove] at herror
    cases herror
  · rintro ⟨frames, frame⟩ b₂ _
    exact (failsOnly_lift _ b₂).bind fun b₃ b₄ _ => failsOnly_pure _ b₄

theorem failsOnly_repair (e : Engine) (rejected : Path) (b : Buffer)
    (hreference : ∀ (e : Engine) r b,
      FailsOnly Q (e.build (·.advance (.reference r)) : Exec ω (Emitted × Engine)) b)
    (hnull : ∀ (e : Engine) b,
      FailsOnly Q (e.build (·.advance .null) : Exec ω (Emitted × Engine)) b) :
    FailsOnly Q (e.repair rejected : Exec ω Engine) b := by
  unfold repair
  split
  · exact failsOnly_pure _ b
  · next r _ =>
    refine (hreference e r b).bind ?_
    rintro ⟨_, e₁⟩ b₁ _
    refine (hnull e₁ b₁).bind ?_
    rintro ⟨_, e₂⟩ b₂ _
    exact failsOnly_pure _ b₂

/-- A rejection is refused on the root frame, and when the repair fails. -/
theorem failsOnly_reject {e : Engine} {levels : List Level} (b : Buffer) (h : e.Stands levels)
    (hroot : Q .rejectedRoot)
    (hreference : ∀ (e : Engine) r b,
      FailsOnly Q (e.build (·.advance (.reference r)) : Exec ω (Emitted × Engine)) b)
    (hnull : ∀ (e : Engine) b,
      FailsOnly Q (e.build (·.advance .null) : Exec ω (Emitted × Engine)) b) :
    FailsOnly Q (e.reject : Exec ω (StateView × Engine)) b := by
  refine failsOnly_guard hroot fun hframe => ?_
  obtain ⟨below, rfl⟩ := h.exists_cons
  obtain ⟨parent, below, rfl⟩ := h.exists_parent hframe
  obtain ⟨top, rest, habove⟩ := List.exists_cons_of_ne_nil h.above_ne_nil
  refine (failsOnly_build_ok b ⟨(), h.builder.reject.1⟩).bind ?_
  rintro ⟨⟨⟩, e₁⟩ b₁ hbuild
  obtain ⟨builder, _, rfl, rfl⟩ := build_of_yields hbuild
  refine FailsOnly.bind (failsOnly_mk b₁ ?_) ?_
  · intro error herror
    rw [h.frame, h.frames.reject_topId habove] at herror
    cases herror
  · rintro ⟨frames, frame, dropped⟩ b₂ _
    refine (failsOnly_repair _ _ b₂ hreference hnull).bind fun e₂ b₃ _ => ?_
    exact (failsOnly_lift _ b₃).bind fun b₄ b₅ _ => failsOnly_pure _ b₅

end Engine

end Backtrack
