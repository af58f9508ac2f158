import Backtrack.Proofs.Builder.Paired
import Backtrack.Proofs.Engine.Accord

/-!
Two engines side by side.  Paired engines stand at the same place with the same regions in
the same frames, and their builders are paired by a relation that no instruction can see.
Every instruction then has the same answer in both, or fails in both for the same reason;
the second may have carried out more instructions, and only the instruction limit can tell.
-/

namespace Backtrack

namespace Engine

variable {α : Type} {E : Answer → Answer → Prop} {S : BuildState → BuildState → Prop}
  {e e' : Engine}

def CountLimit (error : Error) : Prop :=
  ∃ executed limit, error = .instructionLimitExceeded executed limit

/-- A relation between trees that every change keeps and no instruction can see. -/
structure Hidden (S : BuildState → BuildState → Prop) : Prop extends BuildState.Coupled S where
  path : ∀ {b c : Builder}, S b.state c.state → b.path = c.path
  last : ∀ {b c : Builder}, S b.state c.state → b.last? = c.last?
  nodeType : ∀ {b c : Builder}, S b.state c.state →
    b.node?.map (·.tag.nodeType) = c.node?.map (·.tag.nodeType)
  slot : ∀ {b c : Builder}, S b.state c.state → ∀ rejected,
    repairSlot? b rejected = repairSlot? c rejected
  /-- A node that is closed inside of another one ends a span in both or in none. -/
  endsSpan : ∀ {b c b' : Builder} {answer : Emitted}, S b.state c.state →
    b.advance .close = (b', .ok answer) → b'.path.isEmpty = false →
    (b.node?.any fun n => n.tag.beginsSpan) = c.node?.any fun n => n.tag.beginsSpan

/-- The same but for what the relation hides and for the number of instructions. -/
structure Paired (S : BuildState → BuildState → Prop) (e e' : Engine) : Prop where
  frames : e.frames = e'.frames
  frame : e.frame = e'.frame
  executed : e.executed ≤ e'.executed
  builder : e.builder.Paired S e'.builder

theorem paired_start (hstart : S {} {}) (config : Config) :
    (start config).Paired S (start config) :=
  ⟨rfl, rfl, Nat.le_refl _, Builder.paired_start hstart⟩

namespace Paired

theorem scope_eq (h : e.Paired S e') : e.scope = e'.scope := by
  rw [scope, scope, h.frames]

theorem build (h : e.Paired S e') {change : Builder → Builder × Except Error α}
    (hchange : Builder.Agreeing (Builder.Paired S) (change e.builder) (change e'.builder)) :
    Accords CountLimit E
      (fun p q => Together (Paired S) p q ∧ change e.builder = (p.2.builder, .ok p.1))
      (e.build change) (e'.build change) := by
  obtain ⟨hresult, hpaired⟩ := hchange
  unfold Engine.build
  rcases hb : change e.builder with ⟨b, result⟩
  rcases hc : change e'.builder with ⟨c, result'⟩
  rw [hb, hc] at hresult hpaired
  cases hresult
  cases result with
  | error error => exact accords_throw error
  | ok a => exact accords_pure ⟨⟨rfl, h.frames, h.frame, h.executed, hpaired a rfl⟩, rfl⟩

theorem modifyScope (h : e.Paired S e') (f : Scope → Scope) :
    (e.modifyScope f).Paired S (e'.modifyScope f) :=
  ⟨congrArg (·.modify f) h.frames, h.frame, h.executed, h.builder⟩

end Paired

namespace Hidden

theorem coupled (hS : Hidden S) : Coupled CountLimit E (Paired S) where
  scope h := ⟨congrArg (·.cursor) h.scope_eq, congrArg (·.regions) h.scope_eq⟩
  path h := (hS.path h.builder.state).symm
  slot h rejected := (hS.slot h.builder.state rejected).symm
  modifyScope h f _ := h.modifyScope f
  advance h t := (h.build (h.builder.advance hS.toCoupled t)).mono fun _ _ hbuilt => hbuilt.1
  close h := by
    refine Accords.mono (h.build (h.builder.advance hS.toCoupled .close)) ?_
    rintro p q ⟨hbuilt, hclose⟩
    exact ⟨hbuilt, fun hinner => (hS.endsSpan h.builder.state hclose hinner).symm⟩

theorem view_eq (hS : Hidden S) (h : e.Paired S e') (b : Buffer) : e.view b = e'.view b := by
  have htype : (e.builder.node?.bind fun n => n.tag.nodeType) =
      e'.builder.node?.bind fun n => n.tag.nodeType := by
    have hnode := congrArg (Option.bind · id) (hS.nodeType h.builder.state)
    simpa only [Option.bind_map, Function.comp_def, id] using hnode
  simp only [view, h.frames, h.frame, h.scope_eq, hS.path h.builder.state,
    hS.last h.builder.state, htype]

theorem showing (hS : Hidden S) (h : e.Paired S e') :
    Accords CountLimit E (Together (Paired S)) e.showing e'.showing :=
  .fill fun b => .done (.ok ⟨hS.view_eq h b, h⟩)

/-! ## Frames -/

theorem branch (hS : Hidden S) (h : e.Paired S e') (config : Config) :
    Accords CountLimit E (Together (Paired S)) (Engine.branch config e)
      (Engine.branch config e') := by
  have hopen : e'.builder.node?.isSome = e.builder.node?.isSome := by
    have hnode := congrArg Option.isSome (hS.nodeType h.builder.state)
    rw [Option.isSome_map, Option.isSome_map] at hnode
    exact hnode.symm
  unfold Engine.branch
  rw [h.frames, hopen]
  refine accords_guard fun _ => ?_
  refine (h.build h.builder.branch).bind ?_
  rintro ⟨_, e₁⟩ ⟨_, e₁'⟩ ⟨⟨_, hbuilt⟩, _⟩
  dsimp only
  rw [hbuilt.frames, hbuilt.frame]
  refine (accords_mk _).bind ?_
  rintro ⟨frames, frame⟩ _ rfl
  have hframed : Paired S { e₁ with frames, frame } { e₁' with frames, frame } :=
    ⟨rfl, rfl, hbuilt.executed, hbuilt.builder⟩
  dsimp only
  split
  · exact hS.showing hframed
  · exact hS.showing (hframed.modifyScope _)

theorem accept (hS : Hidden S) (h : e.Paired S e') :
    Accords CountLimit E (Together (Paired S)) e.accept e'.accept := by
  unfold Engine.accept
  rw [h.frame]
  refine accords_guard fun _ => ?_
  refine (h.build h.builder.accept).bind ?_
  rintro ⟨_, e₁⟩ ⟨_, e₁'⟩ ⟨⟨_, hbuilt⟩, _⟩
  dsimp only
  rw [hbuilt.frames, hbuilt.frame]
  refine (accords_mk _).bind ?_
  rintro ⟨frames, frame⟩ _ rfl
  exact hS.showing ⟨rfl, rfl, hbuilt.executed, hbuilt.builder⟩

theorem reject (hS : Hidden S) (h : e.Paired S e') :
    Accords CountLimit E (Together (Paired S)) e.reject e'.reject := by
  unfold Engine.reject
  rw [h.frame, hS.path h.builder.state]
  refine accords_guard fun _ => ?_
  refine (h.build h.builder.reject).bind ?_
  rintro ⟨_, e₁⟩ ⟨_, e₁'⟩ ⟨⟨_, hbuilt⟩, _⟩
  dsimp only
  rw [hbuilt.frames, hbuilt.frame]
  refine (accords_mk _).bind ?_
  rintro ⟨frames, frame, _⟩ _ rfl
  have hframed : Paired S { e₁ with frames, frame } { e₁' with frames, frame } :=
    ⟨rfl, rfl, hbuilt.executed, hbuilt.builder⟩
  exact (hS.coupled.repair hframed _).bind fun _ _ hrepaired => hS.showing hrepaired

/-! ## An instruction -/

theorem dispatch (hS : Hidden S) (h : e.Paired S e') (config : Config) (i : Instruction) :
    Accords CountLimit E (Together (Paired S)) (Engine.dispatch config e i)
      (Engine.dispatch config e' i) := by
  cases i with
  | advance t => exact hS.coupled.dispatch_advance h config t
  | test p => exact hS.coupled.dispatch_test h config p
  | branch =>
      exact (hS.branch h config).bind fun _ _ hnext =>
        accords_pure ⟨congrArg Answer.state hnext.1, hnext.2⟩
  | accept =>
      exact (hS.accept h).bind fun _ _ hnext =>
        accords_pure ⟨congrArg Answer.state hnext.1, hnext.2⟩
  | reject =>
      exact (hS.reject h).bind fun _ _ hnext =>
        accords_pure ⟨congrArg Answer.state hnext.1, hnext.2⟩
  | write text =>
      exact (h.build (h.builder.write hS.toCoupled text)).bind fun _ _ hnext =>
        accords_pure ⟨congrArg Answer.output hnext.1.1, hnext.1.2⟩
  | bindAttribute key value =>
      exact (h.build (h.builder.bindAttribute hS.toCoupled key value)).bind fun _ _ hnext =>
        accords_pure ⟨congrArg Answer.output hnext.1.1, hnext.1.2⟩
  | getState => exact .fill fun b => .done (.ok ⟨congrArg Answer.state (hS.view_eq h b), h⟩)
  | unknown verb => exact accords_throw _

/-- An instruction has the same answer in both, or fails in both for the same reason, unless
the second has reached the instruction limit. -/
theorem step (hS : Hidden S) (h : e.Paired S e') (config : Config) (i : Instruction) :
    Accords CountLimit E (Together (Paired S)) (Engine.step config e i)
      (Engine.step config e' i) := by
  unfold Engine.step
  have hcounted : Paired S { e with executed := e.executed + 1 }
      { e' with executed := e'.executed + 1 } :=
    ⟨h.frames, h.frame, Nat.succ_le_succ h.executed, h.builder⟩
  refine accords_guard_stop ⟨_, _, rfl⟩ ?_ (hS.dispatch hcounted config i)
  intro hlimit
  have hmore := h.executed
  omega

end Hidden

end Engine

end Backtrack
