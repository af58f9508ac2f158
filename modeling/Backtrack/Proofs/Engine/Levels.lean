import Backtrack.Proofs.Builder.Backfill
import Backtrack.Proofs.Engine.Transition

/-!
A run as a stack of levels.  Every live frame has a scope and, through the
journals, a tree that it would go back to; together they are a level.  An
instruction changes the level on top, copies it, or drops one of the two topmost.
What every change of one level keeps therefore holds of all levels of every run,
and rejecting an attempt cannot break it.
-/

namespace Backtrack

namespace Engine

/-- The scope of a frame and the tree that belongs to it. -/
structure Level where
  scope : Scope
  state : BuildState

/-- The levels of an engine, innermost first. -/
structure Stands (e : Engine) (levels : List Level) : Prop where
  builder : e.builder.Mirrors (levels.tail.map (·.state))
  state : levels.head?.map (·.state) = some e.builder.state
  frames : e.frames.Valid
  frame : e.frame = e.frames.topId
  scopes : e.frames.carried = levels.map (·.scope)

/-- What an instruction that succeeds does to the levels. -/
inductive Level.Step (units : List Symbol) : Instruction → List Level → List Level → Prop
  | advance {t : Terminal} {id : PathId} {scope scope' : Scope} {s s' : BuildState} {undo : Undo}
      {below : List Level} : BuildState.Change id s t s' undo →
      scope.Advances units s { s' with last := some t } t scope' →
      Step units (.advance t) (⟨scope, s⟩ :: below) (⟨scope', { s' with last := some t }⟩ :: below)
  | test {p : Pattern} {levels : List Level} : Step units (.test p) levels levels
  | getState {levels : List Level} : Step units .getState levels levels
  | write {text : String} {scope : Scope} {s : BuildState} {below : List Level} :
      Step units (.write text) (⟨scope, s⟩ :: below) (⟨scope, (s.write text).1⟩ :: below)
  | bindAttribute {key : String} {value : Value} {scope : Scope} {s s' : BuildState} {undo : Undo}
      {below : List Level} : s.bindAttribute key value = .ok (s', undo) →
      Step units (.bindAttribute key value) (⟨scope, s⟩ :: below) (⟨scope, s'⟩ :: below)
  | branch {scope : Scope} {s : BuildState} {below : List Level} :
      s.openTop? ≠ none → Step units .branch (⟨scope, s⟩ :: below) (⟨scope, s⟩ :: ⟨scope, s⟩ :: below)
  /-- A branch outside a node forgets the language. -/
  | branchOutside {scope : Scope} {s : BuildState} {below : List Level} :
      s.openTop? = none →
      Step units .branch (⟨scope, s⟩ :: below)
        (⟨{ scope with language := none }, s⟩ :: ⟨scope, s⟩ :: below)
  | accept {level parent : Level} {below : List Level} :
      Step units .accept (level :: parent :: below) (level :: below)
  | reject {level parent : Level} {below : List Level} :
      Step units .reject (level :: parent :: below) (parent :: below)
  /-- The slot that the rejected branch went through is bound to null. -/
  | repair {r : Reference} {id₁ id₂ : PathId} {level : Level} {scope : Scope}
      {s s₁ s₂ : BuildState} {undo₁ undo₂ : Undo} {below : List Level} :
      BuildState.Change id₁ s (.reference r) s₁ undo₁ →
      BuildState.Change id₂ { s₁ with last := some (.reference r) } .null s₂ undo₂ →
      Step units .reject (level :: ⟨scope, s⟩ :: below)
        (⟨scope, { s₂ with last := some .null }⟩ :: below)

theorem stands_start (config : Config) :
    (start config).Stands [⟨{ regions := .ofName config.initialSpan }, {}⟩] where
  builder := Builder.mirrors_start
  state := rfl
  frames := FrameStack.valid_ofRoot _
  frame := rfl
  scopes := rfl

theorem Stands.exists_cons {e : Engine} {levels : List Level} (h : e.Stands levels) :
    ∃ below, levels = ⟨e.scope, e.builder.state⟩ :: below := by
  have hscopes := h.scopes
  have hstate := h.state
  cases levels with
  | nil => cases hstate
  | cons level below =>
      obtain ⟨scope, state⟩ := level
      have hscope : e.scope = scope := FrameStack.current_of_carried hscopes
      rw [List.head?_cons, Option.map_some, Option.some.injEq] at hstate
      exact ⟨below, by rw [hscope, ← hstate]⟩

theorem Stands.setBuilder {e : Engine} {level : Level} {below : List Level} {builder : Builder}
    (h : e.Stands (level :: below)) (hbuilder : builder.Mirrors (below.map (·.state))) :
    Stands { e with builder } (⟨level.scope, builder.state⟩ :: below) :=
  ⟨hbuilder, rfl, h.frames, h.frame, h.scopes⟩

theorem Stands.moved {e : Engine} {level : Level} {below : List Level} {builder : Builder}
    (h : e.Stands (level :: below)) (hbuilder : builder.Mirrors (below.map (·.state)))
    (scope : Scope) : (e.moved builder scope).Stands (⟨scope, builder.state⟩ :: below) where
  builder := hbuilder
  state := rfl
  frames := h.frames.modify fun _ => scope
  frame := by simpa [Engine.moved] using h.frame
  scopes := FrameStack.carried_modify _ h.scopes

theorem Stands.executed {e : Engine} {levels : List Level} (h : e.Stands levels)
    (executed : Nat) : Stands { e with executed } levels :=
  ⟨h.builder, h.state, h.frames, h.frame, h.scopes⟩

theorem Stands.above_ne_nil_of_frame {e : Engine} {levels : List Level} (h : e.Stands levels)
    (hframe : e.frame ≠ .root) : e.frames.above ≠ [] := by
  intro hnil
  exact hframe (h.frame.trans (h.frames.topId_eq_root_iff.mpr hnil))

theorem Stands.exists_parent {e : Engine} {level : Level} {below : List Level}
    (h : e.Stands (level :: below)) (hframe : e.frame ≠ .root) :
    ∃ parent rest, below = parent :: rest := by
  cases below with
  | cons parent rest => exact ⟨parent, rest, rfl⟩
  | nil =>
      have hlength := congrArg List.length h.scopes
      simp only [FrameStack.carried, FrameStack.live, List.map_append, List.length_append,
        List.length_map, List.length_cons, List.length_nil] at hlength
      have hnil : e.frames.above = [] := List.length_eq_zero_iff.mp (by omega)
      exact absurd hnil (h.above_ne_nil_of_frame hframe)

theorem Stands.above_ne_nil {e : Engine} {level parent : Level} {below : List Level}
    (h : e.Stands (level :: parent :: below)) : e.frames.above ≠ [] := by
  intro hnil
  have hlength := congrArg List.length h.scopes
  simp [FrameStack.carried, FrameStack.live, hnil] at hlength

theorem Stands.of_branch {units : List Symbol} {e : Engine} {below : List Level}
    {builder : Builder} {frames : FrameStack Scope} {frame : FrameId}
    (h : e.Stands (⟨e.scope, e.builder.state⟩ :: below))
    (hbuilder : e.builder.branch = (builder, .ok ()))
    (hframes : e.frames.branch e.frame = .ok (frames, frame)) :
    ∃ levels, Level.Step units .branch (⟨e.scope, e.builder.state⟩ :: below) levels ∧
      Stands
        { e with
          builder
          frame
          frames :=
            if e.builder.node?.isSome then frames
            else frames.modify fun s => { s with language := none } } levels := by
  obtain ⟨_, hstate, _, hmirrors⟩ := h.builder.branch
  rw [hbuilder] at hstate hmirrors
  rw [h.frame] at hframes
  obtain ⟨rfl, rfl⟩ := h.frames.eq_of_branch hframes
  have hvalid := h.frames.pushed (Payload.fork e.frames.current)
  have hscopes := e.frames.carried_pushed (Payload.fork e.frames.current)
  rw [h.scopes] at hscopes
  cases hnode : e.builder.node? with
  | some n =>
      refine ⟨_, .branch (Builder.openTop?_ne_none_of_node? hnode), hmirrors,
        congrArg some hstate.symm, ?_, ?_, ?_⟩
      · exact hvalid
      · rfl
      · exact hscopes
  | none =>
      refine ⟨_, .branchOutside (Builder.openTop?_eq_none_of_node? hnode), hmirrors,
        congrArg some hstate.symm, ?_, ?_, ?_⟩
      · exact hvalid.modify fun s => { s with language := none }
      · exact (FrameStack.topId_modify _ _).symm
      · exact FrameStack.carried_modify _ hscopes

theorem Stands.of_accept {e : Engine} {level parent : Level} {below : List Level}
    {builder : Builder} {frames : FrameStack Scope} {frame : FrameId}
    (h : e.Stands (level :: parent :: below)) (hbuilder : e.builder.accept = (builder, .ok ()))
    (hframes : e.frames.accept e.frame = .ok (frames, frame)) :
    Stands { e with builder, frames, frame } (level :: below) := by
  obtain ⟨_, hstate, _, hmirrors⟩ := h.builder.accept
  rw [hbuilder] at hstate hmirrors
  have hcarried := FrameStack.carried_below .accepted h.above_ne_nil
  rw [h.scopes] at hcarried
  rw [h.frame] at hframes
  obtain ⟨rfl, rfl⟩ := h.frames.eq_of_accept h.above_ne_nil hframes
  refine ⟨hmirrors, ?_, ?_, ?_, ?_⟩
  · rw [hstate]
    exact h.state
  · exact (h.frames.below .accepted).modify (Payload.merge · e.frames.current)
  · exact (FrameStack.topId_modify _ _).symm
  · have hcurrent : e.frames.current = level.scope := FrameStack.current_of_carried h.scopes
    rw [FrameStack.carried_modify (Payload.merge · e.frames.current) hcarried, hcurrent]
    rfl

theorem Stands.of_reject {e : Engine} {level parent : Level} {below : List Level}
    {builder : Builder} {frames : FrameStack Scope} {frame : FrameId} {dropped : Scope}
    (h : e.Stands (level :: parent :: below)) (hbuilder : e.builder.reject = (builder, .ok ()))
    (hframes : e.frames.reject e.frame = .ok (frames, frame, dropped)) :
    builder.state = parent.state ∧
      Stands { e with builder, frames, frame } (parent :: below) := by
  obtain ⟨_, hstate, _, hmirrors⟩ := h.builder.reject
  rw [hbuilder] at hstate hmirrors
  have hcarried := FrameStack.carried_below .rejected h.above_ne_nil
  rw [h.scopes] at hcarried
  rw [h.frame] at hframes
  obtain ⟨rfl, rfl, _⟩ := h.frames.eq_of_reject h.above_ne_nil hframes
  exact ⟨hstate, hmirrors, congrArg some hstate.symm, h.frames.below .rejected, rfl, hcarried⟩

/-- An engine steps as its levels do. -/
theorem Stands.of_transition {units : List Symbol} {e e' : Engine} {i : Instruction}
    {levels : List Level} (h : e.Stands levels) (ht : Transition units e i e') :
    ∃ levels', Level.Step units i levels levels' ∧ e'.Stands levels' := by
  obtain ⟨below, rfl⟩ := h.exists_cons
  cases ht with
  | @advance t builder emitted scope hadvance hscope =>
      have hmirrors := h.builder.advance t
      rw [hadvance] at hmirrors
      obtain ⟨s, undo, hchange, hstate⟩ := Builder.state_of_advance_eq_ok hadvance
      have hstands := h.moved hmirrors scope
      rw [hstate] at hstands
      rw [hstate] at hscope
      exact ⟨_, .advance hchange hscope, hstands⟩
  | test p => exact ⟨_, .test, h⟩
  | getState => exact ⟨_, .getState, h⟩
  | @write text =>
      refine ⟨_, .write, ?_⟩
      have hstands := h.setBuilder (h.builder.write text)
      rw [Builder.write, Builder.state_commit] at hstands
      exact hstands
  | @bindAttribute key value builder emitted hbind =>
      have hmirrors := h.builder.bindAttribute key value
      rw [hbind] at hmirrors
      have hstands := h.setBuilder hmirrors
      obtain ⟨change, hok, rfl⟩ := Builder.bindAttribute_eq_ok hbind
      rw [Builder.state_commit] at hstands
      exact ⟨_, .bindAttribute hok, hstands⟩
  | @branch builder frames frame hbuilder hframes =>
      exact h.of_branch hbuilder hframes
  | @accept builder frames frame hroot hbuilder hframes =>
      obtain ⟨parent, rest, rfl⟩ := h.exists_parent hroot
      exact ⟨_, .accept, h.of_accept hbuilder hframes⟩
  | @reject builder repaired frames frame dropped hroot hbuilder hframes hrepaired =>
      obtain ⟨parent, rest, rfl⟩ := h.exists_parent hroot
      obtain ⟨hparent, hstands⟩ := h.of_reject hbuilder hframes
      cases hrepaired with
      | keep _ =>
          refine ⟨_, .reject, ?_⟩
          exact hstands
      | @null r _ _ _ _ _ hreference hnull =>
          obtain ⟨s₁, undo₁, hchange₁, hstate₁⟩ := Builder.state_of_advance_eq_ok hreference
          obtain ⟨s₂, undo₂, hchange₂, hstate₂⟩ := Builder.state_of_advance_eq_ok hnull
          have hmirrors₁ := hstands.builder.advance (.reference r)
          rw [hreference] at hmirrors₁
          have hmirrors₂ := hmirrors₁.advance .null
          rw [hnull] at hmirrors₂
          have hrepaired := hstands.setBuilder hmirrors₂
          rw [hstate₂] at hrepaired
          rw [hparent] at hchange₁
          rw [hstate₁] at hchange₂
          exact ⟨_, .repair hchange₁ hchange₂, hrepaired⟩

/-- A property that every change of one level keeps is kept by every step, on all
levels.  `allowed` says which terminals are considered; a repair always is. -/
theorem Level.Step.forall_mem {units : List Symbol} {i : Instruction} {levels levels' : List Level}
    (h : Step units i levels levels') (P : Level → Prop) (allowed : Terminal → BuildState → Prop)
    (hadvance : ∀ {t id scope scope' s s' undo}, P ⟨scope, s⟩ → allowed t s →
      BuildState.Change id s t s' undo →
      scope.Advances units s { s' with last := some t } t scope' →
      P ⟨scope', { s' with last := some t }⟩)
    (hrepair : ∀ s, allowed .null s ∧ ∀ r, allowed (.reference r) s)
    (hwrite : ∀ {scope s} text, P ⟨scope, s⟩ → P ⟨scope, (s.write text).1⟩)
    (hattribute : ∀ {key value scope s s' undo}, i = .bindAttribute key value → P ⟨scope, s⟩ →
      s.bindAttribute key value = .ok (s', undo) → P ⟨scope, s'⟩)
    (hlanguage : ∀ {scope s}, P ⟨scope, s⟩ → P ⟨{ scope with language := none }, s⟩)
    (hallowed : ∀ t level below, i = .advance t → levels = level :: below → allowed t level.state)
    (hlevels : ∀ level ∈ levels, P level) : ∀ level ∈ levels', P level := by
  cases h with
  | advance hchange hscope =>
      rw [List.forall_mem_cons] at hlevels ⊢
      exact ⟨hadvance hlevels.1 (hallowed _ _ _ rfl rfl) hchange hscope, hlevels.2⟩
  | test => exact hlevels
  | getState => exact hlevels
  | write =>
      rw [List.forall_mem_cons] at hlevels ⊢
      exact ⟨hwrite _ hlevels.1, hlevels.2⟩
  | bindAttribute hok =>
      rw [List.forall_mem_cons] at hlevels ⊢
      exact ⟨hattribute rfl hlevels.1 hok, hlevels.2⟩
  | branch _ =>
      rw [List.forall_mem_cons]
      exact ⟨hlevels _ List.mem_cons_self, hlevels⟩
  | branchOutside _ =>
      rw [List.forall_mem_cons]
      exact ⟨hlanguage (hlevels _ List.mem_cons_self), hlevels⟩
  | accept =>
      rw [List.forall_mem_cons, List.forall_mem_cons] at hlevels
      rw [List.forall_mem_cons]
      exact ⟨hlevels.1, hlevels.2.2⟩
  | reject =>
      rw [List.forall_mem_cons] at hlevels
      exact hlevels.2
  | repair hreference hnull =>
      rw [List.forall_mem_cons, List.forall_mem_cons] at hlevels
      rw [List.forall_mem_cons]
      have hbound := hadvance hlevels.2.1 ((hrepair _).2 _) hreference .reference
      exact ⟨hadvance hbound (hrepair _).1 hnull .null, hlevels.2.2⟩

end Engine

end Backtrack
