import Backtrack.Proofs.Engine.Reach

/-!
The engine and its builder in lockstep.  Both keep a stack of attempts, and the two
stacks always hold the same frames.  The cursor holds a unit just while the builder
holds a value, in every frame that a rejection could bring back.  No frame stands
behind the one it was started from, nor ahead of what has arrived.
-/

namespace Backtrack

/-! ## The frames of a stack -/

namespace FrameStack

variable {α : Type}

def shadow (s : FrameStack α) : FrameStack Unit where
  base := ⟨s.base.info, ()⟩
  above := s.above.map fun frame => ⟨frame.info, ()⟩
  retired := s.retired
  next := s.next

theorem topId_shadow (s : FrameStack α) : s.shadow.topId = s.topId := by
  cases habove : s.above <;> simp [shadow, topId, top, habove]

theorem depth_shadow (s : FrameStack α) : s.shadow.depth = s.depth := by
  simp [shadow, depth]

theorem shadow_modify (s : FrameStack α) (f : α → α) : (s.modify f).shadow = s.shadow := by
  cases habove : s.above <;> simp [shadow, modify, habove]

theorem shadow_pushed (s : FrameStack α) (payload : α) :
    (s.pushed payload).shadow = s.shadow.pushed () := by
  cases habove : s.above <;> simp [shadow, pushed, setStatus, topId, top, depth, habove]

theorem shadow_below (s : FrameStack α) (status : Status) :
    (s.below status).shadow = s.shadow.below status := by
  cases habove : s.above with
  | nil => simp [shadow, below, habove]
  | cons frame rest => cases rest <;> simp [shadow, below, setStatus, habove]

theorem current_modify (s : FrameStack α) (f : α → α) : (s.modify f).current = f s.current := by
  cases habove : s.above <;> simp [modify, current, top, habove]

end FrameStack

/-! ## The frames of the journal -/

namespace Builder

theorem shadow_commit (b : Builder) (change : BuildState × Undo) :
    (b.commit change).journal.shadow = b.journal.shadow := by
  unfold commit record
  split
  · rfl
  · exact FrameStack.shadow_modify _ _

theorem shadow_advance (b : Builder) (t : Terminal) :
    (b.advance t).1.journal.shadow = b.journal.shadow := by
  rw [advance_eq]
  split
  · rfl
  · rw [shadow_commit, shadow_commit]

theorem shadow_bindAttribute (b : Builder) (key : String) (value : Value) :
    (b.bindAttribute key value).1.journal.shadow = b.journal.shadow := by
  unfold bindAttribute
  split
  · rfl
  · exact shadow_commit _ _

theorem Journaled.shadow_accept {b : Builder} {saved : List BuildState} (h : b.Journaled saved)
    (hne : saved ≠ []) :
    b.accept.1.journal.shadow = b.journal.shadow.below .accepted := by
  obtain ⟨s, rest, rfl⟩ := List.exists_cons_of_ne_nil hne
  obtain ⟨top, rest, habove, _⟩ := h.exists_above
  have haccept := h.valid.accept_topId habove
  rw [← h.frame] at haccept
  rw [Builder.accept, haccept, ← FrameStack.shadow_below]
  dsimp only
  split
  · rw [FrameStack.shadow_modify, FrameStack.shadow_modify]
  · rw [FrameStack.shadow_modify]

end Builder

namespace Engine

/-- The engine and the builder have the same frames. -/
def SameFrames (e : Engine) : Prop := e.builder.journal.shadow = e.frames.shadow

theorem Repaired.shadow_eq {rejected : Path} {builder repaired : Builder}
    (h : Repaired rejected builder repaired) :
    repaired.journal.shadow = builder.journal.shadow := by
  cases h with
  | keep _ => rfl
  | @null r b₁ _ _ _ _ hreference hnull =>
      have hfirst := builder.shadow_advance (.reference r)
      have hsecond := b₁.shadow_advance .null
      rw [hreference] at hfirst
      rw [hnull] at hsecond
      exact hsecond.trans hfirst

theorem SameFrames.of_transition {units : List Symbol} {e e' : Engine} {i : Instruction}
    {levels : List Level} (h : e.SameFrames) (hstands : e.Stands levels)
    (ht : Transition units e i e') : e'.SameFrames := by
  have hjournaled := hstands.builder.journaled
  obtain ⟨below, rfl⟩ := hstands.exists_cons
  cases ht with
  | @advance t builder emitted scope hadvance hscope =>
      have hbuilder := e.builder.shadow_advance t
      rw [hadvance] at hbuilder
      exact (hbuilder.trans h).trans (FrameStack.shadow_modify e.frames _).symm
  | test p => exact h
  | getState => exact h
  | write => exact (Builder.shadow_commit e.builder _).trans h
  | @bindAttribute key value builder emitted hbind =>
      have hbuilder := e.builder.shadow_bindAttribute key value
      rw [hbind] at hbuilder
      exact hbuilder.trans h
  | @branch builder frames frame hbuilder hframes =>
      have hpushed := hjournaled.branch_journal
      rw [hbuilder] at hpushed
      rw [hstands.frame] at hframes
      obtain ⟨rfl, _⟩ := hstands.frames.eq_of_branch hframes
      have hsame : builder.journal.shadow =
          (e.frames.pushed (Payload.fork e.frames.current)).shadow := by
        rw [show builder.journal = _ from hpushed, FrameStack.shadow_pushed, h,
          ← FrameStack.shadow_pushed]
      show builder.journal.shadow = FrameStack.shadow (if _ then _ else _)
      split
      · exact hsame
      · rw [FrameStack.shadow_modify]
        exact hsame
  | @accept builder frames frame hroot hbuilder hframes =>
      obtain ⟨parent, rest, rfl⟩ := hstands.exists_parent hroot
      have hjournal := hjournaled.shadow_accept (by simp)
      rw [hbuilder, h, ← FrameStack.shadow_below] at hjournal
      rw [hstands.frame] at hframes
      obtain ⟨rfl, _⟩ := hstands.frames.eq_of_accept hstands.above_ne_nil hframes
      exact hjournal.trans (FrameStack.shadow_modify _ _).symm
  | @reject builder repaired frames frame dropped hroot hbuilder hframes hrepaired =>
      obtain ⟨parent, rest, rfl⟩ := hstands.exists_parent hroot
      have hjournal := hjournaled.reject_journal (by simp)
      rw [hbuilder] at hjournal
      rw [hstands.frame] at hframes
      obtain ⟨rfl, _⟩ := hstands.frames.eq_of_reject hstands.above_ne_nil hframes
      show repaired.journal.shadow = (e.frames.below .rejected).shadow
      rw [hrepaired.shadow_eq, show builder.journal = _ from hjournal, FrameStack.shadow_below, h,
        ← FrameStack.shadow_below]

/-! ## Levels in step -/

/-- The cursor holds a unit while the tree holds a value. -/
def Level.Holds (level : Level) : Prop :=
  level.scope.cursor.holding = level.state.held.isSome

theorem Level.Holds.advance {units : List Symbol} {t : Terminal} {id : PathId}
    {scope scope' : Scope} {s s' : BuildState} {undo : Undo} (h : Level.Holds ⟨scope, s⟩)
    (hchange : BuildState.Change id s t s' undo)
    (hscope : scope.Advances units s { s' with last := some t } t scope') :
    Level.Holds ⟨scope', { s' with last := some t }⟩ := by
  cases hscope with
  | openNode _ => cases hchange <;> exact h
  | closeRoot _ _ _ _ => cases hchange <;> exact h
  | close _ _ => cases hchange <;> exact h
  | literal _ _ =>
      cases hchange
      exact h
  | gap hholding _ =>
      cases hchange
      exact hholding
  | unshift _ =>
      cases hchange
      rfl
  | shift _ =>
      cases hchange
      rfl
  | doctype =>
      cases hchange
      exact h
  | reference =>
      cases hchange
      exact h
  | null =>
      cases hchange
      exact h

theorem Level.Step.holds {units : List Symbol} {i : Instruction} {levels levels' : List Level}
    (h : Step units i levels levels') (hlevels : ∀ level ∈ levels, level.Holds) :
    ∀ level ∈ levels', level.Holds := by
  refine h.forall_mem Level.Holds (fun _ _ => True) (fun hlevel _ => hlevel.advance)
    (fun _ => ⟨trivial, fun _ => trivial⟩) (fun _ hlevel => hlevel) ?_ (fun hlevel => hlevel)
    (fun _ _ _ _ _ => trivial) hlevels
  intro key value scope s s' undo _ hlevel hbind
  obtain ⟨segment, n, rest, _, _, rfl, _⟩ := BuildState.bindAttribute_eq_ok hbind
  exact hlevel

def Level.offset (level : Level) : Nat := level.scope.cursor.offset

theorem Scope.Advances.offset_le {units : List Symbol} {before after : BuildState}
    {scope scope' : Scope} {t : Terminal} (h : scope.Advances units before after t scope') :
    scope.cursor.offset ≤ scope'.cursor.offset := by
  cases h with
  | literal _ _ => exact Nat.le_add_right _ _
  | gap _ _ => exact Nat.le_succ _
  | _ => exact Nat.le_refl _

theorem Level.Step.offsets {units : List Symbol} {i : Instruction} {levels levels' : List Level}
    (h : Step units i levels levels') (hlevels : (levels.map Level.offset).Pairwise (· ≥ ·)) :
    (levels'.map Level.offset).Pairwise (· ≥ ·) := by
  cases h with
  | advance _ hscope =>
      rw [List.map_cons, List.pairwise_cons] at hlevels ⊢
      refine ⟨?_, hlevels.2⟩
      intro offset hoffset
      exact Nat.le_trans (hlevels.1 offset hoffset) hscope.offset_le
  | test | getState | write | bindAttribute _ => exact hlevels
  | branch _ | branchOutside _ =>
      rw [List.map_cons, List.pairwise_cons]
      refine ⟨?_, hlevels⟩
      rw [List.map_cons, List.pairwise_cons] at hlevels
      rw [List.map_cons, List.forall_mem_cons]
      exact ⟨Nat.le_refl _, hlevels.1⟩
  | accept =>
      rw [List.map_cons, List.map_cons, List.pairwise_cons, List.forall_mem_cons,
        List.pairwise_cons] at hlevels
      rw [List.map_cons, List.pairwise_cons]
      exact ⟨hlevels.1.2, hlevels.2.2⟩
  | reject =>
      rw [List.map_cons, List.pairwise_cons] at hlevels
      exact hlevels.2
  | repair _ _ =>
      rw [List.map_cons, List.pairwise_cons] at hlevels
      exact hlevels.2

/-- A step puts no level elsewhere but the one on top, by a terminal. -/
theorem Level.Step.offset_cases {units : List Symbol} {i : Instruction}
    {levels levels' : List Level} (h : Step units i levels levels') :
    ∀ level ∈ levels', (∃ old ∈ levels, old.offset = level.offset) ∨
      ∃ t, i = .advance t ∧ levels'.head? = some level := by
  cases h with
  | advance _ _ =>
      intro level hlevel
      rcases List.mem_cons.mp hlevel with rfl | hbelow
      · exact Or.inr ⟨_, rfl, rfl⟩
      · exact Or.inl ⟨level, List.mem_cons_of_mem _ hbelow, rfl⟩
  | test | getState =>
      intro level hlevel
      exact Or.inl ⟨level, hlevel, rfl⟩
  | write | bindAttribute _ =>
      intro level hlevel
      rcases List.mem_cons.mp hlevel with rfl | hbelow
      · exact Or.inl ⟨_, List.mem_cons_self, rfl⟩
      · exact Or.inl ⟨level, List.mem_cons_of_mem _ hbelow, rfl⟩
  | branch _ | branchOutside _ =>
      intro level hlevel
      rcases List.mem_cons.mp hlevel with rfl | hbelow
      · exact Or.inl ⟨_, List.mem_cons_self, rfl⟩
      · exact Or.inl ⟨level, hbelow, rfl⟩
  | accept =>
      intro level hlevel
      rcases List.mem_cons.mp hlevel with rfl | hbelow
      · exact Or.inl ⟨_, List.mem_cons_self, rfl⟩
      · exact Or.inl ⟨level, List.mem_cons_of_mem _ (List.mem_cons_of_mem _ hbelow), rfl⟩
  | reject =>
      intro level hlevel
      exact Or.inl ⟨level, List.mem_cons_of_mem _ hlevel, rfl⟩
  | repair _ _ =>
      intro level hlevel
      rcases List.mem_cons.mp hlevel with rfl | hbelow
      · exact Or.inl ⟨_, List.mem_cons_of_mem _ List.mem_cons_self, rfl⟩
      · exact Or.inl ⟨level, List.mem_cons_of_mem _ (List.mem_cons_of_mem _ hbelow), rfl⟩

variable {ω α β : Type}

theorem scope_setCursor (e : Engine) (cursor : Cursor) :
    (e.setCursor cursor).scope = { e.scope with cursor } :=
  e.frames.current_modify _

theorem scope_moved (e : Engine) (builder : Builder) (scope : Scope) :
    (e.moved builder scope).scope = scope :=
  e.frames.current_modify _

theorem offset_le_of_advanceCursor {e e' : Engine} {n : Nat} {b b' : Buffer}
    (h : Yields (e.advanceCursor n : Exec ω Engine) b e' b') :
    e'.scope.cursor.offset ≤ b'.size := by
  obtain ⟨rfl, hsize⟩ := setCursor_of_yields h
  rw [scope_setCursor]
  exact hsize

theorem offset_le_of_advanceLiteral {config : Config} {e e' : Engine} {text : String}
    {emitted : Emitted} {b b' : Buffer}
    (h : Yields (advanceLiteral config e text : Exec ω _) b (emitted, e') b') :
    e'.scope.cursor.offset ≤ b'.size := by
  unfold advanceLiteral at h
  obtain ⟨result, b₁, _, hrest⟩ := yields_bind_iff.mp h
  cases result with
  | none => exact absurd hrest not_yields_throw
  | some range =>
      obtain ⟨e₁, b₂, hcursor, hbuild⟩ := yields_bind_iff.mp hrest
      obtain ⟨builder, _, rfl, rfl⟩ := build_of_yields hbuild
      have hmoved := offset_le_of_advanceCursor hcursor
      exact hmoved

theorem offset_le_of_advanceGap {e e' : Engine} {emitted : Emitted} {b b' : Buffer}
    (h : Yields (e.advanceGap : Exec ω _) b (emitted, e') b')
    (hoffset : e.scope.cursor.offset ≤ b'.size) : e'.scope.cursor.offset ≤ b'.size := by
  unfold advanceGap at h
  obtain ⟨b₁, b₂, _, hrest⟩ := yields_bind_iff.mp h
  obtain ⟨_, hmove⟩ := yields_guard_iff.mp hrest
  by_cases hholding : e.scope.cursor.holding = true
  · rw [if_pos hholding] at hmove
    obtain ⟨e₁, b₃, hset, hbuild⟩ := yields_bind_iff.mp hmove
    obtain ⟨cursor, b₄, hmk, hpure⟩ := yields_bind_iff.mp hset
    obtain ⟨hunshift, rfl⟩ := yields_mk_iff.mp hmk
    obtain ⟨rfl, rfl⟩ := yields_pure_iff.mp hpure
    obtain ⟨builder, _, rfl, rfl⟩ := build_of_yields hbuild
    rw [Cursor.unshift, if_pos hholding] at hunshift
    cases hunshift
    show (e.setCursor _).scope.cursor.offset ≤ _
    rw [scope_setCursor]
    exact hoffset
  · rw [if_neg hholding] at hmove
    obtain ⟨e₁, b₃, hcursor, hbuild⟩ := yields_bind_iff.mp hmove
    obtain ⟨builder, _, rfl, rfl⟩ := build_of_yields hbuild
    have hmoved := offset_le_of_advanceCursor hcursor
    exact hmoved

theorem offset_le_of_advance {config : Config} {e e' : Engine} {t : Terminal} {emitted : Emitted}
    {b b' : Buffer} (h : Yields (advance config e t : Exec ω _) b (emitted, e') b')
    (hoffset : e.scope.cursor.offset ≤ b.size) : e'.scope.cursor.offset ≤ b'.size := by
  have harrived : e.scope.cursor.offset ≤ b'.size := Nat.le_trans hoffset h.size_le
  cases t with
  | literal text => exact offset_le_of_advanceLiteral h
  | gap => exact offset_le_of_advanceGap h harrived
  | _ =>
      obtain ⟨builder, scope, _, hscope, rfl⟩ := advanced_of_yields h
      rw [scope_moved]
      cases hscope <;> exact harrived

/-! ## States in step -/

/-- What every reachable state keeps, on all its levels. -/
structure InStep (e : Engine) (b : Buffer) (levels : List Level) : Prop where
  stands : e.Stands levels
  frames : e.SameFrames
  holds : ∀ level ∈ levels, level.Holds
  offsets : (levels.map Level.offset).Pairwise (· ≥ ·)
  arrived : ∀ level ∈ levels, level.offset ≤ b.size

theorem inStep_start (config : Config) (b : Buffer) :
    (start config).InStep b [⟨{ regions := .ofName config.initialSpan }, {}⟩] where
  stands := stands_start config
  frames := rfl
  holds := by
    intro level hlevel
    rw [List.mem_singleton.mp hlevel]
    rfl
  offsets := List.pairwise_singleton _ _
  arrived := by
    intro level hlevel
    rw [List.mem_singleton.mp hlevel]
    exact Nat.zero_le _

theorem InStep.here {e : Engine} {b : Buffer} {levels : List Level} (h : e.InStep b levels) :
    e.scope.cursor.holding = e.builder.state.held.isSome ∧ e.scope.cursor.offset ≤ b.size := by
  obtain ⟨below, rfl⟩ := h.stands.exists_cons
  exact ⟨h.holds _ List.mem_cons_self, h.arrived _ List.mem_cons_self⟩

theorem InStep.executed {e : Engine} {b : Buffer} {levels : List Level} (h : e.InStep b levels)
    (executed : Nat) : InStep { e with executed } b levels :=
  ⟨h.stands.executed executed, h.frames, h.holds, h.offsets, h.arrived⟩

theorem InStep.of_dispatch {config : Config} {e e' : Engine} {i : Instruction} {answer : Answer}
    {b b' : Buffer} {levels : List Level} (h : e.InStep b levels)
    (hyields : Yields (dispatch config e i : Exec ω _) b (answer, e') b') :
    ∃ levels', e'.InStep b' levels' := by
  have ht := transition_of_dispatch hyields
  obtain ⟨levels', hstep, hstands⟩ := h.stands.of_transition ht
  refine ⟨levels', hstands, h.frames.of_transition h.stands ht, hstep.holds h.holds,
    hstep.offsets h.offsets, ?_⟩
  intro level hlevel
  rcases hstep.offset_cases level hlevel with ⟨old, hold, hoffset⟩ | ⟨t, rfl, hhead⟩
  · rw [← hoffset]
    exact Nat.le_trans (h.arrived old hold) hyields.size_le
  · obtain ⟨⟨emitted, e₁⟩, b₁, hadvance, hpure⟩ := yields_bind_iff.mp hyields
    obtain ⟨hpair, rfl⟩ := yields_pure_iff.mp hpure
    cases hpair
    obtain ⟨below, rfl⟩ := hstands.exists_cons
    rw [List.head?_cons, Option.some.injEq] at hhead
    rw [← hhead]
    exact offset_le_of_advance hadvance h.here.2

theorem InStep.of_step {config : Config} {e e' : Engine} {i : Instruction} {answer : Answer}
    {b b' : Buffer} {levels : List Level} (h : e.InStep b levels)
    (hyields : Yields (step config e i : Exec ω _) b (answer, e') b') :
    ∃ levels', e'.InStep b' levels' := by
  unfold step at hyields
  obtain ⟨_, hdispatch⟩ := yields_guard_iff.mp hyields
  exact (h.executed (e.executed + 1)).of_dispatch hdispatch

theorem InStep.of_steps {config : Config} {e e' : Engine} {b b' : Buffer}
    {instructions : List Instruction} {levels : List Level} (h : e.InStep b levels)
    (hsteps : Steps config e b instructions e' b') : ∃ levels', e'.InStep b' levels' := by
  induction hsteps generalizing levels with
  | nil => exact ⟨levels, h⟩
  | cons hstep _ ih =>
      obtain ⟨levels₁, hnext⟩ := h.of_step hstep
      exact ih hnext

theorem Reachable.exists_inStep {config : Config} {input b : Buffer} {e : Engine}
    (h : Reachable config input e b) : ∃ levels, e.InStep b levels := by
  obtain ⟨b₀, instructions, _, hsteps⟩ := h
  exact (inStep_start config b₀).of_steps hsteps

/-- Where the live frames stand in the input, from the root to the top. -/
def offsets (e : Engine) : List Nat := (e.frames.carried.map (·.cursor.offset)).reverse

/-- The engine and its builder are in step, over what has arrived in `b`. -/
structure Lockstep (e : Engine) (b : Buffer) : Prop where
  top : e.frame = e.frames.topId
  builder : e.builder.frame = e.frame
  journal : e.builder.journal.topId = e.frame
  depth : e.builder.journal.depth = e.frames.depth
  holding : e.scope.cursor.holding = true ↔ e.builder.state.held.isSome = true
  forward : e.offsets.Pairwise (· ≤ ·)
  arrived : ∀ offset ∈ e.offsets, offset ≤ b.size

theorem InStep.lockstep {e : Engine} {b : Buffer} {levels : List Level}
    (h : e.InStep b levels) : e.Lockstep b := by
  have hoffsets : e.offsets = (levels.map Level.offset).reverse := by
    rw [Engine.offsets, h.stands.scopes, List.map_map]
    rfl
  have hjournal : e.builder.journal.topId = e.frame := by
    rw [← FrameStack.topId_shadow, h.frames, FrameStack.topId_shadow, h.stands.frame]
  refine ⟨h.stands.frame, ?_, hjournal, ?_, ?_, ?_, ?_⟩
  · rw [h.stands.builder.journaled.frame, hjournal]
  · rw [← FrameStack.depth_shadow, h.frames, FrameStack.depth_shadow]
  · rw [h.here.1]
  · rw [hoffsets, List.pairwise_reverse]
    exact h.offsets
  · intro offset hoffset
    rw [hoffsets, List.mem_reverse] at hoffset
    obtain ⟨level, hlevel, rfl⟩ := List.mem_map.mp hoffset
    exact h.arrived level hlevel

theorem Reachable.lockstep {config : Config} {input b : Buffer} {e : Engine}
    (h : Reachable config input e b) : e.Lockstep b := by
  obtain ⟨levels, hstep⟩ := h.exists_inStep
  exact hstep.lockstep

end Engine

end Backtrack
