import Backtrack.Proofs.Builder.Journals
import Backtrack.Proofs.Engine.Accord
import Backtrack.Proofs.Engine.Forward
import Backtrack.Proofs.Engine.Lockstep
import Backtrack.Proofs.Engine.Rollback

/-!
One attempt deeper.  Two engines stand on the same levels, but the second has one
frame more between the levels that both work on and those below.  The two go on in
accord: an instruction that retires no frame below succeeds in both or fails in both,
for the same reason, unless the second runs into a limit.
-/

namespace Backtrack

def Error.isLimit : Error → Bool
  | .branchLimitExceeded _ _ => true
  | .instructionLimitExceeded _ _ => true
  | _ => false

/-- A view with all that tells of the frames and of the language left out. -/
def StateView.blurred (v : StateView) : StateView :=
  { v with id := .root, status := .suspended, depth := 0, parent := none, language := none }

def Answer.blurred : Answer → Answer
  | .state v => .state v.blurred
  | answer => answer

namespace Engine

variable {α : Type} {E : Answer → Answer → Prop}

def IsLimit (error : Error) : Prop := error.isLimit = true

structure Level.Alike (l m : Level) : Prop where
  scope : l.scope.Alike m.scope
  state : l.state = m.state

/-- The second engine stands like the first, with the level `saved` between the levels
that both work on and those below. -/
structure Deeper (saved : Level) (below : List Level) (depth : Nat) (e e' : Engine) : Prop where
  scope : e.scope.Alike e'.scope
  builder : e.builder.Agrees e'.builder
  executed : e'.executed = e.executed + 1
  journals : Journal.Absorbs depth e.builder.journal.carried e'.builder.journal.carried
  levels : ∃ inner inner', inner.length = depth ∧ List.Forall₂ Level.Alike inner inner' ∧
    e.Stands (⟨e.scope, e.builder.state⟩ :: (inner ++ below)) ∧
    e'.Stands (⟨e'.scope, e'.builder.state⟩ :: (inner' ++ saved :: below))

variable {saved : Level} {below : List Level} {depth : Nat} {e e' : Engine}

theorem deeper_of_stands {level level' : Level} {inner inner' : List Level}
    (hlength : inner.length = depth) (hlevel : level.Alike level')
    (hinner : List.Forall₂ Level.Alike inner inner')
    (hstands : e.Stands (level :: (inner ++ below)))
    (hstands' : e'.Stands (level' :: (inner' ++ saved :: below)))
    (hnext : e.builder.nextId = e'.builder.nextId) (hexecuted : e'.executed = e.executed + 1)
    (hjournals : Journal.Absorbs depth e.builder.journal.carried e'.builder.journal.carried) :
    Deeper saved below depth e e' := by
  obtain ⟨_, hlevels⟩ := hstands.exists_cons
  obtain ⟨_, hlevels'⟩ := hstands'.exists_cons
  cases hlevels
  cases hlevels'
  exact ⟨hlevel.scope, ⟨hlevel.state, hnext⟩, hexecuted, hjournals, inner, inner', hlength, hinner,
    hstands, hstands'⟩

theorem Deeper.setBuilder (h : Deeper saved below depth e e') {b c : Builder}
    (hagrees : b.Agrees c)
    (hjournals : Journal.Absorbs depth b.journal.carried c.journal.carried)
    (hb : ∀ states, e.builder.Mirrors states → b.Mirrors states)
    (hc : ∀ states, e'.builder.Mirrors states → c.Mirrors states) :
    Deeper saved below depth { e with builder := b } { e' with builder := c } := by
  obtain ⟨inner, inner', hlength, hinner, hstands, hstands'⟩ := h.levels
  exact ⟨h.scope, hagrees, h.executed, hjournals, inner, inner', hlength, hinner,
    hstands.setBuilder (hb _ hstands.builder), hstands'.setBuilder (hc _ hstands'.builder)⟩

theorem stands_modifyScope {level : Level} {lower : List Level} (h : e.Stands (level :: lower))
    (f : Scope → Scope) :
    (e.modifyScope f).Stands (⟨(e.modifyScope f).scope, e.builder.state⟩ :: lower) := by
  have hmoved := h.moved h.builder (f e.scope)
  rw [← modifyScope_eq_moved e e.builder f] at hmoved
  rw [show (e.modifyScope f).scope = f e.scope from e.frames.current_modify f]
  exact hmoved

theorem Deeper.modifyScope (h : Deeper saved below depth e e') {f g : Scope → Scope}
    (hscope : (f e.scope).Alike (g e'.scope)) :
    Deeper saved below depth (e.modifyScope f) (e'.modifyScope g) := by
  obtain ⟨inner, inner', hlength, hinner, hstands, hstands'⟩ := h.levels
  refine ⟨?_, h.builder, h.executed, h.journals, inner, inner', hlength, hinner,
    stands_modifyScope hstands f, stands_modifyScope hstands' g⟩
  rw [show (e.modifyScope f).scope = f e.scope from e.frames.current_modify f,
    show (e'.modifyScope g).scope = g e'.scope from e'.frames.current_modify g]
  exact hscope

/-- What is shown apart from the frames and the language depends on the place, the
regions and the tree. -/
theorem view_blurred_eq (hscope : e.scope.Alike e'.scope)
    (hstate : e.builder.state = e'.builder.state) (b : Buffer) :
    (e.view b).blurred = (e'.view b).blurred := by
  have hnode : e.builder.node? = e'.builder.node? := by
    rw [Builder.node?, Builder.node?, hstate]
  have hpath : e.builder.path = e'.builder.path := by
    rw [Builder.path, Builder.path, hstate]
  have hlast : e.builder.last? = e'.builder.last? := by
    rw [Builder.last?, Builder.last?, hstate]
  simp [view, StateView.blurred, hscope.cursor, hscope.regions, hnode, hpath, hlast]

/-! ## Parts of an instruction -/

theorem Deeper.build (h : Deeper saved below depth e e')
    {change : Builder → Builder × Except Error α}
    (hagrees : ∀ b c : Builder, b.Agrees c →
      (change b).1.Agrees (change c).1 ∧ (change b).2 = (change c).2)
    (hnotes : Builder.NotesAlike change)
    (hmirrors : ∀ (b : Builder) (states : List BuildState), b.Mirrors states →
      (change b).1.Mirrors states) :
    Accords IsLimit E (Together (Deeper saved below depth)) (e.build change) (e'.build change) := by
  obtain ⟨hsame, hanswer⟩ := hagrees _ _ h.builder
  have hjournals : Journal.Absorbs depth (change e.builder).1.journal.carried
      (change e'.builder).1.journal.carried := by
    obtain ⟨undos, hnoted, hnoted'⟩ := hnotes _ _ h.builder
    rw [hnoted, hnoted']
    exact h.journals.noted undos
  have hset := h.setBuilder hsame hjournals (hmirrors e.builder) (hmirrors e'.builder)
  unfold Engine.build
  rcases hb : change e.builder with ⟨b, result⟩
  rcases hc : change e'.builder with ⟨c, result'⟩
  rw [hb, hc] at hset
  rw [hb, hc] at hanswer
  cases hanswer
  cases result with
  | error error => exact accords_throw error
  | ok a => exact accords_pure ⟨rfl, hset⟩

theorem Deeper.build_advance (h : Deeper saved below depth e e') (t : Terminal) :
    Accords IsLimit E (Together (Deeper saved below depth)) (e.build (·.advance t))
      (e'.build (·.advance t)) :=
  h.build (fun _ _ hagrees => hagrees.advance t) (Builder.notesAlike_advance t)
    fun _ _ hmirrors => hmirrors.advance t

theorem coupled_deeper : Coupled IsLimit E (Deeper saved below depth) where
  scope h := h.scope
  path h := by rw [Builder.path, Builder.path, h.builder.state]
  slot h rejected := (repairSlot?_eq_of_state h.builder.state rejected).symm
  modifyScope h f hf := h.modifyScope (hf _ _ h.scope)
  advance h t := h.build_advance t
  close h := by
    refine (h.build_advance .close).mono fun _ _ hbuilt => ⟨hbuilt, fun _ => ?_⟩
    rw [endsSpan, endsSpan, Builder.node?, Builder.node?, h.builder.state]

/-! ## Frames -/

def Shown (saved : Level) (below : List Level) (depth : Nat) (p q : StateView × Engine) : Prop :=
  p.1.blurred = q.1.blurred ∧ Deeper saved below depth p.2 q.2

theorem Deeper.showing (h : Deeper saved below depth e e') :
    Accords IsLimit E (Shown saved below depth) e.showing e'.showing :=
  .fill fun b => .done (.ok ⟨view_blurred_eq h.scope h.builder.state b, h⟩)

/-- Below the limit a branch copies the level on top, apart from the language. -/
theorem Stands.branch_eq {level : Level} {lower : List Level} (h : e.Stands (level :: lower)) :
    ∃ (e₁ : Engine) (language : Option String), e₁.executed = e.executed ∧
      e₁.builder = e.builder.branch.1 ∧
      e₁.Stands (⟨{ level.scope with language }, level.state⟩ :: level :: lower) ∧
      ∀ config : Config, e.frames.depth + 1 ≤ config.maxBranchDepth →
        branch config e = e₁.showing := by
  obtain ⟨_, hlevels⟩ := h.exists_cons
  cases hlevels
  obtain ⟨hok, _⟩ := h.builder.branch
  have hframes := h.frames.branch_topId
  rw [← h.frame] at hframes
  obtain ⟨levels, hstep, hstands⟩ := @Stands.of_branch [] e lower _ _ _ h (Prod.ext rfl hok) hframes
  have hlevels : ∃ language, levels =
      ⟨{ e.scope with language }, e.builder.state⟩ :: ⟨e.scope, e.builder.state⟩ :: lower := by
    cases hstep with
    | branch _ => exact ⟨e.scope.language, rfl⟩
    | branchOutside _ => exact ⟨none, rfl⟩
  obtain ⟨language, rfl⟩ := hlevels
  refine ⟨_, language, ?_, ?_, hstands, ?_⟩
  · rfl
  · rfl
  · intro config hlimit
    unfold branch
    dsimp only
    rw [if_neg (Nat.not_lt.mpr hlimit), build_eq_mk hok, mk_ok_bind]
    dsimp only
    rw [hframes, mk_ok_bind]
    by_cases hnode : e.builder.node?.isSome = true
    · simp only [hnode, if_true]
      rfl
    · simp only [hnode, Bool.false_eq_true, if_false]
      rfl

theorem Stands.accept_eq {level parent : Level} {lower : List Level}
    (h : e.Stands (level :: parent :: lower)) :
    ∃ e₁ : Engine, e₁.executed = e.executed ∧ e₁.builder = e.builder.accept.1 ∧
      e₁.Stands (level :: lower) ∧
      e.accept = e₁.showing := by
  obtain ⟨hok, _⟩ := h.builder.accept
  obtain ⟨top, rest, habove⟩ := List.exists_cons_of_ne_nil h.above_ne_nil
  have hframes := h.frames.accept_topId habove
  rw [← h.frame] at hframes
  have hstands := h.of_accept (Prod.ext rfl hok) hframes
  refine ⟨_, ?_, ?_, hstands, ?_⟩
  · rfl
  · rfl
  · unfold accept
    rw [if_neg h.frame_ne_root, build_eq_mk hok, mk_ok_bind]
    dsimp only
    rw [hframes, mk_ok_bind]
    rfl

theorem Stands.reject_eq {level parent : Level} {lower : List Level}
    (h : e.Stands (level :: parent :: lower)) :
    e.reject = e.rolledBack.repair e.builder.path >>= showing := by
  obtain ⟨hok, hframes, _⟩ := h.rolledBack
  unfold reject
  rw [if_neg h.frame_ne_root, build_eq_mk hok, mk_ok_bind]
  dsimp only
  rw [hframes, mk_ok_bind]
  rfl

theorem Deeper.branch (h : Deeper saved below depth e e') (config : Config) :
    Accords IsLimit E (Shown saved below (depth + 1)) (branch config e) (branch config e') := by
  obtain ⟨inner, inner', hlength, hinner, hstands, hstands'⟩ := h.levels
  have hdepth : e'.frames.depth = e.frames.depth + 1 := by
    have hcount := hstands.length_eq
    have hcount' := hstands'.length_eq
    have hsame := hinner.length_eq
    simp only [List.length_cons, List.length_append] at hcount hcount'
    omega
  by_cases hlimit : e'.frames.depth + 1 > config.maxBranchDepth
  · have hstop : (Engine.branch config e' : Exec Answer _) =
        throw (.branchLimitExceeded (e'.frames.depth + 1) config.maxBranchDepth) := by
      unfold Engine.branch
      dsimp only
      rw [if_pos hlimit]
      rfl
    rw [hstop]
    exact accords_stop rfl
  · obtain ⟨e₁, language, hexecuted, hbuilder, hstands₁, hbranch⟩ := hstands.branch_eq
    obtain ⟨e₁', language', hexecuted', hbuilder', hstands₁', hbranch'⟩ := hstands'.branch_eq
    obtain ⟨_, _, hnext, _⟩ := hstands.builder.branch
    obtain ⟨_, _, hnext', _⟩ := hstands'.builder.branch
    rw [hbranch config (by omega), hbranch' config (by omega)]
    have hlevel : Level.Alike ⟨e.scope, e.builder.state⟩ ⟨e'.scope, e'.builder.state⟩ :=
      ⟨h.scope, h.builder.state⟩
    refine (deeper_of_stands (congrArg (· + 1) hlength) ?_ (.cons hlevel hinner) hstands₁
      hstands₁' ?_ ?_ ?_).showing
    · exact ⟨⟨h.scope.cursor, h.scope.regions⟩, h.builder.state⟩
    · rw [hbuilder, hbuilder', hnext, hnext', h.builder.nextId]
    · rw [hexecuted, hexecuted', h.executed]
    · rw [hbuilder, hbuilder', hstands.builder.journaled.carried_branch,
        hstands'.builder.journaled.carried_branch]
      exact .above h.journals

theorem Deeper.accept (h : Deeper saved below (depth + 1) e e') :
    Accords IsLimit E (Shown saved below depth) e.accept e'.accept := by
  obtain ⟨_, _, hlength, hinner, hstands, hstands'⟩ := h.levels
  cases hinner with
  | nil => cases hlength
  | @cons parent parent' inner inner' hparent hinner =>
      obtain ⟨e₁, hexecuted, hbuilder, hstands₁, haccept⟩ := hstands.accept_eq
      obtain ⟨e₁', hexecuted', hbuilder', hstands₁', haccept'⟩ := hstands'.accept_eq
      obtain ⟨_, _, hnext, _⟩ := hstands.builder.accept
      obtain ⟨_, _, hnext', _⟩ := hstands'.builder.accept
      rw [haccept, haccept']
      refine (deeper_of_stands (Nat.succ.inj hlength) ⟨h.scope, h.builder.state⟩ hinner hstands₁
        hstands₁' ?_ ?_ ?_).showing
      · rw [hbuilder, hbuilder', hnext, hnext', h.builder.nextId]
      · rw [hexecuted, hexecuted', h.executed]
      · rw [hbuilder, hbuilder', hstands.builder.journaled.carried_accept (by simp),
          hstands'.builder.journaled.carried_accept (by simp)]
        exact h.journals.folded

theorem Deeper.reject (h : Deeper saved below (depth + 1) e e') :
    Accords IsLimit E (Shown saved below depth) e.reject e'.reject := by
  obtain ⟨_, _, hlength, hinner, hstands, hstands'⟩ := h.levels
  have hpath : e'.builder.path = e.builder.path := by
    rw [Builder.path, Builder.path, h.builder.state]
  cases hinner with
  | nil => cases hlength
  | @cons parent parent' inner inner' hparent hinner =>
      rw [hstands.reject_eq, hstands'.reject_eq, hpath]
      refine (coupled_deeper.repair (deeper_of_stands (Nat.succ.inj hlength) hparent hinner
        hstands.rolledBack.2.2 hstands'.rolledBack.2.2 ?_ h.executed ?_) _).bind
          fun _ _ h => h.showing
      · obtain ⟨_, _, hnext, _⟩ := hstands.builder.reject
        obtain ⟨_, _, hnext', _⟩ := hstands'.builder.reject
        exact hnext.trans (h.builder.nextId.trans hnext'.symm)
      · show Journal.Absorbs depth e.builder.reject.1.journal.carried
          e'.builder.reject.1.journal.carried
        rw [hstands.builder.journaled.carried_reject (by simp),
          hstands'.builder.journaled.carried_reject (by simp)]
        exact h.journals.tail

/-! ## An instruction -/

def Answered (saved : Level) (below : List Level) (depth : Nat) (p q : Answer × Engine) : Prop :=
  p.1.blurred = q.1.blurred ∧ Deeper saved below depth p.2 q.2

theorem Deeper.executed_succ (h : Deeper saved below depth e e') :
    Deeper saved below depth { e with executed := e.executed + 1 }
      { e' with executed := e'.executed + 1 } := by
  obtain ⟨inner, inner', hlength, hinner, hstands, hstands'⟩ := h.levels
  exact ⟨h.scope, h.builder, congrArg (· + 1) h.executed, h.journals, inner, inner', hlength,
    hinner, hstands.executed _, hstands'.executed _⟩

theorem Deeper.dispatch (h : Deeper saved below depth e e') (config : Config) {i : Instruction}
    {depth' : Nat} (hdepth : depthAfter depth i = some depth') :
    Accords IsLimit E (Answered saved below depth') (dispatch config e i)
      (dispatch config e' i) := by
  cases i with
  | advance t =>
      cases hdepth
      exact (coupled_deeper.dispatch_advance h config t).mono fun _ _ hnext =>
        ⟨congrArg Answer.blurred hnext.1, hnext.2⟩
  | test p =>
      cases hdepth
      exact (coupled_deeper.dispatch_test h config p).mono fun _ _ hnext =>
        ⟨congrArg Answer.blurred hnext.1, hnext.2⟩
  | branch =>
      cases hdepth
      exact (h.branch config).bind fun _ _ hnext =>
        accords_pure ⟨congrArg Answer.state hnext.1, hnext.2⟩
  | accept =>
      cases eq_of_retire hdepth
      exact h.accept.bind fun _ _ hnext => accords_pure ⟨congrArg Answer.state hnext.1, hnext.2⟩
  | reject =>
      cases eq_of_retire hdepth
      exact h.reject.bind fun _ _ hnext => accords_pure ⟨congrArg Answer.state hnext.1, hnext.2⟩
  | write text =>
      cases hdepth
      have hwritten : Accords IsLimit E (Together (Deeper saved below depth))
          (e.build (·.write text)) (e'.build (·.write text)) :=
        h.build (fun _ _ hagrees => hagrees.write text) (Builder.notesAlike_write text)
          fun _ _ hmirrors => hmirrors.write text
      exact hwritten.bind fun _ _ hnext =>
        accords_pure ⟨congrArg (Answer.blurred ∘ Answer.output) hnext.1, hnext.2⟩
  | bindAttribute key value =>
      cases hdepth
      have hbound : Accords IsLimit E (Together (Deeper saved below depth))
          (e.build (·.bindAttribute key value)) (e'.build (·.bindAttribute key value)) :=
        h.build (fun _ _ hagrees => hagrees.bindAttribute key value)
          (Builder.notesAlike_bindAttribute key value)
          fun _ _ hmirrors => hmirrors.bindAttribute key value
      exact hbound.bind fun _ _ hnext =>
        accords_pure ⟨congrArg (Answer.blurred ∘ Answer.output) hnext.1, hnext.2⟩
  | getState =>
      cases hdepth
      have hview := view_blurred_eq h.scope h.builder.state
      exact .fill fun b => .done (.ok ⟨congrArg Answer.state (hview b), h⟩)
  | unknown verb => exact accords_throw _

/-- An instruction that retires no frame below succeeds in both or fails in both. -/
theorem Deeper.step (h : Deeper saved below depth e e') (config : Config) {i : Instruction}
    {depth' : Nat} (hdepth : depthAfter depth i = some depth') :
    Accords IsLimit E (Answered saved below depth') (step config e i) (step config e' i) := by
  unfold Engine.step
  refine accords_guard_stop rfl ?_ (h.executed_succ.dispatch config hdepth)
  intro hlimit
  rw [h.executed]
  omega

end Engine

end Backtrack
