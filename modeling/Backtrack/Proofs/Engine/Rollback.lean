import Backtrack.Proofs.Engine.Reach
import Backtrack.Proofs.Engine.Repair

/-!
Rolling back.  Instructions that retire only frames of their own leave every frame
below as it was, with its scope, its tree and its journal.  Rejecting a branch
after such instructions therefore brings back the state in which it was started,
but for the slot that a repair binds.
-/

namespace Backtrack

namespace Engine

/-- How many frames stand above the frame that a series of instructions started
in.  None if an instruction would retire that frame. -/
def depthAfter (depth : Nat) : Instruction → Option Nat
  | .branch => some (depth + 1)
  | .accept | .reject => if depth = 0 then none else some (depth - 1)
  | _ => some depth

/-- Every branch of the series is accepted or rejected in the series, and nothing
else is. -/
def Nested (instructions : List Instruction) : Prop :=
  instructions.foldlM depthAfter 0 = some 0

instance (instructions : List Instruction) : Decidable (Nested instructions) :=
  inferInstanceAs (Decidable (_ = _))

/-- `e` stands `depth` frames above a branch that was started in `s`. -/
structure Within (s : Engine) (below : List Level) (depth : Nat) (e : Engine) : Prop where
  levels : ∃ inner, inner.length = depth + 1 ∧ e.Stands (inner ++ below)
  frames : e.frames.Over (s.frames.setStatus .suspended) (depth + 1)
  journal : e.builder.journal.Over (s.builder.journal.setStatus .suspended) (depth + 1)

theorem Within.executed {s e : Engine} {below : List Level} {depth : Nat}
    (h : Within s below depth e) (executed : Nat) :
    Within s below depth { e with executed } := by
  obtain ⟨⟨inner, hlength, hstands⟩, hframes, hjournal⟩ := h
  exact ⟨⟨inner, hlength, hstands.executed executed⟩, hframes, hjournal⟩

theorem eq_of_retire {depth depth' : Nat}
    (h : (if depth = 0 then none else some (depth - 1)) = some depth') : depth = depth' + 1 := by
  split at h
  · cases h
  · cases h
    omega

/-- A step inside of a branch leaves the levels below as they are. -/
theorem Level.Step.inner {units : List Symbol} {i : Instruction} {inner below levels : List Level}
    {depth depth' : Nat} (h : Step units i (inner ++ below) levels)
    (hlength : inner.length = depth + 1) (hdepth : depthAfter depth i = some depth') :
    ∃ inner', inner'.length = depth' + 1 ∧ levels = inner' ++ below := by
  obtain ⟨top, inner, rfl⟩ := List.exists_cons_of_length_eq_add_one hlength
  rw [List.length_cons, Nat.add_right_cancel_iff] at hlength
  rw [List.cons_append] at h
  generalize hrest : inner ++ below = rest at h
  -- What is retired is never the first frame of the branch.
  have hsecond : ∀ parent lower, depth = depth' + 1 → rest = parent :: lower →
      ∃ inner', inner'.length = depth' ∧ lower = inner' ++ below := by
    rintro parent lower rfl rfl
    obtain ⟨second, inner, rfl⟩ := List.exists_cons_of_length_eq_add_one hlength
    cases hrest
    exact ⟨inner, by simpa using hlength, rfl⟩
  cases h with
  | advance _ _ | write | bindAttribute _ | test | getState =>
      cases hdepth
      exact ⟨_ :: inner, by simpa using hlength, by rw [List.cons_append, hrest]⟩
  | branch _ | branchOutside _ =>
      cases hdepth
      exact ⟨_ :: _ :: inner, by simpa using hlength, by
        rw [List.cons_append, List.cons_append, hrest]⟩
  | accept | reject | repair _ _ =>
      obtain ⟨inner', hlength', rfl⟩ := hsecond _ _ (eq_of_retire hdepth) rfl
      exact ⟨_ :: inner', by simpa using hlength', rfl⟩

theorem Within.of_transition {units : List Symbol} {s e e' : Engine} {below : List Level}
    {i : Instruction} {depth depth' : Nat} (h : Within s below depth e)
    (ht : Transition units e i e') (hdepth : depthAfter depth i = some depth') :
    Within s below depth' e' := by
  obtain ⟨⟨inner, hlength, hstands⟩, hframes, hjournal⟩ := h
  obtain ⟨levels, hstep, hstands'⟩ := hstands.of_transition ht
  obtain ⟨inner', hlength', rfl⟩ := hstep.inner hlength hdepth
  -- With the levels settled, it is left that the two stacks make the same move.
  suffices hover : e'.frames.Over (s.frames.setStatus .suspended) (depth' + 1) ∧
      e'.builder.journal.Over (s.builder.journal.setStatus .suspended) (depth' + 1) from
    ⟨⟨inner', hlength', hstands'⟩, hover.1, hover.2⟩
  cases ht with
  | @advance t builder emitted scope hadvance hscope =>
      cases hdepth
      have hbuilder := Builder.advance_journal_over hjournal t
      rw [hadvance] at hbuilder
      exact ⟨hframes.modify fun _ => scope, hbuilder⟩
  | test p =>
      cases hdepth
      exact ⟨hframes, hjournal⟩
  | getState =>
      cases hdepth
      exact ⟨hframes, hjournal⟩
  | write =>
      cases hdepth
      exact ⟨hframes, Builder.commit_journal_over hjournal _⟩
  | @bindAttribute key value builder emitted hbind =>
      cases hdepth
      have hbuilder := Builder.bindAttribute_journal_over hjournal key value
      rw [hbind] at hbuilder
      exact ⟨hframes, hbuilder⟩
  | @branch builder frames frame hbuilder hok =>
      cases hdepth
      have hpushed := hstands.builder.journaled.branch_journal
      rw [hbuilder] at hpushed
      rw [hstands.frame] at hok
      obtain ⟨rfl, _⟩ := hstands.frames.eq_of_branch hok
      have hbranched := hframes.pushed (Payload.fork e.frames.current)
      refine ⟨?_, ?_⟩
      · dsimp only
        split
        · exact hbranched
        · exact hbranched.modify fun s => { s with language := none }
      · rw [show builder.journal = _ from hpushed]
        exact hjournal.pushed {}
  | @accept builder frames frame hroot hbuilder hok =>
      have hcount := eq_of_retire hdepth
      subst hcount
      have hne := hstands.above_ne_nil_of_frame hroot
      have haccepted := hstands.builder.journaled.accept_journal_over hjournal
      rw [hbuilder] at haccepted
      rw [hstands.frame] at hok
      obtain ⟨rfl, _⟩ := hstands.frames.eq_of_accept hne hok
      exact ⟨(hframes.below .accepted).modify (Payload.merge · e.frames.current), haccepted⟩
  | @reject builder repaired frames frame dropped hroot hbuilder hok hrepaired =>
      have hcount := eq_of_retire hdepth
      subst hcount
      have hne := hstands.above_ne_nil_of_frame hroot
      have hsaved : (inner ++ below).tail.map (·.state) ≠ [] := by
        obtain ⟨top, inner, rfl⟩ := List.exists_cons_of_length_eq_add_one hlength
        obtain ⟨second, inner, rfl⟩ :=
          List.exists_cons_of_length_eq_add_one (Nat.succ.inj hlength)
        simp
      have hrejected := hjournal.below .rejected
      rw [← hstands.builder.journaled.reject_journal hsaved, hbuilder] at hrejected
      rw [hstands.frame] at hok
      obtain ⟨rfl, _⟩ := hstands.frames.eq_of_reject hne hok
      refine ⟨hframes.below .rejected, ?_⟩
      cases hrepaired with
      | keep _ => exact hrejected
      | @null r b₁ _ _ _ _ hreference hnull =>
          have hbound := Builder.advance_journal_over hrejected (.reference r)
          rw [hreference] at hbound
          have hfilled := Builder.advance_journal_over hbound .null
          rwa [hnull] at hfilled

theorem Within.of_steps {config : Config} {s e e' : Engine} {below : List Level} {b b' : Buffer}
    {instructions : List Instruction} {depth depth' : Nat} (h : Within s below depth e)
    (hsteps : Steps config e b instructions e' b')
    (hdepth : instructions.foldlM depthAfter depth = some depth') :
    Within s below depth' e' := by
  induction hsteps generalizing depth with
  | nil =>
      cases hdepth
      exact h
  | @cons e e₁ e' b b₁ b' i rest answer hstep _ ih =>
      rw [List.foldlM_cons] at hdepth
      cases hafter : depthAfter depth i with
      | none =>
          rw [hafter] at hdepth
          cases hdepth
      | some depth₁ =>
          rw [hafter] at hdepth
          have hwithin := (h.executed _).of_transition (transition_of_step hstep) hafter
          exact ih hwithin hdepth

theorem Within.of_branch {units : List Symbol} {s e : Engine} {levels : List Level}
    (h : s.Stands levels) (ht : Transition units s .branch e) : Within s levels 0 e := by
  obtain ⟨levels', hstep, hstands⟩ := h.of_transition ht
  have hinner : ∃ inner, inner.length = 1 ∧ levels' = inner ++ levels := by
    cases hstep with
    | branch _ => exact ⟨[_], rfl, rfl⟩
    | branchOutside _ => exact ⟨[_], rfl, rfl⟩
  obtain ⟨inner, hlength, rfl⟩ := hinner
  cases ht with
  | @branch builder frames frame hbuilder hok =>
      have hpushed := h.builder.journaled.branch_journal
      rw [hbuilder] at hpushed
      rw [h.frame] at hok
      obtain ⟨rfl, _⟩ := h.frames.eq_of_branch hok
      have hbranched := s.frames.over_pushed (Payload.fork s.frames.current)
      refine ⟨⟨inner, hlength, hstands⟩, ?_, ?_⟩
      · dsimp only
        split
        · exact hbranched
        · exact hbranched.modify fun s => { s with language := none }
      · rw [show builder.journal = _ from hpushed]
        exact s.builder.journal.over_pushed {}

/-- Rejecting the branch brings back the frames, and the builder before a repair. -/
theorem Within.of_reject {units : List Symbol} {s e e' : Engine} {levels : List Level}
    (h : Within s levels 0 e) (hs : s.Stands levels) (ht : Transition units e .reject e') :
    e'.frames.live = s.frames.live ∧ e'.frame = s.frame ∧
      ∃ builder : Builder, builder.state = s.builder.state ∧ builder.state.Shaped ∧
        builder.journal.live = s.builder.journal.live ∧ builder.frame = s.builder.frame ∧
        Repaired e.builder.path builder e'.builder := by
  obtain ⟨⟨inner, hlength, hstands⟩, hframes, hjournal⟩ := h
  obtain ⟨below, rfl⟩ := hs.exists_cons
  obtain ⟨top, rfl⟩ := List.length_eq_one_iff.mp hlength
  rw [List.singleton_append] at hstands
  cases ht with
  | @reject builder repaired frames frame dropped hroot hbuilder hok hrepaired =>
      obtain ⟨hstate, hstands'⟩ := hstands.of_reject hbuilder hok
      have hrejected := hstands.builder.journaled.reject_journal (by simp)
      rw [hbuilder] at hrejected
      have hkept := hjournal.below_eq hs.builder.journaled.valid .rejected
      rw [← hrejected] at hkept
      rw [hstands.frame] at hok
      obtain ⟨rfl, rfl, _⟩ := hstands.frames.eq_of_reject hstands.above_ne_nil hok
      obtain ⟨habove, hbase⟩ := hframes.below_eq hs.frames .rejected
      have hlive : (e.frames.below .rejected).live = s.frames.live := by
        rw [FrameStack.live, FrameStack.live, habove, hbase]
      have hjournals : builder.journal.live = s.builder.journal.live := by
        rw [FrameStack.live, FrameStack.live, hkept.1, hkept.2]
      refine ⟨hlive, ?_, builder, hstate, hstands'.builder.shaped, hjournals, ?_, hrepaired⟩
      · rw [hs.frame]
        exact FrameStack.topId_eq_of_live hlive
      · rw [hstands'.builder.journaled.frame, hs.builder.journaled.frame]
        exact FrameStack.topId_eq_of_live hjournals

/-- Rejecting a branch, after instructions that retire no frame but their own,
brings back the frames and the tree of the state it was started in.  If the
rejected path went on from the open node along a reference that the node knows
nothing of, exactly this slot is bound to null. -/
theorem reject_restores {config : Config} {input b b₀ b₁ b₂ : Buffer} {s e₀ e e' : Engine}
    {body : List Instruction} {branched rejected : Answer} (hs : Reachable config input s b)
    (hbranch : Yields (step config s .branch : Exec Answer _) b (branched, e₀) b₀)
    (hbody : Steps config e₀ b₀ body e b₁) (hnested : Nested body)
    (hreject : Yields (step config e .reject : Exec Answer _) b₁ (rejected, e') b₂) :
    e'.frames.live = s.frames.live ∧ e'.frame = s.frame ∧ e'.scope = s.scope ∧
      (∀ n r, Backfills s.builder e.builder.path n r →
        (s.builder.advance (.reference r)).2 = .ok (.tag (.reference r)) ∧
          ((s.builder.advance (.reference r)).1.advance .null).2 = .ok (.tag .null) ∧
          e'.builder.state = ((s.builder.advance (.reference r)).1.advance .null).1.state) ∧
      ((∀ n r, ¬ Backfills s.builder e.builder.path n r) →
        e'.builder.state = s.builder.state ∧
          e'.builder.journal.live = s.builder.journal.live ∧
          e'.builder.frame = s.builder.frame) := by
  obtain ⟨levels, hstands⟩ := hs.exists_stands
  have hstarted : Within s levels 0 e₀ := by
    have hwithin := Within.of_branch (hstands.executed (s.executed + 1))
      (transition_of_step hbranch)
    exact ⟨hwithin.levels, hwithin.frames, hwithin.journal⟩
  have hinside := hstarted.of_steps hbody hnested
  obtain ⟨hlive, hframe, builder, hstate, hshaped, hjournal, hbuilder, hrepaired⟩ :=
    (hinside.executed _).of_reject hstands (transition_of_step hreject)
  have hshaped' : s.builder.state.Shaped := hstate ▸ hshaped
  have hslot : ∀ r, repairSlot? builder e.builder.path = some r →
      repairSlot? s.builder e.builder.path = some r := by
    intro r hr
    rw [← repairSlot?_eq_of_state hstate]
    exact hr
  refine ⟨hlive, hframe, ?_, ?_, ?_⟩
  · exact FrameStack.current_eq_of_live hlive
  · intro n r hbackfills
    obtain ⟨segment, rest, hsegments, hnode⟩ := Builder.openTop?_of_node? hbackfills.node
    obtain ⟨filled, hfilled⟩ := Builder.backfill hshaped' hsegments hnode
      (Node.checkBindable_of_hasProperty hbackfills.unbound)
    obtain ⟨hreference, hnull, hs'⟩ := hfilled s.builder rfl
    refine ⟨hreference, hnull, ?_⟩
    have hsome := (repairSlot?_eq_some_of_node hshaped' hbackfills.node).mpr hbackfills
    rw [← repairSlot?_eq_of_state hstate] at hsome
    cases hrepaired with
    | keep hkeep =>
        rw [repairSlot?, hkeep] at hsome
        cases hsome
    | @null r' b₁ b₂ _ _ hr' hreference' hnull' =>
        rw [repairSlot?, hr', Option.some.injEq] at hsome
        subst hsome
        have hrepaired' := (hfilled builder hstate).2.2
        rw [hreference', hnull'] at hrepaired'
        rw [hs']
        exact hrepaired'
  · intro hnone
    cases hrepaired with
    | keep _ => exact ⟨hstate, hjournal, hbuilder⟩
    | @null r _ _ _ _ hr hreference _ =>
        cases hnode : s.builder.node? with
        | some n =>
            exact absurd ((repairSlot?_eq_some_of_node hshaped' hnode).mp (hslot r hr)) (hnone n r)
        | none =>
            -- Without an open node the repair would have failed.
            have hclosed : builder.node? = none := by
              rw [← hnode, Builder.node?, Builder.node?, hstate]
            have herror := Builder.advance_reference_of_node? r hclosed
            rw [hreference] at herror
            cases herror

def withoutFirst : List Instruction :=
  [.advance (.openNode (.typed "Root")), .advance (.reference { name := "first" }),
    .advance .null]

def secondTried : List Instruction :=
  [.advance (.reference { name := "second" }), .advance (.openNode (.typed "Part")),
    .branch, .advance (.reference { name := "third" }), .advance .null, .accept]

theorem reject_restores_second_part :
    ∃ (s e₀ e e' : Engine) (b b₀ b₁ b₂ : Buffer) (branched rejected : Answer) (n : Node),
      Reachable {} (.ofText "") s b ∧
        Yields (step {} s .branch : Exec Answer _) b (branched, e₀) b₀ ∧
        Yields (step {} e .reject : Exec Answer _) b₁ (rejected, e') b₂ ∧
        Backfills s.builder e.builder.path n { name := "second" } ∧
        e'.frames.live = s.frames.live ∧
        e'.builder.state =
          ((s.builder.advance (.reference { name := "second" })).1.advance .null).1.state := by
  have hexecute : (execute {} (withoutFirst ++ ([.branch] ++ (secondTried ++ [.reject])))
      (start {}) (.ofText "")).isSome = true := by decide +kernel
  obtain ⟨⟨e', b₂⟩, hall⟩ := Option.isSome_iff_exists.mp hexecute
  rw [execute_append, Option.bind_eq_some_iff] at hall
  obtain ⟨⟨s, b⟩, hbefore, hall⟩ := hall
  rw [execute_append, Option.bind_eq_some_iff] at hall
  obtain ⟨⟨e₀, b₀⟩, hbranch, hall⟩ := hall
  rw [execute_append, Option.bind_eq_some_iff] at hall
  obtain ⟨⟨e, b₁⟩, hbody, hreject⟩ := hall
  have hs : Reachable {} (.ofText "") s b := reachable_of_execute rfl hbefore
  obtain ⟨branched, hbranch'⟩ := (steps_of_execute hbranch).exists_yields
  obtain ⟨rejected, hreject'⟩ := (steps_of_execute hreject).exists_yields
  have hnested : Nested secondTried := by decide
  have hrestores := reject_restores hs hbranch' (steps_of_execute hbody) hnested hreject'
  -- The rejected path went through the second part.
  have hslot : (execute {} withoutFirst (start {}) (.ofText "")).bind (fun reached =>
      (execute {} ([.branch] ++ secondTried) reached.1 reached.2).map fun inside =>
        (reached.1.builder.node?.isSome,
          repairSlot? reached.1.builder inside.1.builder.path)) =
      some (true, some { name := "second" }) := by decide +kernel
  rw [hbefore, Option.bind_some, execute_append, hbranch, Option.bind_some, hbody,
    Option.map_some, Option.some.injEq, Prod.mk.injEq] at hslot
  obtain ⟨n, hnode⟩ := Option.isSome_iff_exists.mp hslot.1
  obtain ⟨levels, hstands⟩ := hs.exists_stands
  have hbackfills := (repairSlot?_eq_some_of_node hstands.builder.shaped hnode).mp hslot.2
  exact ⟨s, e₀, e, e', b, b₀, b₁, b₂, branched, rejected, n, hs, hbranch', hreject', hbackfills,
    hrestores.1, (hrestores.2.2.2.1 n _ hbackfills).2.2⟩

end Engine

end Backtrack
