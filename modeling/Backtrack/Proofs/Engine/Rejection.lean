import Backtrack.Proofs.Engine.Reach
import Backtrack.Proofs.Engine.Repair

/-!
Rejecting.  Above the root frame the tree can always be rolled back.  The repair
that follows fails in one case: the branch was started while a reference waited
for its value, and the rejected path leads along another reference that the node
around it knows nothing of.  Then the run ends, because a reference needs an open
node.
-/

namespace Backtrack

namespace Engine

variable {ω α : Type}

theorem yields_build {e : Engine} {change : Builder → Builder × Except Error α}
    {builder : Builder} {a : α} (h : change e.builder = (builder, .ok a)) (b : Buffer) :
    Yields (e.build change : Exec ω _) b (a, { e with builder }) b := by
  rw [build, h]
  exact yields_pure_iff.mpr ⟨rfl, rfl⟩

theorem fails_build {e : Engine} {change : Builder → Builder × Except Error α} {error : Error}
    (h : (change e.builder).2 = .error error) (b : Buffer) :
    Fails (e.build change : Exec ω _) b error b := by
  rcases hchange : change e.builder with ⟨builder, result⟩
  rw [hchange] at h
  cases h
  rw [build, hchange]
  exact fails_throw error b

/-! ## The repair -/

theorem yields_repair_of_none {e : Engine} {rejected : Path}
    (h : repairSlot? e.builder rejected = none) (b : Buffer) :
    Yields (e.repair rejected : Exec ω Engine) b e b := by
  rw [repairSlot?] at h
  rw [repair, h]
  exact yields_pure_iff.mpr ⟨rfl, rfl⟩

/-- In an open node the repair succeeds. -/
theorem exists_yields_repair_of_node {e : Engine} {rejected : Path} {n : Node}
    (h : e.builder.state.Shaped) (hnode : e.builder.node? = some n) (b : Buffer) :
    ∃ builder, Yields (e.repair rejected : Exec ω Engine) b { e with builder } b := by
  cases hslot : repairSlot? e.builder rejected with
  | none => exact ⟨e.builder, yields_repair_of_none hslot b⟩
  | some r =>
      have hbackfills := (repairSlot?_eq_some_of_node h hnode).mp hslot
      obtain ⟨segment, rest, hsegments, hsegment⟩ := Builder.openTop?_of_node? hnode
      obtain ⟨_, hfilled⟩ := Builder.backfill h hsegments hsegment
        (Node.checkBindable_of_hasProperty hbackfills.unbound)
      obtain ⟨hreference, hnull, _⟩ := hfilled e.builder rfl
      rw [repairSlot?] at hslot
      refine ⟨((e.builder.advance (.reference r)).1.advance .null).1, ?_⟩
      rw [repair, hslot]
      refine yields_bind_iff.mpr ⟨_, b, yields_build (Prod.ext rfl hreference) b, ?_⟩
      refine yields_bind_iff.mpr ⟨_, b, yields_build (Prod.ext rfl hnull) b, ?_⟩
      exact yields_pure_iff.mpr ⟨rfl, rfl⟩

theorem exists_yields_repair {e : Engine} {rejected : Path} (h : e.builder.state.Shaped)
    (hnone : ∀ n r, ¬ Stranded e.builder rejected n r) (b : Buffer) :
    ∃ builder, Yields (e.repair rejected : Exec ω Engine) b { e with builder } b := by
  cases hnode : e.builder.node? with
  | some n => exact exists_yields_repair_of_node h hnode b
  | none =>
      cases hslot : repairSlot? e.builder rejected with
      | none => exact ⟨e.builder, yields_repair_of_none hslot b⟩
      | some r =>
          obtain ⟨n, hstranded⟩ := (repairSlot?_eq_some_of_pending h hnode).mp hslot
          exact absurd hstranded (hnone n r)

/-- While a reference waits for its value the repair fails. -/
theorem fails_repair {e : Engine} {rejected : Path} {r : Reference}
    (hnode : e.builder.node? = none) (hslot : repairSlot? e.builder rejected = some r)
    (b : Buffer) :
    Fails (e.repair rejected : Exec ω Engine) b (.build (.noOpenNode "reference")) b := by
  rw [repairSlot?] at hslot
  rw [repair, hslot]
  exact (fails_build (Builder.advance_reference_of_node? r hnode) b).bind _

/-! ## The instruction -/

def rolledBack (e : Engine) : Engine :=
  { e with
    builder := e.builder.reject.1
    frames := e.frames.below .rejected
    frame := (e.frames.below .rejected).topId }

theorem Stands.rolledBack {e : Engine} {level parent : Level} {below : List Level}
    (h : e.Stands (level :: parent :: below)) :
    e.builder.reject.2 = .ok () ∧
      e.frames.reject e.frame = .ok (e.rolledBack.frames, e.rolledBack.frame, e.scope) ∧
      e.rolledBack.Stands (parent :: below) := by
  obtain ⟨hok, _⟩ := h.builder.reject
  obtain ⟨top, rest, habove⟩ := List.exists_cons_of_ne_nil h.above_ne_nil
  have hreject := h.frames.reject_topId habove
  have hcurrent : top.payload = e.scope := by
    simp [scope, FrameStack.current, FrameStack.top, habove]
  rw [← h.frame, hcurrent] at hreject
  exact ⟨hok, hreject, (h.of_reject (Prod.ext rfl hok) hreject).2⟩

theorem yields_reject {e e' : Engine} {b : Buffer} (hframe : e.frame ≠ .root)
    (hok : e.builder.reject.2 = .ok ())
    (hframes : e.frames.reject e.frame = .ok (e.rolledBack.frames, e.rolledBack.frame, e.scope))
    (hrepair : Yields (e.rolledBack.repair e.builder.path : Exec ω Engine) b e' b) :
    Yields (e.reject : Exec ω _) b (e'.view b, e') b := by
  unfold reject
  refine yields_guard_iff.mpr ⟨hframe, ?_⟩
  refine yields_bind_iff.mpr ⟨_, b, yields_build (Prod.ext rfl hok) b, ?_⟩
  refine yields_bind_iff.mpr ⟨_, b, yields_mk_iff.mpr ⟨hframes, rfl⟩, ?_⟩
  refine yields_bind_iff.mpr ⟨e', b, hrepair, ?_⟩
  refine yields_bind_iff.mpr ⟨b, b, yields_look_iff.mpr ⟨rfl, rfl⟩, ?_⟩
  exact yields_pure_iff.mpr ⟨rfl, rfl⟩

theorem fails_reject {e : Engine} {b : Buffer} {error : Error} (hframe : e.frame ≠ .root)
    (hok : e.builder.reject.2 = .ok ())
    (hframes : e.frames.reject e.frame = .ok (e.rolledBack.frames, e.rolledBack.frame, e.scope))
    (hrepair : Fails (e.rolledBack.repair e.builder.path : Exec ω Engine) b error b) :
    Fails (e.reject : Exec ω _) b error b := by
  unfold reject
  rw [if_neg hframe]
  refine Yields.bind_fails (yields_build (Prod.ext rfl hok) b) ?_
  refine Yields.bind_fails (yields_mk_iff.mpr ⟨hframes, rfl⟩) ?_
  exact hrepair.bind _

theorem yields_step {config : Config} {e : Engine} {i : Instruction} {b : Buffer}
    {result : Answer × Engine} (hlimit : e.executed < config.maxInstructions)
    (h : Yields (dispatch config { e with executed := e.executed + 1 } i : Exec ω _) b result b) :
    Yields (step config e i : Exec ω _) b result b := by
  unfold step
  exact yields_guard_iff.mpr ⟨Nat.not_lt.mpr hlimit, h⟩

theorem fails_step {config : Config} {e : Engine} {i : Instruction} {b : Buffer} {error : Error}
    (hlimit : e.executed < config.maxInstructions)
    (h : Fails (dispatch config { e with executed := e.executed + 1 } i : Exec ω _) b error b) :
    Fails (step config e i : Exec ω _) b error b := by
  unfold step
  dsimp only
  rw [if_neg (Nat.not_lt.mpr hlimit)]
  exact h

theorem yields_step_reject {config : Config} {e e' : Engine} {view : StateView} {b : Buffer}
    (hlimit : e.executed < config.maxInstructions)
    (h : Yields (reject { e with executed := e.executed + 1 } : Exec ω _) b (view, e') b) :
    Yields (step config e .reject : Exec ω _) b (.state view, e') b :=
  yields_step hlimit (yields_bind_iff.mpr ⟨_, b, h, yields_pure_iff.mpr ⟨rfl, rfl⟩⟩)

theorem fails_step_reject {config : Config} {e : Engine} {b : Buffer} {error : Error}
    (hlimit : e.executed < config.maxInstructions)
    (h : Fails (reject { e with executed := e.executed + 1 } : Exec ω _) b error b) :
    Fails (step config e .reject : Exec ω _) b error b :=
  fails_step hlimit (h.bind _)

/-- Above the root frame the roll back succeeds.  A rejection yields the view of
the parent unless the branch is stranded, and then it fails. -/
theorem reject_yields_iff {config : Config} {input b : Buffer} {e : Engine}
    (hreachable : Reachable config input e b) (hframe : e.frame ≠ .root)
    (hlimit : e.executed < config.maxInstructions) :
    e.builder.reject.2 = .ok () ∧
      ((∃ e', Yields (step config e .reject : Exec Answer _) b (.state (e'.view b), e') b ∧
          some e'.frame = e.frames.parent? e.frame ∧ e'.frames = e.frames.below .rejected) ↔
        ∀ n r, ¬ Stranded e.builder.reject.1 e.builder.path n r) ∧
      ∀ n r, Stranded e.builder.reject.1 e.builder.path n r →
        Fails (step config e .reject : Exec Answer _) b (.build (.noOpenNode "reference")) b := by
  obtain ⟨levels, hstands⟩ := hreachable.exists_stands
  obtain ⟨below, rfl⟩ := hstands.exists_cons
  obtain ⟨parent, below, rfl⟩ := hstands.exists_parent hframe
  have hparent : some (e.frames.below .rejected).topId = e.frames.parent? e.frame := by
    rw [hstands.frame]
    exact (hstands.frames.parent?_topId hstands.above_ne_nil .rejected).symm
  obtain ⟨hok, hframes, hstands⟩ := (hstands.executed (e.executed + 1)).rolledBack
  have hshaped := hstands.builder.shaped
  have hfails : ∀ n r, Stranded e.builder.reject.1 e.builder.path n r →
      Fails (step config e .reject : Exec Answer _) b (.build (.noOpenNode "reference")) b := by
    intro n r hstranded
    have hslot := (repairSlot?_eq_some_of_pending hshaped hstranded.pending).mpr ⟨n, hstranded⟩
    have hrepair := fails_repair (ω := Answer) hstranded.pending hslot b
    exact fails_step_reject hlimit (fails_reject hframe hok hframes hrepair)
  refine ⟨hok, ⟨?_, ?_⟩, hfails⟩
  · rintro ⟨e', hyields, _⟩ n r hstranded
    exact (hfails n r hstranded).not_yields hyields
  · intro hnone
    obtain ⟨builder, hrepair⟩ := exists_yields_repair (ω := Answer) hshaped hnone b
    exact ⟨_, yields_step_reject hlimit (yields_reject hframe hok hframes hrepair), hparent, rfl⟩

def valueTried : List Instruction :=
  [.advance (.openNode (.typed "Root")), .advance (.reference { name := "a" }), .branch,
    .advance (.openNode (.typed "X")), .advance (.reference { name := "b" }),
    .advance (.openNode (.typed "Y"))]

theorem reject_yields_iff_valueTried : ∃ (e e' : Engine) (b : Buffer),
    execute {} valueTried (start {}) (.ofText "") = some (e, b) ∧
      Reachable {} (.ofText "") e b ∧ e.frame ≠ .root ∧
      e.executed < ({} : Config).maxInstructions ∧
      Yields (step {} e .reject : Exec Answer _) b (.state (e'.view b), e') b ∧
      some e'.frame = e.frames.parent? e.frame := by
  have hfacts : (execute {} valueTried (start {}) (.ofText "")).map (fun reached =>
      let e := reached.1
      (e.frame, e.executed, e.builder.reject.1.last?,
        (e.builder.path.at? e.builder.reject.1.path.depth).bind (·.reference))) =
      some (⟨1⟩, 6, some (.reference { name := "a" }), some { name := "a" }) := by decide +kernel
  obtain ⟨⟨e, b⟩, hexecute, hreached⟩ := Option.map_eq_some_iff.mp hfacts
  simp only [Prod.mk.injEq] at hreached
  obtain ⟨hframe, hexecuted, hlast, hreference⟩ := hreached
  have hreachable : Reachable {} (.ofText "") e b := reachable_of_execute rfl hexecute
  have hroot : e.frame ≠ .root := by
    rw [hframe]
    decide
  have hlimit : e.executed < ({} : Config).maxInstructions := by
    rw [hexecuted]
    decide
  have hnone : ∀ n r, ¬ Stranded e.builder.reject.1 e.builder.path n r := by
    intro n r hstranded
    have hsame := hstranded.reference
    rw [hlast, Option.bind_some, Terminal.reference?, Option.isSome_some, if_pos rfl, hreference,
      Option.some.injEq] at hsame
    exact hstranded.other _ hlast (congrArg (·.name) hsame)
  obtain ⟨e', hyields, hparent, _⟩ := (reject_yields_iff hreachable hroot hlimit).2.1.mpr hnone
  exact ⟨e, e', b, hexecute, hreachable, hroot, hlimit, hyields, hparent⟩

def failureOf {ω α : Type} : Except Error α ⊕ Job ω (Except Error α) → Option Error
  | .inl (.error error) => some error
  | _ => none

theorem eq_error_of_failureOf {ω α : Type} {outcome : Except Error α ⊕ Job ω (Except Error α)}
    {error : Error} (h : failureOf outcome = some error) : outcome = .inl (.error error) := by
  unfold failureOf at h
  split at h
  · cases h
    rfl
  · cases h

def slotTried : List Instruction :=
  [.advance (.openNode (.typed "Root")), .advance (.reference { name := "a" }), .branch,
    .advance .null, .advance (.reference { name := "b" }), .advance (.openNode (.typed "Q")),
    .advance (.reference { name := "c" }), .advance (.openNode (.typed "D"))]

/-- The branch was started while `a` waited, and its rejection ends the run. -/
theorem reject_fails_slotTried :
    (∃ (e : Engine) (b b' : Buffer), execute {} slotTried (start {}) (.ofText "") = some (e, b) ∧
      Reachable {} (.ofText "") e b ∧ e.frame ≠ .root ∧
      e.executed < ({} : Config).maxInstructions ∧
      Fails (step {} e .reject : Exec Answer _) b (.build (.noOpenNode "reference")) b') ∧
    ((run {} (.ofInstructions (slotTried ++ [.reject]))).drive 1 (.ofText "")).result.map
      (Except.map fun _ => ()) = some (.error (.build (.noOpenNode "reference"))) := by
  refine ⟨?_, by decide +kernel⟩
  have hfacts : (execute {} slotTried (start {}) (.ofText "")).map (fun reached =>
      let e := reached.1
      (e.frame, e.executed,
        failureOf ((step {} e .reject : Exec Answer _).run.poll reached.2 []).outcome)) =
      some (⟨1⟩, 8, some (.build (.noOpenNode "reference"))) := by decide +kernel
  obtain ⟨⟨e, b⟩, hexecute, hreached⟩ := Option.map_eq_some_iff.mp hfacts
  simp only [Prod.mk.injEq] at hreached
  obtain ⟨hframe, hexecuted, hfailed⟩ := hreached
  refine ⟨e, b, ((step {} e .reject : Exec Answer _).run.poll b []).buffer, hexecute,
    reachable_of_execute rfl hexecute, ?_, ?_, ?_⟩
  · rw [hframe]
    decide
  · rw [hexecuted]
    decide
  · exact Job.runs_of_poll.1 _ (eq_error_of_failureOf hfailed)

end Engine

end Backtrack
