import Backtrack.Proofs.Engine.Repair
import Backtrack.Proofs.Engine.Transition
import Backtrack.Proofs.Input.Following
import Backtrack.Proofs.Region

/-!
Two engines that go on in accord.  What an instruction does is decided by the tree, by the
place and the regions on top and by the units of the input.  Two engines that agree on
these, in whatever they differ otherwise, succeed with what belongs together or fail for
the same reason; only the second may be stopped before that.  `Coupled` says what a relation
between engines has to keep, and advancing and repairing keep every such relation.
-/

namespace Backtrack

namespace Engine

variable {α β γ δ : Type} {Stop : Error → Prop} {E : Answer → Answer → Prop}

/-! ## Executions in accord -/

/-- Both fail for the same reason, or both succeed with results that belong together. -/
inductive Results (R : α → β → Prop) : Except Error α → Except Error β → Prop
  | ok {a : α} {c : β} : R a c → Results R (.ok a) (.ok c)
  | error {error : Error} : Results R (.error error) (.error error)

def Stopped (Stop : Error → Prop) (result : Except Error β) : Prop :=
  ∃ error, result = .error error ∧ Stop error

/-- Two executions side by side.  Only the second may be stopped. -/
def Accords (Stop : Error → Prop) (E : Answer → Answer → Prop) (R : α → β → Prop)
    (x : Exec Answer α) (y : Exec Answer β) : Prop :=
  x.run.Follows E (Results R) (Stopped Stop) y.run

variable {R : α → β → Prop} {S : γ → δ → Prop}

theorem accords_pure {a : α} {c : β} (h : R a c) : Accords Stop E R (pure a) (pure c) :=
  .done (.ok h)

theorem accords_throw (error : Error) : Accords Stop E R (throw error) (throw error) :=
  .done .error

theorem accords_stop {x : Exec Answer α} {error : Error} (h : Stop error) :
    Accords Stop E R x (throw error : Exec Answer β) :=
  .stop ⟨error, rfl, h⟩

theorem Accords.bind {x : Exec Answer α} {y : Exec Answer β} {f : α → Exec Answer γ}
    {g : β → Exec Answer δ} (h : Accords Stop E R x y)
    (hf : ∀ a c, R a c → Accords Stop E S (f a) (g c)) :
    Accords Stop E S (x >>= f) (y >>= g) := by
  refine Job.Follows.bind h ?_ ?_
  · intro result result' hresult
    cases hresult with
    | ok hrelated => exact hf _ _ hrelated
    | error => exact .done .error
  · rintro result ⟨error, rfl, hstop⟩
    exact ⟨.error error, rfl, error, rfl, hstop⟩

theorem Accords.mono {R' : α → β → Prop} {x : Exec Answer α} {y : Exec Answer β}
    (h : Accords Stop E R x y) (hR : ∀ a c, R a c → R' a c) : Accords Stop E R' x y := by
  refine Job.Follows.mono h ?_
  intro result result' hresult
  cases hresult with
  | ok hrelated => exact .ok (hR _ _ hrelated)
  | error => exact .error

theorem accords_mk (result : Except Error α) :
    Accords Stop E Eq (ExceptT.mk (pure result)) (ExceptT.mk (pure result)) := by
  cases result with
  | error error => exact accords_throw error
  | ok a => exact accords_pure rfl

theorem accords_prime (c : Cursor) :
    Accords Stop E Eq (ExceptT.lift c.prime) (ExceptT.lift c.prime) :=
  .fill fun _ => .done (.ok rfl)

theorem accords_guard {c : Prop} [Decidable c] {error : Error} {f : PUnit → Exec Answer α}
    {g : PUnit → Exec Answer β} {x : Exec Answer α} {y : Exec Answer β}
    (h : ¬ c → Accords Stop E R x y) :
    Accords Stop E R (if c then throw error >>= f else x)
      (if c then throw error >>= g else y) := by
  split
  · exact (accords_throw (R := fun _ _ => False) error).bind nofun
  · next hc => exact h hc

theorem accords_guard_stop {c c' : Prop} [Decidable c] [Decidable c'] {error error' : Error}
    {f : PUnit → Exec Answer α} {g : PUnit → Exec Answer β} {x : Exec Answer α}
    {y : Exec Answer β} (hstop : Stop error') (hc : c → c') (h : Accords Stop E R x y) :
    Accords Stop E R (if c then throw error >>= f else x)
      (if c' then throw error' >>= g else y) := by
  by_cases hc' : c'
  · rw [if_pos hc']
    exact accords_stop hstop
  · rw [if_neg hc', if_neg fun hcond => hc' (hc hcond)]
    exact h

theorem accords_matchAt (config : Config) (scope : Scope) (p : Pattern) :
    Accords Stop E Eq (ExceptT.lift (matchAt config scope p))
      (ExceptT.lift (matchAt config scope p)) :=
  .fill fun _ => .done (.ok rfl)

/-! ## Coupled engines -/

/-- The same place and the same regions.  The language may differ. -/
structure Scope.Alike (s t : Scope) : Prop where
  cursor : s.cursor = t.cursor
  regions : s.regions = t.regions

theorem Scope.Alike.matchAt_eq {ω : Type} {s t : Scope} (h : s.Alike t) (config : Config)
    (p : Pattern) : (matchAt config s p : Job ω _) = matchAt config t p := by
  rw [matchAt, matchAt, h.cursor, h.regions]

def endsSpan (e : Engine) : Bool := e.builder.node?.any (·.tag.beginsSpan)

def Together (T : Engine → Engine → Prop) (p q : α × Engine) : Prop := p.1 = q.1 ∧ T p.2 q.2

/-- A relation between engines that agree on all that decides how a terminal is taken and
what is repaired. -/
structure Coupled (Stop : Error → Prop) (E : Answer → Answer → Prop)
    (T : Engine → Engine → Prop) : Prop where
  scope : ∀ {e e'}, T e e' → e.scope.Alike e'.scope
  path : ∀ {e e'}, T e e' → e'.builder.path = e.builder.path
  slot : ∀ {e e'}, T e e' → ∀ rejected,
    repairSlot? e'.builder rejected = repairSlot? e.builder rejected
  modifyScope : ∀ {e e'}, T e e' → ∀ f : Scope → Scope,
    (∀ s t, s.Alike t → (f s).Alike (f t)) → T (e.modifyScope f) (e'.modifyScope f)
  advance : ∀ {e e'}, T e e' → ∀ t, Accords Stop E (Together T) (e.build (·.advance t))
    (e'.build (·.advance t))
  /-- A node that is closed inside of another one ends a span in both or in none. -/
  close : ∀ {e e'}, T e e' → Accords Stop E (fun p q => Together T p q ∧
    (p.2.builder.path.isEmpty = false → e'.endsSpan = e.endsSpan)) (e.build (·.advance .close))
    (e'.build (·.advance .close))

namespace Coupled

variable {T : Engine → Engine → Prop} {e e' : Engine}

theorem setCursor (hT : Coupled Stop E T) (h : T e e') (cursor : Cursor) :
    T (e.setCursor cursor) (e'.setCursor cursor) :=
  hT.modifyScope h _ fun _ _ halike => ⟨rfl, halike.regions⟩

theorem updateRegions (hT : Coupled Stop E T) (h : T e e')
    (change : Regions → Regions × Except Error Unit) :
    Accords Stop E T (e.updateRegions change) (e'.updateRegions change) := by
  unfold Engine.updateRegions
  rw [← (hT.scope h).regions]
  split
  · exact accords_pure (hT.modifyScope h _ fun _ _ halike => ⟨halike.cursor, rfl⟩)
  · exact accords_throw _

theorem advanceCursor (hT : Coupled Stop E T) (h : T e e') (n : Nat) :
    Accords Stop E T (e.advanceCursor n) (e'.advanceCursor n) := by
  unfold Engine.advanceCursor
  rw [← (hT.scope h).cursor]
  have hmoved : Accords Stop E Eq (ExceptT.lift (e.scope.cursor.advance n))
      (ExceptT.lift (e.scope.cursor.advance n)) := .fill fun _ => .done (.ok rfl)
  refine hmoved.bind ?_
  rintro moved _ rfl
  refine (accords_mk _).bind ?_
  rintro cursor _ rfl
  exact accords_pure (hT.setCursor h cursor)

theorem advanceOpen (hT : Coupled Stop E T) (h : T e e') (tag : OpenTag) :
    Accords Stop E (Together T) (e.advanceOpen tag) (e'.advanceOpen tag) := by
  refine (hT.advance h (.openNode tag)).bind ?_
  rintro ⟨output, e₁⟩ ⟨_, e₁'⟩ ⟨rfl, hbuilt⟩
  have hlanguage : ∀ e₂ e₂', T e₂ e₂' →
      Accords Stop E (Together T) (enterLanguage output e₂ tag.language)
        (enterLanguage output e₂' tag.language) := by
    intro e₂ e₂' hentered
    cases tag.language with
    | none => exact accords_pure ⟨rfl, hentered⟩
    | some language =>
        exact accords_pure ⟨rfl, hT.modifyScope hentered _ fun _ _ halike =>
          ⟨halike.cursor, halike.regions⟩⟩
  dsimp only
  split
  · exact (hT.updateRegions hbuilt _).bind hlanguage
  · exact hlanguage _ _ hbuilt

theorem finalize (hT : Coupled Stop E T) (h : T e e') :
    Accords Stop E (fun _ _ => True) e.finalize e'.finalize := by
  unfold Engine.finalize prime
  rw [← (hT.scope h).cursor, ← (hT.scope h).regions]
  refine (accords_prime _).bind ?_
  rintro b _ rfl
  refine accords_guard fun _ => ?_
  split
  · exact accords_throw _
  · exact accords_pure trivial

end Coupled

def leaveNode (output : Emitted) (ends : Bool) (e : Engine) : Exec Answer (Emitted × Engine) :=
  if ends then do
    let e ← e.updateRegions (·.popSpan)
    return (output, e)
  else pure (output, e)

theorem setRegions_self (e : Engine) : e.setRegions e.scope.regions = e := by
  have hself : (e.frames.modify fun s => { s with regions := e.scope.regions }) = e.frames :=
    FrameStack.modify_eq_self rfl
  rw [setRegions, modifyScope, hself]

theorem leave_eq_leaveNode (output : Emitted) (tag : OpenTag) (e : Engine) :
    (do
      let e ← e.updateRegions (·.leave tag)
      return (output, e)) = leaveNode output (tag.attributes.text? "span").isSome e := by
  unfold leaveNode Regions.leave
  by_cases hspan : (tag.attributes.text? "span").isSome = true
  · simp only [hspan, if_true]
  · simp only [hspan, Bool.false_eq_true, if_false]
    show (pure (output, e.setRegions e.scope.regions) : Exec Answer _) = _
    rw [setRegions_self]

/-- Of the node that is closed only its span matters. -/
theorem advanceClose_eq (e : Engine) :
    (e.advanceClose : Exec Answer (Emitted × Engine)) = (do
      let (output, e₁) ← e.build (·.advance .close)
      if e₁.builder.path.isEmpty then
        e₁.finalize
        return (output, e₁)
      else leaveNode output e.endsSpan e₁) := by
  unfold advanceClose
  dsimp only
  congr 1
  funext built
  obtain ⟨output, e₁⟩ := built
  dsimp only
  split
  · rfl
  · unfold endsSpan OpenTag.beginsSpan
    cases e.builder.node? with
    | none => rfl
    | some n =>
        rw [Option.map_some, Option.filter_some, Option.any_some]
        by_cases htyped : n.tag.nodeType.isSome = true
        · rw [if_pos htyped, htyped, Bool.true_and]
          exact leave_eq_leaveNode output n.tag e₁
        · rw [if_neg htyped, eq_false_of_ne_true htyped]
          rfl

namespace Coupled

variable {T : Engine → Engine → Prop} {e e' : Engine}

theorem leaveNode (hT : Coupled Stop E T) (h : T e e') (output : Emitted) (ends : Bool) :
    Accords Stop E (Together T) (leaveNode output ends e) (leaveNode output ends e') := by
  unfold Engine.leaveNode
  split
  · exact (hT.updateRegions h _).bind fun _ _ hleft => accords_pure ⟨rfl, hleft⟩
  · exact accords_pure ⟨rfl, h⟩

theorem advanceClose (hT : Coupled Stop E T) (h : T e e') :
    Accords Stop E (Together T) e.advanceClose e'.advanceClose := by
  rw [advanceClose_eq, advanceClose_eq]
  refine (hT.close h).bind ?_
  rintro ⟨output, e₁⟩ ⟨_, e₁'⟩ ⟨⟨rfl, hbuilt⟩, hends⟩
  dsimp only
  rw [hT.path hbuilt]
  split
  · exact (hT.finalize hbuilt).bind fun _ _ _ => accords_pure ⟨rfl, hbuilt⟩
  · next hinner =>
    rw [hends (eq_false_of_ne_true hinner)]
    exact hT.leaveNode hbuilt output e.endsSpan

theorem advanceLiteral (hT : Coupled Stop E T) (h : T e e') (config : Config) (text : String) :
    Accords Stop E (Together T) (advanceLiteral config e text)
      (advanceLiteral config e' text) := by
  unfold Engine.advanceLiteral
  rw [← (hT.scope h).matchAt_eq]
  refine (accords_matchAt config e.scope _).bind ?_
  rintro found _ rfl
  cases found with
  | none => exact accords_throw _
  | some range =>
      exact (hT.advanceCursor h range.length).bind fun _ _ hmoved =>
        hT.advance hmoved (.literal text)

theorem advanceGap (hT : Coupled Stop E T) (h : T e e') :
    Accords Stop E (Together T) e.advanceGap e'.advanceGap := by
  unfold Engine.advanceGap prime
  rw [← (hT.scope h).cursor]
  refine (accords_prime _).bind ?_
  rintro b _ rfl
  refine accords_guard fun _ => ?_
  split
  · have hset : Accords Stop E T
        (e.setCursor <$> ExceptT.mk (pure (liftSource e.scope.cursor.unshift)))
        (e'.setCursor <$> ExceptT.mk (pure (liftSource e.scope.cursor.unshift))) := by
      cases liftSource e.scope.cursor.unshift with
      | error error => exact accords_throw error
      | ok cursor => exact accords_pure (hT.setCursor h cursor)
    exact hset.bind fun _ _ hmoved => hT.advance hmoved .gap
  · exact (hT.advanceCursor h 1).bind fun _ _ hmoved => hT.advance hmoved .gap

theorem advanceShift (hT : Coupled Stop E T) (h : T e e') :
    Accords Stop E (Together T) e.advanceShift e'.advanceShift := by
  unfold Engine.advanceShift
  rw [← (hT.scope h).cursor]
  refine (accords_mk _).bind ?_
  rintro cursor _ rfl
  exact hT.advance (hT.setCursor h cursor) .shift

theorem advanceTerminal (hT : Coupled Stop E T) (h : T e e') (config : Config) (t : Terminal) :
    Accords Stop E (Together T) (Engine.advance config e t) (Engine.advance config e' t) := by
  cases t with
  | doctype tag => exact hT.advance h (.doctype tag)
  | openNode tag => exact hT.advanceOpen h tag
  | close => exact hT.advanceClose h
  | literal text => exact hT.advanceLiteral h config text
  | gap => exact hT.advanceGap h
  | shift => exact hT.advanceShift h
  | reference r => exact hT.advance h (.reference r)
  | null => exact hT.advance h .null

/-- What is repaired is decided by the tree. -/
theorem repair (hT : Coupled Stop E T) (h : T e e') (rejected : Path) :
    Accords Stop E T (e.repair rejected) (e'.repair rejected) := by
  have hslot := hT.slot h rejected
  unfold repairSlot? at hslot
  unfold Engine.repair
  rw [hslot]
  split
  · exact accords_pure h
  · next r _ =>
      refine (hT.advance h (.reference r)).bind ?_
      rintro ⟨_, e₁⟩ ⟨_, e₁'⟩ ⟨rfl, hbound⟩
      refine (hT.advance hbound .null).bind ?_
      rintro ⟨_, e₂⟩ ⟨_, e₂'⟩ ⟨rfl, hfilled⟩
      exact accords_pure hfilled

theorem matchAt (hT : Coupled Stop E T) (h : T e e') (config : Config) (p : Pattern) :
    Accords Stop E Eq (ExceptT.lift (matchAt config e.scope p))
      (ExceptT.lift (matchAt config e'.scope p)) := by
  rw [← (hT.scope h).matchAt_eq]
  exact accords_matchAt config e.scope p

/-! ## Instructions that leave the frames alone -/

theorem dispatch_advance (hT : Coupled Stop E T) (h : T e e') (config : Config) (t : Terminal) :
    Accords Stop E (Together T) (dispatch config e (.advance t))
      (dispatch config e' (.advance t)) :=
  (hT.advanceTerminal h config t).bind fun _ _ hnext =>
    accords_pure ⟨congrArg Answer.output hnext.1, hnext.2⟩

theorem dispatch_test (hT : Coupled Stop E T) (h : T e e') (config : Config) (p : Pattern) :
    Accords Stop E (Together T) (dispatch config e (.test p)) (dispatch config e' (.test p)) := by
  refine (hT.matchAt h config p).bind ?_
  rintro found _ rfl
  cases found with
  | none => exact accords_pure ⟨rfl, h⟩
  | some range => exact accords_pure ⟨rfl, h⟩

end Coupled

/-! ## Frames -/

variable {e : Engine}

def showing (e : Engine) : Exec Answer (StateView × Engine) := do
  return (e.view (← look), e)

theorem build_eq_mk {change : Builder → Builder × Except Error α} {a : α}
    (h : (change e.builder).2 = .ok a) :
    (e.build change : Exec Answer _) =
      ExceptT.mk (pure (.ok (a, { e with builder := (change e.builder).1 }))) := by
  unfold build
  rcases hchange : change e.builder with ⟨builder, result⟩
  rw [hchange] at h
  cases h
  rfl

theorem mk_ok_bind (a : α) (f : α → Exec Answer β) :
    (ExceptT.mk (pure (.ok a)) >>= f : Exec Answer β) = f a := rfl

/-! ## The instruction limit -/

theorem step_eq_dispatch {config : Config} {i : Instruction}
    (h : e.executed + 1 ≤ config.maxInstructions) :
    (step config e i : Exec Answer _) =
      dispatch config { e with executed := e.executed + 1 } i := by
  unfold step
  dsimp only
  rw [if_neg (Nat.not_lt.mpr h)]

theorem step_eq_throw {config : Config} {i : Instruction}
    (h : e.executed + 1 > config.maxInstructions) :
    (step config e i : Exec Answer _) =
      throw (.instructionLimitExceeded (e.executed + 1) config.maxInstructions) := by
  unfold step
  dsimp only
  rw [if_pos h]
  rfl

end Engine

end Backtrack
