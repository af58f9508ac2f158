import Backtrack.Proofs.Engine.Match
import Backtrack.Proofs.FrameStack

/-!
What an instruction can do.  `Transition` has one case for each way an
instruction can succeed: what the builder did, what became of the scope on top,
and how the stack of frames moved.  The input enters only by its units, whatever
has arrived of them.
-/

namespace Backtrack

namespace Engine

/-- What a terminal that succeeds does to the scope on top.  The tree stands at
`before` and then at `after`, and `units` is the whole input. -/
inductive Scope.Advances (units : List Symbol) (before after : BuildState) (scope : Scope) :
    Terminal → Scope → Prop
  | openNode {tag : OpenTag} {regions : Regions} :
      (if tag.nodeType.isSome then scope.regions.enter tag else (scope.regions, .ok ())) =
        (regions, .ok ()) →
      Advances units before after scope (.openNode tag)
        { scope with regions, language := tag.language.or scope.language }
  | closeRoot : after.segments = [] → scope.cursor.holding = false →
      units.length ≤ scope.cursor.offset → scope.regions.balanced = [] →
      Advances units before after scope .close scope
  | close {regions : Regions} : after.segments ≠ [] →
      (match ((before.segments.head?.bind (·.node)).map (·.tag)).filter (·.nodeType.isSome) with
        | none => (scope.regions, .ok ())
        | some tag => scope.regions.leave tag) = (regions, .ok ()) →
      Advances units before after scope .close { scope with regions }
  | literal {text : String} : Symbol.ofText text <+: units.drop scope.cursor.offset →
      (scope.cursor.holding = true → text = "") →
      Advances units before after scope (.literal text)
        { scope with cursor :=
            { scope.cursor with offset := scope.cursor.offset + text.length } }
  | gap : scope.cursor.holding = false → units[scope.cursor.offset]? = some .gap →
      Advances units before after scope .gap
        { scope with cursor := { scope.cursor with offset := scope.cursor.offset + 1 } }
  | unshift : scope.cursor.holding = true →
      Advances units before after scope .gap
        { scope with cursor := { scope.cursor with holding := false } }
  | shift : scope.cursor.holding = false →
      Advances units before after scope .shift
        { scope with cursor := { scope.cursor with holding := true } }
  | doctype {tag : DoctypeTag} : Advances units before after scope (.doctype tag) scope
  | reference {r : Reference} : Advances units before after scope (.reference r) scope
  | null : Advances units before after scope .null scope

def moved (e : Engine) (builder : Builder) (scope : Scope) : Engine :=
  { e with builder, frames := e.frames.modify fun _ => scope }

/-- What a repair that succeeds makes of the builder. -/
inductive Repaired (rejected : Path) (builder : Builder) : Builder → Prop
  | keep : (repairReference? builder rejected).filter (needsRepair builder) = none →
      Repaired rejected builder builder
  | null {r : Reference} {b₁ b₂ : Builder} {emitted₁ emitted₂ : Emitted} :
      (repairReference? builder rejected).filter (needsRepair builder) = some r →
      builder.advance (.reference r) = (b₁, .ok emitted₁) →
      b₁.advance .null = (b₂, .ok emitted₂) → Repaired rejected builder b₂

/-- What an instruction that succeeds does. -/
inductive Transition (units : List Symbol) (e : Engine) : Instruction → Engine → Prop
  | advance {t : Terminal} {builder : Builder} {emitted : Emitted} {scope : Scope} :
      e.builder.advance t = (builder, .ok emitted) →
      e.scope.Advances units e.builder.state builder.state t scope →
      Transition units e (.advance t) (e.moved builder scope)
  | test (p : Pattern) : Transition units e (.test p) e
  | getState : Transition units e .getState e
  | write {text : String} : Transition units e (.write text)
      { e with builder := (e.builder.write text).1 }
  | bindAttribute {key : String} {value : Value} {builder : Builder} {emitted : Emitted} :
      e.builder.bindAttribute key value = (builder, .ok emitted) →
      Transition units e (.bindAttribute key value) { e with builder }
  /-- A branch outside a node forgets the language. -/
  | branch {builder : Builder} {frames : FrameStack Scope} {frame : FrameId} :
      e.builder.branch = (builder, .ok ()) → e.frames.branch e.frame = .ok (frames, frame) →
      Transition units e .branch
        { e with
          builder
          frame
          frames :=
            if e.builder.node?.isSome then frames
            else frames.modify fun s => { s with language := none } }
  | accept {builder : Builder} {frames : FrameStack Scope} {frame : FrameId} :
      e.frame ≠ .root → e.builder.accept = (builder, .ok ()) →
      e.frames.accept e.frame = .ok (frames, frame) →
      Transition units e .accept { e with builder, frames, frame }
  | reject {builder repaired : Builder} {frames : FrameStack Scope} {frame : FrameId}
      {dropped : Scope} : e.frame ≠ .root → e.builder.reject = (builder, .ok ()) →
      e.frames.reject e.frame = .ok (frames, frame, dropped) →
      Repaired e.builder.path builder repaired →
      Transition units e .reject { e with builder := repaired, frames, frame }

/-! ## Parts of an instruction -/

variable {ω α : Type}

theorem yields_guard_iff {c : Prop} [Decidable c] {error : Error} {f : PUnit → Exec ω α}
    {x : Exec ω α} {a : α} {b b' : Buffer} :
    Yields (if c then throw error >>= f else x) b a b' ↔ ¬ c ∧ Yields x b a b' := by
  by_cases hc : c
  · simp only [hc, if_true, not_true, false_and, iff_false, yields_bind_iff]
    rintro ⟨_, _, hthrow, _⟩
    exact not_yields_throw hthrow
  · simp [hc]

theorem yields_look_iff {b b₁ b' : Buffer} :
    Yields (look : Exec ω Buffer) b b₁ b' ↔ b₁ = b ∧ b' = b := by
  rw [look, yields_lift_iff]
  constructor
  · exact Job.eq_of_look
  · rintro ⟨rfl, rfl⟩
    exact Job.runs_look _

theorem build_of_yields {e e' : Engine} {change : Builder → Builder × Except Error α} {a : α}
    {b b' : Buffer} (h : Yields (e.build change : Exec ω (α × Engine)) b (a, e') b') :
    ∃ builder, change e.builder = (builder, .ok a) ∧ e' = { e with builder } ∧ b' = b := by
  unfold build at h
  split at h
  · next builder x hchange =>
      obtain ⟨hpair, rfl⟩ := yields_pure_iff.mp h
      cases hpair
      exact ⟨builder, hchange, rfl, rfl⟩
  · exact absurd h not_yields_throw

theorem updateRegions_of_yields {e e' : Engine} {change : Regions → Regions × Except Error Unit}
    {b b' : Buffer} (h : Yields (e.updateRegions change : Exec ω Engine) b e' b') :
    ∃ regions, change e.scope.regions = (regions, .ok ()) ∧ e' = e.setRegions regions ∧
      b' = b := by
  unfold updateRegions at h
  split at h
  · next regions hchange =>
      obtain ⟨rfl, rfl⟩ := yields_pure_iff.mp h
      exact ⟨regions, hchange, rfl, rfl⟩
  · exact absurd h not_yields_throw

theorem prime_of_yields {c : Cursor} {b b₁ b' : Buffer}
    (h : Yields (prime c : Exec ω Buffer) b b₁ b') :
    b' = b₁ ∧ b₁.Reached (c.offset + 1) ∧ b₁.content = b.content := by
  rw [prime, yields_lift_iff] at h
  obtain ⟨rfl, hreached⟩ := Job.reached_of_fill h
  exact ⟨rfl, hreached, h.content_eq⟩

theorem setCursor_of_yields {e e' : Engine} {n : Nat} {b b' : Buffer}
    (h : Yields (e.advanceCursor n : Exec ω Engine) b e' b') :
    e' = e.setCursor { e.scope.cursor with offset := e.scope.cursor.offsetAfter b' n } ∧
      e.scope.cursor.offsetAfter b' n ≤ b'.size := by
  unfold advanceCursor at h
  obtain ⟨moved, b₁, hlift, hrest⟩ := yields_bind_iff.mp h
  obtain ⟨cursor, b₂, hmk, hpure⟩ := yields_bind_iff.mp hrest
  obtain ⟨hmoved, rfl⟩ := yields_mk_iff.mp hmk
  obtain ⟨rfl, rfl⟩ := yields_pure_iff.mp hpure
  obtain ⟨b₃, b₄, hawait, hdone⟩ := Job.runs_bind_iff.mp (yields_lift_iff.mp hlift)
  obtain ⟨rfl, _⟩ := Job.reached_of_await hawait
  obtain ⟨rfl, rfl⟩ := Job.runs_done_iff.mp hdone
  unfold Cursor.tryAdvance at hmoved
  split at hmoved
  · next hle =>
      cases hmoved
      exact ⟨rfl, hle⟩
  · split at hmoved <;> cases hmoved

theorem advanceCursor_of_yields {e e' : Engine} {n : Nat} {b b' : Buffer}
    (hn : n ≤ b.size - e.scope.cursor.offset)
    (h : Yields (e.advanceCursor n : Exec ω Engine) b e' b') :
    e' = e.setCursor { e.scope.cursor with offset := e.scope.cursor.offset + n } := by
  have hsize : b.size ≤ b'.size := Job.Runs.size_le h
  obtain ⟨rfl, _⟩ := setCursor_of_yields h
  rw [Cursor.offsetAfter_of_le (by omega)]

theorem moved_scope (e : Engine) (builder : Builder) :
    e.moved builder e.scope = { e with builder } := by
  have hself : (e.frames.modify fun _ => e.scope) = e.frames := FrameStack.modify_eq_self rfl
  rw [moved, hself]

theorem modifyScope_eq_moved (e : Engine) (builder : Builder) (f : Scope → Scope) :
    modifyScope { e with builder } f = e.moved builder (f e.scope) := by
  rw [modifyScope, moved, FrameStack.modify_const]
  rfl

theorem modifyScope_moved (e : Engine) (builder : Builder) (scope : Scope) (f : Scope → Scope) :
    (e.moved builder scope).modifyScope f = e.moved builder (f scope) := by
  simp only [modifyScope, moved, FrameStack.modify_modify]

/-! ## Terminals -/

def Advanced (units : List Symbol) (e : Engine) (t : Terminal) (emitted : Emitted)
    (e' : Engine) : Prop :=
  ∃ builder scope, e.builder.advance t = (builder, .ok emitted) ∧
    e.scope.Advances units e.builder.state builder.state t scope ∧ e' = e.moved builder scope

def enterLanguage (output : Emitted) (e : Engine) : Option String → Exec ω (Emitted × Engine)
  | none => pure (output, e)
  | some language => pure (output, e.modifyScope fun s => { s with language := some language })

theorem advanced_of_advanceOpen {e e' : Engine} {tag : OpenTag} {emitted : Emitted}
    {units : List Symbol} {b b' : Buffer}
    (h : Yields (e.advanceOpen tag : Exec ω _) b (emitted, e') b') :
    Advanced units e (.openNode tag) emitted e' := by
  unfold advanceOpen at h
  obtain ⟨⟨output, e₁⟩, b₁, hbuild, hrest⟩ := yields_bind_iff.mp h
  obtain ⟨builder, hadvance, rfl, rfl⟩ := build_of_yields hbuild
  -- The scope after the regions, before the language.
  have hregions : ∃ regions b₂,
      (if tag.nodeType.isSome then e.scope.regions.enter tag else (e.scope.regions, .ok ())) =
        (regions, .ok ()) ∧
      Yields (enterLanguage output (e.moved builder { e.scope with regions }) tag.language :
        Exec ω _) b₂ (emitted, e') b' := by
    dsimp only at hrest
    by_cases htyped : tag.nodeType.isSome = true
    · rw [if_pos htyped] at hrest ⊢
      obtain ⟨e₂, b₂, hupdate, hlanguage⟩ := yields_bind_iff.mp hrest
      obtain ⟨regions, henter, rfl, rfl⟩ := updateRegions_of_yields hupdate
      refine ⟨regions, b₂, henter, ?_⟩
      rw [← modifyScope_eq_moved e builder fun s => { s with regions }]
      exact hlanguage
    · rw [if_neg htyped] at hrest ⊢
      obtain ⟨e₂, b₂, hpure, hlanguage⟩ := yields_bind_iff.mp hrest
      obtain ⟨rfl, rfl⟩ := yields_pure_iff.mp hpure
      refine ⟨e.scope.regions, b₂, rfl, ?_⟩
      rw [moved_scope]
      exact hlanguage
  obtain ⟨regions, b₂, henter, hlanguage⟩ := hregions
  cases hl : tag.language with
  | none =>
      rw [hl] at hlanguage
      obtain ⟨hpair, _⟩ := yields_pure_iff.mp hlanguage
      cases hpair
      have hscope := @Scope.Advances.openNode units e.builder.state builder.state e.scope tag
        regions henter
      rw [hl, Option.none_or] at hscope
      exact ⟨builder, _, hadvance, hscope, rfl⟩
  | some language =>
      rw [hl] at hlanguage
      obtain ⟨hpair, _⟩ := yields_pure_iff.mp hlanguage
      cases hpair
      have hscope := @Scope.Advances.openNode units e.builder.state builder.state e.scope tag
        regions henter
      rw [hl, Option.some_or] at hscope
      exact ⟨builder, _, hadvance, hscope, modifyScope_moved _ _ _ _⟩

theorem finalize_of_yields {e : Engine} {b b' : Buffer}
    (h : Yields (e.finalize : Exec ω Unit) b () b') :
    e.scope.cursor.holding = false ∧ b.content.length ≤ e.scope.cursor.offset ∧
      e.scope.regions.balanced = [] := by
  unfold finalize at h
  obtain ⟨b₁, b₂, hprime, hrest⟩ := yields_bind_iff.mp h
  obtain ⟨rfl, _, hcontent⟩ := prime_of_yields hprime
  obtain ⟨hdone, hrest⟩ := yields_guard_iff.mp hrest
  obtain ⟨hholding, hoffset⟩ := Cursor.isDone_of_reached (by simpa using hdone)
  refine ⟨hholding, hcontent ▸ hoffset, ?_⟩
  by_cases hbalanced : e.scope.regions.balanced.isEmpty = true
  · exact List.isEmpty_iff.mp hbalanced
  · simp only [hbalanced] at hrest
    exact absurd hrest not_yields_throw

theorem path_isEmpty_iff {builder : Builder} :
    builder.path.isEmpty = true ↔ builder.state.segments = [] := by
  simp [Builder.path, Path.isEmpty]

theorem advanced_of_advanceClose {e e' : Engine} {emitted : Emitted} {b b' : Buffer}
    (h : Yields (e.advanceClose : Exec ω _) b (emitted, e') b') :
    Advanced b.content e .close emitted e' := by
  unfold advanceClose at h
  obtain ⟨⟨output, e₁⟩, b₁, hbuild, hrest⟩ := yields_bind_iff.mp h
  obtain ⟨builder, hadvance, rfl, rfl⟩ := build_of_yields hbuild
  dsimp only at hrest
  by_cases hempty : builder.path.isEmpty = true
  · rw [if_pos hempty] at hrest
    obtain ⟨_, b₂, hfinalize, hpure⟩ := yields_bind_iff.mp hrest
    obtain ⟨hpair, _⟩ := yields_pure_iff.mp hpure
    cases hpair
    obtain ⟨hholding, hoffset, hbalanced⟩ := finalize_of_yields hfinalize
    rw [path_isEmpty_iff] at hempty
    exact ⟨builder, e.scope, hadvance, .closeRoot hempty hholding hoffset hbalanced,
      (moved_scope e builder).symm⟩
  · rw [if_neg hempty] at hrest
    rw [path_isEmpty_iff] at hempty
    have hscope := fun regions =>
      @Scope.Advances.close b₁.content e.builder.state builder.state e.scope regions hempty
    cases hclosing : (e.builder.node?.map (·.tag)).filter (·.nodeType.isSome) with
    | none =>
        rw [hclosing] at hrest
        obtain ⟨hpair, _⟩ := yields_pure_iff.mp hrest
        cases hpair
        exact ⟨builder, e.scope, hadvance, hscope e.scope.regions (by
          rw [← Builder.node?, hclosing]),
          (moved_scope e builder).symm⟩
    | some tag =>
        rw [hclosing] at hrest
        obtain ⟨e₂, b₂, hupdate, hpure⟩ := yields_bind_iff.mp hrest
        obtain ⟨regions, hleave, rfl, rfl⟩ := updateRegions_of_yields hupdate
        obtain ⟨hpair, _⟩ := yields_pure_iff.mp hpure
        cases hpair
        exact ⟨builder, _, hadvance, hscope regions (by
          rw [← Builder.node?, hclosing]
          exact hleave),
          modifyScope_eq_moved e builder fun s => { s with regions }⟩

theorem advanced_of_advanceLiteral {config : Config} {e e' : Engine} {text : String}
    {emitted : Emitted} {b b' : Buffer}
    (h : Yields (advanceLiteral config e text : Exec ω _) b (emitted, e') b') :
    Advanced b.content e (.literal text) emitted e' := by
  unfold advanceLiteral at h
  obtain ⟨result, b₁, hmatch, hrest⟩ := yields_bind_iff.mp h
  obtain ⟨hcontent, _, hresult⟩ := matchAt_eq_of_runs (yields_lift_iff.mp hmatch)
  cases result with
  | none => exact absurd hrest not_yields_throw
  | some range =>
      obtain ⟨hlength, harrived, htext, hholding⟩ := literal_of_matchStart hresult.symm
      obtain ⟨e₁, b₂, hcursor, hbuild⟩ := yields_bind_iff.mp hrest
      obtain rfl := advanceCursor_of_yields (hlength ▸ harrived) hcursor
      obtain ⟨builder, hadvance, rfl, rfl⟩ := build_of_yields hbuild
      rw [hlength]
      rw [hcontent] at htext
      exact ⟨builder, _, hadvance, .literal htext hholding,
        modifyScope_eq_moved e builder fun s => { s with cursor := { e.scope.cursor with
          offset := e.scope.cursor.offset + text.length } }⟩

theorem advanced_of_advanceGap {e e' : Engine} {emitted : Emitted} {b b' : Buffer}
    (h : Yields (e.advanceGap : Exec ω _) b (emitted, e') b') :
    Advanced b.content e .gap emitted e' := by
  unfold advanceGap at h
  obtain ⟨b₁, b₂, hprime, hrest⟩ := yields_bind_iff.mp h
  obtain ⟨rfl, hreached, hcontent⟩ := prime_of_yields hprime
  obtain ⟨hahead, hmove⟩ := yields_guard_iff.mp hrest
  simp only [Bool.or_eq_true, not_or, Bool.not_eq_true, Option.isSome_eq_false_iff,
    Option.isNone_iff_eq_none] at hahead
  by_cases hholding : e.scope.cursor.holding = true
  · rw [if_pos hholding] at hmove
    obtain ⟨e₁, b₃, hset, hbuild⟩ := yields_bind_iff.mp hmove
    obtain ⟨cursor, b₄, hmk, hpure⟩ := yields_bind_iff.mp hset
    obtain ⟨hunshift, rfl⟩ := yields_mk_iff.mp hmk
    obtain ⟨rfl, rfl⟩ := yields_pure_iff.mp hpure
    obtain ⟨builder, hadvance, rfl, rfl⟩ := build_of_yields hbuild
    rw [Cursor.unshift, if_pos hholding] at hunshift
    cases hunshift
    exact ⟨builder, _, hadvance, .unshift hholding,
      modifyScope_eq_moved e builder fun s => { s with cursor := { e.scope.cursor with
        holding := false } }⟩
  · rw [if_neg hholding] at hmove
    rw [Bool.not_eq_true] at hholding
    obtain ⟨e₁, b₃, hcursor, hbuild⟩ := yields_bind_iff.mp hmove
    have hsize := Cursor.lt_size_of_not_done hreached hholding hahead.2
    obtain rfl := advanceCursor_of_yields (by omega) hcursor
    obtain ⟨builder, hadvance, rfl, rfl⟩ := build_of_yields hbuild
    have hgap := Cursor.gap_of_value_eq_none hreached hholding hahead.1 hahead.2
    rw [hcontent] at hgap
    exact ⟨builder, _, hadvance, .gap hholding hgap,
      modifyScope_eq_moved e builder fun s => { s with cursor := { e.scope.cursor with
        offset := e.scope.cursor.offset + 1 } }⟩

theorem advanced_of_advanceShift {e e' : Engine} {emitted : Emitted} {units : List Symbol}
    {b b' : Buffer} (h : Yields (e.advanceShift : Exec ω _) b (emitted, e') b') :
    Advanced units e .shift emitted e' := by
  unfold advanceShift at h
  obtain ⟨cursor, b₁, hmk, hbuild⟩ := yields_bind_iff.mp h
  obtain ⟨hshift, rfl⟩ := yields_mk_iff.mp hmk
  obtain ⟨builder, hadvance, rfl, rfl⟩ := build_of_yields hbuild
  unfold Cursor.shift at hshift
  split at hshift
  · cases hshift
  · next hholding =>
      cases hshift
      exact ⟨builder, _, hadvance, .shift (by simpa using hholding),
        modifyScope_eq_moved e builder fun s => { s with cursor := { e.scope.cursor with
          holding := true } }⟩

theorem advanced_of_build {e e' : Engine} {t : Terminal} {emitted : Emitted}
    {units : List Symbol} {b b' : Buffer}
    (hscope : ∀ state, e.scope.Advances units e.builder.state state t e.scope)
    (h : Yields (e.build (·.advance t) : Exec ω _) b (emitted, e') b') :
    Advanced units e t emitted e' := by
  obtain ⟨builder, hadvance, rfl, rfl⟩ := build_of_yields h
  exact ⟨builder, e.scope, hadvance, hscope builder.state, (moved_scope e builder).symm⟩

theorem advanced_of_yields {config : Config} {e e' : Engine} {t : Terminal} {emitted : Emitted}
    {b b' : Buffer} (h : Yields (advance config e t : Exec ω _) b (emitted, e') b') :
    Advanced b.content e t emitted e' := by
  cases t with
  | doctype tag => exact advanced_of_build (fun _ => .doctype) h
  | openNode tag => exact advanced_of_advanceOpen h
  | close => exact advanced_of_advanceClose h
  | literal text => exact advanced_of_advanceLiteral h
  | gap => exact advanced_of_advanceGap h
  | shift => exact advanced_of_advanceShift h
  | reference r => exact advanced_of_build (fun _ => .reference) h
  | null => exact advanced_of_build (fun _ => .null) h

/-! ## Frames -/

theorem transition_of_branch {config : Config} {e e' : Engine} {view : StateView}
    {units : List Symbol} {b b' : Buffer}
    (h : Yields (branch config e : Exec ω _) b (view, e') b') :
    Transition units e .branch e' := by
  unfold branch at h
  obtain ⟨_, hbranch⟩ := yields_guard_iff.mp h
  obtain ⟨⟨⟨⟩, e₁⟩, b₁, hbuild, hrest⟩ := yields_bind_iff.mp hbranch
  obtain ⟨builder, hbuilder, rfl, rfl⟩ := build_of_yields hbuild
  obtain ⟨⟨frames, frame⟩, b₂, hmk, hview⟩ := yields_bind_iff.mp hrest
  obtain ⟨hframes, rfl⟩ := yields_mk_iff.mp hmk
  obtain ⟨b₃, b₄, _, hpure⟩ := yields_bind_iff.mp hview
  obtain ⟨hpair, _⟩ := yields_pure_iff.mp hpure
  cases hpair
  have htransition : Transition units e .branch _ := .branch hbuilder hframes
  by_cases hnode : e.builder.node?.isSome = true
  · rw [if_pos hnode] at htransition ⊢
    exact htransition
  · rw [if_neg hnode] at htransition ⊢
    exact htransition

theorem transition_of_accept {e e' : Engine} {view : StateView} {units : List Symbol}
    {b b' : Buffer} (h : Yields (e.accept : Exec ω _) b (view, e') b') :
    Transition units e .accept e' := by
  unfold accept at h
  obtain ⟨hroot, haccept⟩ := yields_guard_iff.mp h
  obtain ⟨⟨⟨⟩, e₁⟩, b₁, hbuild, hrest⟩ := yields_bind_iff.mp haccept
  obtain ⟨builder, hbuilder, rfl, rfl⟩ := build_of_yields hbuild
  obtain ⟨⟨frames, frame⟩, b₂, hmk, hview⟩ := yields_bind_iff.mp hrest
  obtain ⟨hframes, rfl⟩ := yields_mk_iff.mp hmk
  obtain ⟨b₃, b₄, _, hpure⟩ := yields_bind_iff.mp hview
  obtain ⟨hpair, _⟩ := yields_pure_iff.mp hpure
  cases hpair
  exact .accept hroot hbuilder hframes

theorem repaired_of_yields {e e' : Engine} {rejected : Path} {b b' : Buffer}
    (h : Yields (e.repair rejected : Exec ω Engine) b e' b') :
    ∃ builder, Repaired rejected e.builder builder ∧ e' = { e with builder } := by
  unfold repair at h
  split at h
  · next hnone =>
      obtain ⟨rfl, rfl⟩ := yields_pure_iff.mp h
      exact ⟨_, .keep hnone, rfl⟩
  · next r hsome =>
      obtain ⟨⟨emitted₁, e₁⟩, b₁, hreference, hrest⟩ := yields_bind_iff.mp h
      obtain ⟨builder₁, hadvance₁, rfl, rfl⟩ := build_of_yields hreference
      obtain ⟨⟨emitted₂, e₂⟩, b₂, hnull, hpure⟩ := yields_bind_iff.mp hrest
      obtain ⟨builder₂, hadvance₂, rfl, rfl⟩ := build_of_yields hnull
      obtain ⟨rfl, rfl⟩ := yields_pure_iff.mp hpure
      exact ⟨builder₂, .null hsome hadvance₁ hadvance₂, rfl⟩

theorem transition_of_reject {e e' : Engine} {view : StateView} {units : List Symbol}
    {b b' : Buffer} (h : Yields (e.reject : Exec ω _) b (view, e') b') :
    Transition units e .reject e' := by
  unfold reject at h
  obtain ⟨hroot, hreject⟩ := yields_guard_iff.mp h
  obtain ⟨⟨⟨⟩, e₁⟩, b₁, hbuild, hrest⟩ := yields_bind_iff.mp hreject
  obtain ⟨builder, hbuilder, rfl, rfl⟩ := build_of_yields hbuild
  obtain ⟨⟨frames, frame, dropped⟩, b₂, hmk, hrepair⟩ := yields_bind_iff.mp hrest
  obtain ⟨hframes, rfl⟩ := yields_mk_iff.mp hmk
  obtain ⟨e₂, b₃, hyields, hview⟩ := yields_bind_iff.mp hrepair
  obtain ⟨repaired, hrepaired, rfl⟩ := repaired_of_yields hyields
  obtain ⟨b₄, b₅, _, hpure⟩ := yields_bind_iff.mp hview
  obtain ⟨hpair, _⟩ := yields_pure_iff.mp hpure
  cases hpair
  exact .reject hroot hbuilder hframes hrepaired

/-- An instruction that succeeds is one of the cases of `Transition`. -/
theorem transition_of_dispatch {config : Config} {e e' : Engine} {i : Instruction}
    {answer : Answer} {b b' : Buffer}
    (h : Yields (dispatch config e i : Exec ω _) b (answer, e') b') :
    Transition b.content e i e' := by
  cases i with
  | advance t =>
      obtain ⟨⟨emitted, e₁⟩, b₁, hadvance, hpure⟩ := yields_bind_iff.mp h
      obtain ⟨hpair, _⟩ := yields_pure_iff.mp hpure
      cases hpair
      obtain ⟨builder, scope, hbuilder, hscope, rfl⟩ := advanced_of_yields hadvance
      exact .advance hbuilder hscope
  | test p =>
      obtain ⟨result, b₁, _, hpure⟩ := yields_bind_iff.mp h
      cases result with
      | none =>
          obtain ⟨hpair, _⟩ := yields_pure_iff.mp hpure
          cases hpair
          exact .test p
      | some range =>
          obtain ⟨hpair, _⟩ := yields_pure_iff.mp hpure
          cases hpair
          exact .test p
  | branch =>
      obtain ⟨⟨view, e₁⟩, b₁, hbranch, hpure⟩ := yields_bind_iff.mp h
      obtain ⟨hpair, _⟩ := yields_pure_iff.mp hpure
      cases hpair
      exact transition_of_branch hbranch
  | accept =>
      obtain ⟨⟨view, e₁⟩, b₁, haccept, hpure⟩ := yields_bind_iff.mp h
      obtain ⟨hpair, _⟩ := yields_pure_iff.mp hpure
      cases hpair
      exact transition_of_accept haccept
  | reject =>
      obtain ⟨⟨view, e₁⟩, b₁, hreject, hpure⟩ := yields_bind_iff.mp h
      obtain ⟨hpair, _⟩ := yields_pure_iff.mp hpure
      cases hpair
      exact transition_of_reject hreject
  | write text =>
      obtain ⟨⟨emitted, e₁⟩, b₁, hbuild, hpure⟩ := yields_bind_iff.mp h
      obtain ⟨hpair, _⟩ := yields_pure_iff.mp hpure
      cases hpair
      obtain ⟨builder, hwrite, rfl, rfl⟩ := build_of_yields hbuild
      rw [show builder = (e.builder.write text).1 from (congrArg Prod.fst hwrite).symm]
      exact .write
  | bindAttribute key value =>
      obtain ⟨⟨emitted, e₁⟩, b₁, hbuild, hpure⟩ := yields_bind_iff.mp h
      obtain ⟨hpair, _⟩ := yields_pure_iff.mp hpure
      cases hpair
      obtain ⟨builder, hbind, rfl, rfl⟩ := build_of_yields hbuild
      exact .bindAttribute hbind
  | getState =>
      obtain ⟨b₁, b₂, _, hpure⟩ := yields_bind_iff.mp h
      obtain ⟨hpair, _⟩ := yields_pure_iff.mp hpure
      cases hpair
      exact .getState
  | unknown verb => exact absurd h not_yields_throw

theorem transition_of_step {config : Config} {e e' : Engine} {i : Instruction} {answer : Answer}
    {b b' : Buffer} (h : Yields (step config e i : Exec ω _) b (answer, e') b') :
    Transition b.content { e with executed := e.executed + 1 } i e' := by
  unfold step at h
  obtain ⟨_, hdispatch⟩ := yields_guard_iff.mp h
  exact transition_of_dispatch hdispatch

end Engine

end Backtrack
