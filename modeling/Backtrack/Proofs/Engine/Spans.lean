import Backtrack.Proofs.Builder.OpenTags
import Backtrack.Proofs.Engine.Failure
import Backtrack.Proofs.Engine.Rejection
import Backtrack.Proofs.Region

/-!
Spans are accounted for.  As long as no attribute changes what an open node says of its
span, every span but the outermost belongs to an open node or to a construct that waits
for its closer, in every frame that a rejection could bring back.  No run then ends a
span that is not there, and a closer is refused exactly when nothing waits for it.
-/

namespace Backtrack

def Instruction.setsSpan : Instruction → Bool
  | .bindAttribute key _ => key == "span"
  | _ => false

def Error.ofRegions : Error → Bool
  | .spanUnderflow => true
  | .unexpectedCloser _ => true
  | _ => false

/-! ## Nodes and their spans -/

namespace Regions

variable {r r' : Regions} {tag : OpenTag} {n : Nat}

theorem Counts.openNode (h : r.Counts n)
    (hentered : (if tag.nodeType.isSome then r.enter tag else (r, .ok ())) = (r', .ok ())) :
    r'.Counts (n + if tag.beginsSpan then 1 else 0) := by
  unfold OpenTag.beginsSpan
  by_cases htyped : tag.nodeType.isSome = true
  · rw [if_pos htyped] at hentered
    rw [htyped, Bool.true_and]
    exact h.enter hentered
  · rw [if_neg htyped] at hentered
    cases hentered
    rw [Bool.not_eq_true] at htyped
    rw [htyped, Bool.false_and]
    exact h

theorem Counts.closeNode (h : r.Counts (n + if tag.beginsSpan then 1 else 0))
    (hleft : (match (some tag).filter (·.nodeType.isSome) with
      | none => (r, .ok ())
      | some tag => r.leave tag) = (r', .ok ())) : r'.Counts n := by
  unfold OpenTag.beginsSpan at h
  by_cases htyped : tag.nodeType.isSome = true
  · rw [Option.filter_some, if_pos htyped] at hleft
    rw [htyped, Bool.true_and] at h
    exact h.leave hleft
  · rw [Option.filter_some, if_neg htyped] at hleft
    cases hleft
    rw [Bool.not_eq_true] at htyped
    rw [htyped, Bool.false_and] at h
    exact h

end Regions

namespace BuildState

def spanNodes (s : BuildState) : Nat := s.openTags.countP OpenTag.beginsSpan

theorem Change.root_eq_none {id : PathId} {s s' : BuildState} {t : Terminal} {undo : Undo}
    (h : Change id s t s' undo) (hroot : s'.root = none) : s.root = none := by
  cases h with
  | closeRoot _ _ => cases hroot
  | _ => exact hroot

theorem spanNodes_of_bindAttribute {s s' : BuildState} {key : String} {value : Value}
    {undo : Undo} (hkey : key ≠ "span") (h : s.bindAttribute key value = .ok (s', undo)) :
    s'.spanNodes = s.spanNodes := by
  obtain ⟨tag, tags, htags, htags'⟩ := openTags_of_bindAttribute h
  rw [spanNodes, spanNodes, htags, htags', List.countP_cons, List.countP_cons, OpenTag.beginsSpan,
    OpenTag.beginsSpan, Attributes.text?_insert_of_ne _ _ hkey.symm]

end BuildState

theorem Builder.ofRegions_finish {b : Builder} {error : Error} (h : b.finish = .error error) :
    error.ofRegions = false := by
  unfold finish at h
  split at h
  · split at h <;> cases h
    rfl
  · cases h
    rfl

namespace Engine

/-! ## Every level -/

/-- Until the root is closed, the spans of a level are the outermost one, those of the
open nodes and those of the constructs. -/
def Level.Accounted (level : Level) : Prop :=
  level.state.root = none → level.scope.regions.Counts (1 + level.state.spanNodes)

theorem Level.Accounted.advance {units : List Symbol} {t : Terminal} {id : PathId}
    {scope scope' : Scope} {s s' : BuildState} {undo : Undo} (h : Level.Accounted ⟨scope, s⟩)
    (hchange : BuildState.Change id s t s' undo)
    (hscope : scope.Advances units s { s' with last := some t } t scope') :
    Level.Accounted ⟨scope', { s' with last := some t }⟩ := by
  intro hroot
  have hcounts := h (hchange.root_eq_none hroot)
  have htags := hchange.openTags_eq
  show scope'.regions.Counts (1 + s'.openTags.countP OpenTag.beginsSpan)
  rw [htags]
  cases hscope with
  | openNode hentered =>
      rw [Terminal.onTags, List.countP_cons, ← Nat.add_assoc]
      exact hcounts.openNode hentered
  | closeRoot hnil _ _ _ =>
      cases hchange with
      | closeRoot _ _ => cases hroot
      | close _ _ _ _ _ => cases hnil
  | close hinner hleft =>
      cases hchange with
      | closeRoot _ _ => cases hroot
      | close hsegments hnode _ _ _ =>
          rw [hsegments, List.head?_cons, Option.bind_some, hnode, Option.map_some] at hleft
          rw [BuildState.spanNodes, BuildState.openTags_eq_cons hsegments hnode,
            List.countP_cons, ← Nat.add_assoc] at hcounts
          rw [Terminal.onTags, BuildState.openTags_eq_cons hsegments hnode]
          exact hcounts.closeNode hleft
  | _ => exact hcounts

theorem Level.Step.accounted {units : List Symbol} {i : Instruction} {levels levels' : List Level}
    (h : Step units i levels levels') (hspan : i.setsSpan = false)
    (hlevels : ∀ level ∈ levels, level.Accounted) : ∀ level ∈ levels', level.Accounted := by
  refine h.forall_mem Level.Accounted (fun _ _ => True) (fun hlevel _ => hlevel.advance)
    (fun _ => ⟨trivial, fun _ => trivial⟩) (fun _ hlevel => hlevel) ?_ (fun hlevel => hlevel)
    (fun _ _ _ _ _ => trivial) hlevels
  rintro key value scope s s' undo rfl hlevel hbind hroot
  have hkey : key ≠ "span" := by simpa [Instruction.setsSpan] using hspan
  rw [BuildState.spanNodes_of_bindAttribute hkey hbind]
  obtain ⟨segment, n, rest, _, _, rfl, _⟩ := BuildState.bindAttribute_eq_ok hbind
  exact hlevel hroot

theorem accounted_of_steps {config : Config} {e e' : Engine} {b b' : Buffer}
    {instructions : List Instruction} {levels : List Level} (hstands : e.Stands levels)
    (hlevels : ∀ level ∈ levels, level.Accounted)
    (hsteps : Steps config e b instructions e' b')
    (hspan : ∀ i ∈ instructions, i.setsSpan = false) :
    ∃ levels', e'.Stands levels' ∧ ∀ level ∈ levels', level.Accounted := by
  induction hsteps generalizing levels with
  | nil => exact ⟨levels, hstands, hlevels⟩
  | cons hstep _ ih =>
      obtain ⟨levels₁, hlevel, hstands₁⟩ := hstands.of_step hstep
      rw [List.forall_mem_cons] at hspan
      exact ih hstands₁ (hlevel.accounted hspan.1 hlevels) hspan.2

/-! ## Refusals -/

/-- The regions refuse the instruction: the node that it opens or closes has an effect
that they cannot have. -/
inductive Refused (builder : Builder) (regions : Regions) : Instruction → Error → Prop
  | enter {tag : OpenTag} {builder' : Builder} {emitted : Emitted} {error : Error} :
      builder.advance (.openNode tag) = (builder', .ok emitted) → tag.nodeType.isSome = true →
      (regions.enter tag).2 = .error error →
      Refused builder regions (.advance (.openNode tag)) error
  | leave {tag : OpenTag} {builder' : Builder} {emitted : Emitted} {error : Error} :
      builder.advance .close = (builder', .ok emitted) → builder'.path.isEmpty = false →
      (builder.node?.map (·.tag)).filter (·.nodeType.isSome) = some tag →
      (regions.leave tag).2 = .error error → Refused builder regions (.advance .close) error

section Calm

variable {ω α : Type}

abbrev Calm (x : Exec ω α) (b : Buffer) : Prop :=
  FailsOnly (fun error => error.ofRegions = false) x b

theorem calm_build_advance (e : Engine) (t : Terminal) (b : Buffer) :
    Calm (e.build (·.advance t) : Exec ω (Emitted × Engine)) b := by
  refine failsOnly_build b ?_
  intro error herror
  rw [Builder.advance_eq] at herror
  split at herror
  · cases herror
    rfl
  · cases herror

theorem calm_build_bindAttribute (e : Engine) (key : String) (value : Value) (b : Buffer) :
    Calm (e.build (·.bindAttribute key value) : Exec ω (Emitted × Engine)) b := by
  refine failsOnly_build b ?_
  intro error herror
  unfold Builder.bindAttribute at herror
  split at herror
  · cases herror
    rfl
  · cases herror

theorem calm_liftSource {result : Except SourceError α} (b : Buffer) :
    Calm (ExceptT.mk (pure (liftSource result)) : Exec ω α) b := by
  refine failsOnly_mk b ?_
  intro error herror
  cases result with
  | ok a => cases herror
  | error e =>
      cases herror
      rfl

theorem calm_advanceCursor (e : Engine) (n : Nat) (b : Buffer) :
    Calm (e.advanceCursor n : Exec ω Engine) b :=
  (failsOnly_lift _ b).bind fun _ b₁ _ =>
    (calm_liftSource b₁).bind fun _ b₂ _ => failsOnly_pure _ b₂

theorem calm_advanceLiteral (config : Config) (e : Engine) (text : String) (b : Buffer) :
    Calm (advanceLiteral config e text : Exec ω (Emitted × Engine)) b := by
  refine (failsOnly_lift _ b).bind ?_
  intro found b₁ _
  cases found with
  | none => exact failsOnly_throw b₁ rfl
  | some range =>
      exact (calm_advanceCursor e range.length b₁).bind fun e₁ b₂ _ =>
        calm_build_advance e₁ (.literal text) b₂

theorem calm_advanceGap (e : Engine) (b : Buffer) :
    Calm (e.advanceGap : Exec ω (Emitted × Engine)) b := by
  refine (failsOnly_lift _ b).bind ?_
  intro b₁ b₂ _
  refine failsOnly_guard rfl fun _ => ?_
  split
  · have hset : Calm (e.setCursor <$> ExceptT.mk (pure (liftSource e.scope.cursor.unshift)) :
        Exec ω Engine) b₂ :=
      FailsOnly.bind (calm_liftSource b₂) fun _ b₃ _ => failsOnly_pure _ b₃
    exact hset.bind fun e₁ b₃ _ => calm_build_advance e₁ .gap b₃
  · exact (calm_advanceCursor e 1 b₂).bind fun e₁ b₃ _ => calm_build_advance e₁ .gap b₃

theorem calm_advanceShift (e : Engine) (b : Buffer) :
    Calm (e.advanceShift : Exec ω (Emitted × Engine)) b :=
  FailsOnly.bind (calm_liftSource b) fun _ b₁ _ => calm_build_advance _ .shift b₁

theorem FailsOnly.of_calm {x : Exec ω α} {b : Buffer} (h : Calm x b) (Q : Error → Prop) :
    FailsOnly (fun error => error.ofRegions = true → Q error) x b := by
  intro error b' hfails hregions
  rw [h error b' hfails] at hregions
  cases hregions

end Calm

theorem refused_of_advance (config : Config) (e : Engine) (t : Terminal) (b : Buffer) :
    FailsOnly (fun error => error.ofRegions = true →
      Refused e.builder e.scope.regions (.advance t) error)
      (advance config e t : Exec Answer (Emitted × Engine)) b := by
  cases t with
  | openNode tag =>
      refine failsOnly_advanceOpen b (.of_calm (calm_build_advance e _ b) _) ?_
      intro builder emitted error hadvance htyped henter _
      exact .enter hadvance htyped henter
  | close =>
      refine failsOnly_advanceClose b (.of_calm (calm_build_advance e _ b) _) nofun
        (fun _ => nofun) ?_
      intro builder emitted tag error hadvance hinner hclosing hleave _
      exact .leave hadvance hinner hclosing hleave
  | literal text => exact .of_calm (calm_advanceLiteral config e text b) _
  | gap => exact .of_calm (calm_advanceGap e b) _
  | shift => exact .of_calm (calm_advanceShift e b) _
  | doctype tag => exact .of_calm (calm_build_advance e _ b) _
  | reference r => exact .of_calm (calm_build_advance e _ b) _
  | null => exact .of_calm (calm_build_advance e _ b) _

/-- Only nodes that are opened or closed fail for the regions. -/
theorem refused_of_step (config : Config) {e : Engine} {levels : List Level} (h : e.Stands levels)
    (i : Instruction) (b : Buffer) :
    FailsOnly (fun error => error.ofRegions = true →
      e.executed < config.maxInstructions ∧ Refused e.builder e.scope.regions i error)
      (step config e i : Exec Answer (Answer × Engine)) b := by
  refine failsOnly_guard nofun fun hlimit => ?_
  have hlimit : e.executed < config.maxInstructions := by omega
  have hcounted := h.executed (e.executed + 1)
  have hcalm : ∀ {x : Exec Answer (Answer × Engine)}, Calm x b → FailsOnly (fun error =>
      error.ofRegions = true →
      e.executed < config.maxInstructions ∧ Refused e.builder e.scope.regions i error) x b :=
    fun hx => .of_calm hx _
  cases i with
  | advance t =>
      refine FailsOnly.bind ?_ fun _ b₁ _ => failsOnly_pure _ b₁
      intro error b' hfails hregions
      exact ⟨hlimit, refused_of_advance config { e with executed := e.executed + 1 } t b error b'
        hfails hregions⟩
  | test p =>
      refine hcalm ((failsOnly_lift _ b).bind ?_)
      intro found b₁ _
      cases found with
      | none => exact failsOnly_pure _ b₁
      | some range => exact failsOnly_pure _ b₁
  | branch =>
      exact hcalm ((failsOnly_branch config b hcounted fun _ _ => rfl).bind
        fun _ b₁ _ => failsOnly_pure _ b₁)
  | accept =>
      have hroot : Error.acceptedRoot.ofRegions = false := rfl
      exact hcalm ((failsOnly_accept b hcounted hroot).bind fun _ b₁ _ => failsOnly_pure _ b₁)
  | reject =>
      have hroot : Error.rejectedRoot.ofRegions = false := rfl
      exact hcalm ((failsOnly_reject b hcounted hroot
        (fun e r b => calm_build_advance e (.reference r) b)
        (fun e b => calm_build_advance e .null b)).bind fun _ b₁ _ => failsOnly_pure _ b₁)
  | write text =>
      exact hcalm ((failsOnly_build_ok b ⟨_, rfl⟩).bind fun _ b₁ _ => failsOnly_pure _ b₁)
  | bindAttribute key value =>
      exact hcalm ((calm_build_bindAttribute _ key value b).bind
        fun _ b₁ _ => failsOnly_pure _ b₁)
  | getState => exact hcalm ((failsOnly_lift _ b).bind fun _ b₁ _ => failsOnly_pure _ b₁)
  | unknown verb => exact hcalm (failsOnly_throw b rfl)

theorem fails_updateRegions {e : Engine} {change : Regions → Regions × Except Error Unit}
    {error : Error} (h : (change e.scope.regions).2 = .error error) (b : Buffer) :
    Fails (e.updateRegions change : Exec Answer Engine) b error b := by
  rcases hchange : change e.scope.regions with ⟨regions, result⟩
  rw [hchange] at h
  obtain rfl : result = .error error := h
  rw [updateRegions, hchange]
  exact fails_throw error b

theorem fails_step_openNode {config : Config} {e : Engine} {tag : OpenTag} {builder : Builder}
    {emitted : Emitted} {error : Error} (hlimit : e.executed < config.maxInstructions)
    (hadvance : e.builder.advance (.openNode tag) = (builder, .ok emitted))
    (htyped : tag.nodeType.isSome = true)
    (henter : (e.scope.regions.enter tag).2 = .error error) (b : Buffer) :
    Fails (step config e (.advance (.openNode tag)) : Exec Answer _) b error b := by
  refine fails_step hlimit (Fails.bind ?_ _)
  have hbuild := @yields_build Answer _ { e with executed := e.executed + 1 }
    (·.advance (.openNode tag)) builder emitted hadvance b
  refine Yields.bind_fails hbuild ?_
  dsimp only
  rw [if_pos htyped]
  exact (fails_updateRegions henter b).bind _

/-! ## No span is missing -/

/-- A node is opened or closed only before the root is closed. -/
theorem root_eq_none_of_refused {builder : Builder} {regions : Regions} {i : Instruction}
    {error : Error} (hshaped : builder.state.Shaped) (h : Refused builder regions i error) :
    builder.state.root = none := by
  cases h with
  | enter hadvance _ _ =>
      obtain ⟨s, undo, hchange, _⟩ := Builder.state_of_advance_eq_ok hadvance
      cases hchange with
      | openRoot _ hroot _ => exact hroot
      | openPending _ hsegments _ => exact hshaped.root_eq_none hsegments
  | leave hadvance _ _ _ =>
      obtain ⟨s, undo, hchange, _⟩ := Builder.state_of_advance_eq_ok hadvance
      cases hchange with
      | closeRoot hsegments _ => exact hshaped.root_eq_none hsegments
      | close hsegments _ _ _ _ => exact hshaped.root_eq_none hsegments

/-- What is accounted for can be ended. -/
theorem Level.Accounted.ne_underflow {builder : Builder} {scope : Scope} {i : Instruction}
    {error : Error} (h : Level.Accounted ⟨scope, builder.state⟩) (hshaped : builder.state.Shaped)
    (hrefused : Refused builder scope.regions i error) : error ≠ .spanUnderflow := by
  have hcounts := h (root_eq_none_of_refused hshaped hrefused)
  rw [Nat.add_comm] at hcounts
  rintro rfl
  cases hrefused with
  | enter _ _ henter => exact hcounts.enter_ne_underflow _ henter
  | @leave tag _ _ _ _ _ hclosing hleave =>
      obtain ⟨hnode, htyped⟩ := Option.filter_eq_some_iff.mp hclosing
      obtain ⟨n, hn, rfl⟩ := Option.map_eq_some_iff.mp hnode
      obtain ⟨segment, rest, hsegments, hsegment⟩ := Builder.openTop?_of_node? hn
      dsimp only at hcounts
      rw [BuildState.spanNodes, BuildState.openTags_eq_cons hsegments hsegment,
        List.countP_cons, OpenTag.beginsSpan, htyped, Bool.true_and, Nat.add_right_comm] at hcounts
      rw [hcounts.leave_eq_ok] at hleave
      cases hleave

/-- A closer is unexpected exactly if a node that ends a construct is opened while no
construct waits for its closer. -/
theorem fails_unexpectedCloser_iff {config : Config} {e : Engine} {levels : List Level}
    (h : e.Stands levels) (i : Instruction) (name : String) (b : Buffer) :
    (∃ b', Fails (step config e i : Exec Answer _) b (.unexpectedCloser name) b') ↔
      e.executed < config.maxInstructions ∧ ∃ tag emitted, i = .advance (.openNode tag) ∧
        (e.builder.advance (.openNode tag)).2 = .ok emitted ∧ tag.nodeType = some name ∧
        tag.isBalancer = true ∧ e.scope.regions.balanced = [] := by
  constructor
  · rintro ⟨b', hfails⟩
    obtain ⟨hlimit, hrefused⟩ := refused_of_step config h i b _ b' hfails rfl
    cases hrefused with
    | @enter tag builder emitted _ hadvance htyped henter =>
        obtain ⟨hbalancer, hnil, rfl⟩ := Regions.enter_eq_unexpectedCloser_iff.mp henter
        obtain ⟨type, htype⟩ := Option.isSome_iff_exists.mp htyped
        refine ⟨hlimit, tag, emitted, rfl, by rw [hadvance], ?_, hbalancer, hnil⟩
        rw [OpenTag.typeName, htype]
        rfl
    | leave _ _ _ hleave => cases Regions.error_of_leave hleave
  · rintro ⟨hlimit, tag, emitted, rfl, hadvance, htype, hbalancer, hnil⟩
    rcases hbuilder : e.builder.advance (.openNode tag) with ⟨builder, result⟩
    rw [hbuilder] at hadvance
    obtain rfl : result = .ok emitted := hadvance
    have hname : name = tag.typeName := by
      rw [OpenTag.typeName, htype]
      rfl
    exact ⟨b, fails_step_openNode hlimit hbuilder (by rw [htype]; rfl)
      (Regions.enter_eq_unexpectedCloser_iff.mpr ⟨hbalancer, hnil, hname⟩) b⟩

/-! ## Runs -/

theorem ne_underflow_of_traceFrom {config : Config} {strategy : Strategy Unit} {e : Engine}
    {b b' : Buffer} {traced : List (Engine × Instruction)} {ended : Except Error Engine}
    {levels : List Level} (hruns : (traceFrom config strategy e).Runs b (traced, ended) b')
    (hstands : e.Stands levels) (hlevels : ∀ level ∈ levels, level.Accounted)
    (hspan : ∀ found ∈ traced, found.2.setsSpan = false) : ended ≠ .error .spanUnderflow := by
  induction strategy generalizing e b traced levels with
  | done a =>
      cases (Job.runs_done_iff.mp hruns).1
      nofun
  | pause rest ih =>
      cases hruns with
      | pause hrest => exact ih hrest hstands hlevels hspan
  | ask i rest ih =>
      rw [traceFrom] at hruns
      obtain ⟨result, b₁, hstep, hrest⟩ := Job.runs_bind_iff.mp hruns
      cases result with
      | error error =>
          cases (Job.runs_done_iff.mp hrest).1
          rintro ⟨⟩
          -- The top level is accounted for, so the regions had no reason to refuse.
          obtain ⟨_, hrefused⟩ := refused_of_step config hstands i b _ _ hstep rfl
          obtain ⟨below, rfl⟩ := hstands.exists_cons
          exact Level.Accounted.ne_underflow (hlevels _ List.mem_cons_self)
            hstands.builder.shaped hrefused rfl
      | ok pair =>
          obtain ⟨answer, e₁⟩ := pair
          obtain ⟨levels₁, hlevel, hstands₁⟩ := hstands.of_step hstep
          cases hrest with
          | emit hrest =>
              obtain ⟨⟨traced₁, ended₁⟩, b₂, htail, hdone⟩ := Job.runs_bind_iff.mp hrest
              obtain ⟨hpair, rfl⟩ := Job.runs_done_iff.mp hdone
              cases hpair
              rw [List.forall_mem_cons] at hspan
              exact ih answer htail hstands₁ (hlevel.accounted hspan.1 hlevels) hspan.2

/-- The instructions that a run carried out, with the one that it failed at. -/
def performed (config : Config) (strategy : Strategy Unit) (polls : Nat) (input : Buffer) :
    List Instruction :=
  (((trace config strategy).drive polls input).result.map fun traced =>
    traced.1.map Prod.snd).getD []

theorem accounted_start (config : Config) :
    ∀ level ∈ [Level.mk { regions := .ofName config.initialSpan } {}], level.Accounted := by
  rw [List.forall_mem_singleton]
  exact fun _ => Regions.counts_ofName _

theorem ne_underflow_of_run {config : Config} {strategy : Strategy Unit} {polls : Nat}
    {input : Buffer} (hspan : ∀ i ∈ performed config strategy polls input, i.setsSpan = false) :
    ((run config strategy).drive polls input).result ≠ some (.error .spanUnderflow) := by
  rw [result_run]
  intro hrun
  obtain ⟨⟨traced, ended⟩, htrace, hended⟩ := Option.map_eq_some_iff.mp hrun
  rw [performed, htrace] at hspan
  obtain ⟨b', hruns⟩ := Job.runs_of_drive htrace
  obtain ⟨b₁, _, hruns⟩ := Job.runs_fill_iff.mp hruns
  refine ne_underflow_of_traceFrom hruns (stands_start config) (accounted_start config) ?_ ?_
  · intro found hfound
    exact hspan found.2 (List.mem_map_of_mem hfound)
  · cases ended with
    | error error =>
        cases hended
        rfl
    | ok e => cases hended

/-- In a run that sets no attribute named `span`, every span but the outermost is that of
an open node or of a construct, as long as the root is not closed; no such run ends a span
that is not there; and a closer is unexpected exactly if no construct waits for one. -/
theorem spans_accounted :
    (∀ (config : Config) (input b₀ b : Buffer) (e : Engine) (instructions : List Instruction),
      (Job.await 1 : Job Answer Buffer).Runs input b₀ b₀ →
      Steps config (start config) b₀ instructions e b →
      (∀ i ∈ instructions, i.setsSpan = false) → e.builder.state.root = none →
      e.scope.regions.spans.size =
        1 + e.builder.state.openTags.countP OpenTag.beginsSpan +
          e.scope.regions.balanced.countP (·.pushedSpan)) ∧
    (∀ (config : Config) (strategy : Strategy Unit) (polls : Nat) (input : Buffer),
      (∀ i ∈ performed config strategy polls input, i.setsSpan = false) →
      (parse config strategy input polls).result ≠ some (.error .spanUnderflow)) ∧
    ∀ (config : Config) (input b : Buffer) (e : Engine), Reachable config input e b →
      ∀ (i : Instruction) (name : String),
        (∃ b', Fails (step config e i : Exec Answer _) b (.unexpectedCloser name) b') ↔
          e.executed < config.maxInstructions ∧ ∃ tag emitted, i = .advance (.openNode tag) ∧
            (e.builder.advance (.openNode tag)).2 = .ok emitted ∧ tag.nodeType = some name ∧
            tag.isBalancer = true ∧ e.scope.regions.balanced = [] := by
  refine ⟨?_, ?_, ?_⟩
  · intro config input b₀ b e instructions _ hsteps hspan hroot
    obtain ⟨levels, hstands, hlevels⟩ :=
      accounted_of_steps (stands_start config) (accounted_start config) hsteps hspan
    obtain ⟨below, rfl⟩ := hstands.exists_cons
    exact hlevels _ List.mem_cons_self hroot
  · intro config strategy polls input hspan hparse
    obtain ⟨built, hrun, hfinish⟩ := Option.map_eq_some_iff.mp hparse
    cases built with
    | error error =>
        cases hfinish
        exact ne_underflow_of_run hspan hrun
    | ok builder => cases Builder.ofRegions_finish hfinish
  · intro config input b e hreachable i name
    obtain ⟨levels, hstands⟩ := hreachable.exists_stands
    exact fails_unexpectedCloser_iff hstands i name b

def brackets : OpenTag :=
  ((OpenTag.typed "Brackets").withAttribute "balanced" (.text "]")).withAttribute
    "balancedSpan" (.text "Inside")

def closer : OpenTag := (OpenTag.typed "Closer").withAttribute "balancer" (.bool true)

def quotation : OpenTag := (OpenTag.typed "Quotation").withAttribute "span" (.text "Quoted")

/-- Opens a quotation inside of brackets, and takes back an attempt that opened another
one. -/
def quotationTried : List Instruction :=
  [.advance (.openNode (.typed "Root")), .advance (.reference { name := "a" }),
    .advance (.openNode brackets), .advance (.reference { name := "b" }),
    .advance (.openNode quotation), .branch, .bindAttribute "mark" (.text "'"),
    .advance (.reference { name := "c" }), .advance (.openNode quotation), .reject]

/-- The quotation and the brackets have a span each.  Without the brackets, the node that
ends them is refused. -/
theorem spans_accounted_quotationTried :
    (∃ (b₀ b : Buffer) (e : Engine), (Job.await 1 : Job Answer Buffer).Runs (.ofText "") b₀ b₀ ∧
      Steps {} (start {}) b₀ quotationTried e b ∧
      (∀ i ∈ quotationTried, i.setsSpan = false) ∧ e.builder.state.root = none ∧
      e.builder.state.openTags.countP OpenTag.beginsSpan = 1 ∧
      e.scope.regions.balanced.countP (·.pushedSpan) = 1 ∧ e.scope.regions.spans.size = 3) ∧
    ((∀ i ∈ performed {} (.ofInstructions quotationTried) 1 (.ofText ""), i.setsSpan = false) ∧
      performed {} (.ofInstructions quotationTried) 1 (.ofText "") ≠ [] ∧
      (parse {} (.ofInstructions quotationTried) (.ofText "") 1).result ≠
        some (.error .spanUnderflow)) ∧
    Reachable {} (.ofText "") (start {}) (.ofText "") ∧
      ∃ b', Fails (step {} (start {}) (.advance (.openNode closer)) : Exec Answer _)
        (.ofText "") (.unexpectedCloser "Closer") b' := by
  refine ⟨?_, ⟨by decide +kernel, by decide +kernel,
    spans_accounted.2.1 {} (.ofInstructions quotationTried) 1 (.ofText "") (by decide +kernel)⟩, ?_⟩
  · have hfacts : (Buffer.fill (.ofText "") 1).2 = true ∧
        (execute {} quotationTried (start {}) (Buffer.fill (.ofText "") 1).1).map (fun reached =>
          (reached.1.builder.state.root.isNone,
            reached.1.builder.state.openTags.countP OpenTag.beginsSpan,
            reached.1.scope.regions.balanced.countP (·.pushedSpan))) = some (true, 1, 1) := by
      decide +kernel
    obtain ⟨⟨e, b⟩, hexecute, hreached⟩ := Option.map_eq_some_iff.mp hfacts.2
    simp only [Prod.mk.injEq, Option.isNone_iff_eq_none] at hreached
    obtain ⟨hroot, hspans, hpushed⟩ := hreached
    have hspan : ∀ i ∈ quotationTried, i.setsSpan = false := by decide +kernel
    have hruns : (Job.await 1 : Job Answer Buffer).Runs (.ofText "")
        (Buffer.fill (.ofText "") 1).1 (Buffer.fill (.ofText "") 1).1 :=
      .fill (Prod.ext rfl hfacts.1) .done
    have hsteps := steps_of_execute hexecute
    have hsize := spans_accounted.1 {} (.ofText "") _ b e quotationTried hruns hsteps hspan hroot
    rw [hspans, hpushed] at hsize
    exact ⟨_, b, e, hruns, hsteps, hspan, hroot, hspans, hpushed, hsize⟩
  · have hreachable : Reachable {} (.ofText "") (start {}) (.ofText "") :=
      ⟨.ofText "", [], .fill (by decide +kernel) .done, .nil⟩
    refine ⟨hreachable, ?_⟩
    refine (spans_accounted.2.2 {} (.ofText "") (.ofText "") (start {}) hreachable _ "Closer").mpr
      ⟨by decide, closer, .tag (.openNode closer), rfl, by decide +kernel, rfl, rfl, rfl⟩

end Engine

end Backtrack
