import Mathlib.Data.List.Forall2
import Backtrack.Proofs.Builder.OpenTags
import Backtrack.Proofs.Engine.Reach

/-!
The language of a frame.  It is set when a node that declares a language is opened, and
forgotten in the copy that a branch outside a node makes.  A frame therefore reports the
language of the innermost open node that declares one, of the nodes that it has not
forgotten.  Closing a node does not bring back the language around it, so after that the
report is out of date until the language is set or forgotten again.
-/

namespace Backtrack

namespace BuildState

def openLanguages (s : BuildState) : List (Option String) := s.openTags.map (·.language)

theorem openLanguages_of_bindAttribute {s s' : BuildState} {key : String} {value : Value}
    {undo : Undo} (h : s.bindAttribute key value = .ok (s', undo)) :
    s'.openLanguages = s.openLanguages := by
  obtain ⟨tag, tags, htags, htags'⟩ := openTags_of_bindAttribute h
  rw [openLanguages, openLanguages, htags, htags']
  rfl

end BuildState

namespace Engine

/-- What a frame remembers of the open nodes. -/
structure Memory where
  /-- How many of the open nodes are forgotten.  They are the outermost ones. -/
  forgotten : Nat := 0
  /-- Whether a node was closed after which another language should be reported, with the
  language neither set nor forgotten since. -/
  outdated : Bool := false
  deriving DecidableEq, Repr

namespace Memory

/-- The language of the innermost open node that declares one, of those that are
remembered. -/
def resolve (m : Memory) (languages : List (Option String)) : Option String :=
  (languages.take (languages.length - m.forgotten)).findSome? id

def opened (m : Memory) (language : Option String) : Memory :=
  { m with outdated := m.outdated && language.isNone }

def closed (m : Memory) (languages : List (Option String)) : Memory :=
  let m' := { m with forgotten := min m.forgotten languages.tail.length }
  { m' with outdated := m.outdated || m'.resolve languages.tail != m.resolve languages }

def branched (m : Memory) (s : BuildState) : Memory :=
  if s.openTop?.isSome then m else { forgotten := s.openLanguages.length }

theorem resolve_of_forgotten {m : Memory} (h : m.forgotten = 0)
    (languages : List (Option String)) : m.resolve languages = languages.findSome? id := by
  rw [resolve, h, Nat.sub_zero, List.take_length]

theorem resolve_cons {m : Memory} {languages : List (Option String)}
    (h : m.forgotten ≤ languages.length) (language : Option String) :
    m.resolve (language :: languages) = language.or (m.resolve languages) := by
  rw [resolve, resolve, List.length_cons, Nat.succ_sub h, List.take_succ_cons, List.findSome?_cons]
  cases language <;> rfl

end Memory

/-- What an instruction in the state `s` makes of the memories of the frames, innermost
first. -/
def remember (s : BuildState) : Instruction → List Memory → List Memory
  | .advance (.openNode tag), m :: below => m.opened tag.language :: below
  | .advance .close, m :: below => m.closed s.openLanguages :: below
  | .branch, m :: below => m.branched s :: m :: below
  | .accept, m :: _ :: below => m :: below
  | .reject, _ :: below => below
  | _, memories => memories

/-- A frame reports the language that its memory resolves, unless that is out of date. -/
structure Memory.Explains (m : Memory) (level : Level) : Prop where
  forgotten : m.forgotten ≤ level.state.openLanguages.length
  language : m.outdated = false → level.scope.language = m.resolve level.state.openLanguages

namespace Memory.Explains

variable {m : Memory} {scope scope' : Scope} {s s' : BuildState}

theorem congr (h : m.Explains ⟨scope, s⟩) (hlanguage : scope'.language = scope.language)
    (hopen : s'.openLanguages = s.openLanguages) : m.Explains ⟨scope', s'⟩ := by
  refine ⟨?_, fun hupdated => ?_⟩
  · rw [hopen]
    exact h.forgotten
  · rw [hlanguage, hopen]
    exact h.language hupdated

theorem openNode {language : Option String} (h : m.Explains ⟨scope, s⟩)
    (hlanguage : scope'.language = language.or scope.language)
    (hopen : s'.openLanguages = language :: s.openLanguages) :
    (m.opened language).Explains ⟨scope', s'⟩ := by
  refine ⟨?_, fun hupdated => ?_⟩
  · rw [hopen, List.length_cons]
    exact Nat.le_succ_of_le h.forgotten
  · have hresolve : (m.opened language).resolve (language :: s.openLanguages) =
        language.or (m.resolve s.openLanguages) := Memory.resolve_cons h.forgotten language
    rw [hlanguage, hopen, hresolve]
    cases language with
    | some language => rfl
    | none =>
        have hbefore : m.outdated = false := by simpa [Memory.opened] using hupdated
        rw [Option.none_or, Option.none_or, h.language hbefore]

theorem close (h : m.Explains ⟨scope, s⟩) (hlanguage : scope'.language = scope.language)
    (hopen : s'.openLanguages = s.openLanguages.tail) :
    (m.closed s.openLanguages).Explains ⟨scope', s'⟩ := by
  refine ⟨?_, fun hupdated => ?_⟩
  · rw [hopen]
    exact Nat.min_le_right _ _
  · simp only [Memory.closed, Bool.or_eq_false_iff, bne_eq_false_iff_eq] at hupdated
    rw [hlanguage, hopen, h.language hupdated.1]
    exact hupdated.2.symm

theorem advance {units : List Symbol} {t : Terminal} {id : PathId} {undo : Undo}
    {below : List Memory} (h : m.Explains ⟨scope, s⟩) (hchange : BuildState.Change id s t s' undo)
    (hscope : scope.Advances units s { s' with last := some t } t scope') :
    ∃ m', remember s (.advance t) (m :: below) = m' :: below ∧
      m'.Explains ⟨scope', { s' with last := some t }⟩ := by
  have htags : BuildState.openTags { s' with last := some t } = t.onTags s.openTags :=
    hchange.openTags_eq
  have hopen : BuildState.openLanguages { s' with last := some t } =
      (t.onTags s.openTags).map (·.language) := congrArg _ htags
  cases hscope with
  | openNode _ => exact ⟨_, rfl, h.openNode rfl hopen⟩
  | closeRoot _ _ _ _ => exact ⟨_, rfl, h.close rfl (hopen.trans List.map_tail)⟩
  | close _ _ => exact ⟨_, rfl, h.close rfl (hopen.trans List.map_tail)⟩
  | _ => exact ⟨m, rfl, h.congr rfl hopen⟩

/-- A branch inside a node copies the language, and one outside forgets it. -/
theorem branch (h : m.Explains ⟨scope, s⟩) (hopen : s.openTop? ≠ none) :
    (m.branched s).Explains ⟨scope, s⟩ := by
  rw [Memory.branched, if_pos (Option.isSome_iff_ne_none.mpr hopen)]
  exact h

theorem branchOutside (hopen : s.openTop? = none) :
    (m.branched s).Explains ⟨{ scope with language := none }, s⟩ := by
  rw [Memory.branched, hopen]
  refine ⟨Nat.le_refl _, fun _ => ?_⟩
  rw [Memory.resolve]
  simp

end Memory.Explains

/-- The memories keep explaining the languages of all frames. -/
theorem Level.Step.explains {units : List Symbol} {i : Instruction} {level : Level}
    {below levels' : List Level} {memories : List Memory}
    (h : Step units i (level :: below) levels')
    (hmemories : List.Forall₂ Memory.Explains memories (level :: below)) :
    List.Forall₂ Memory.Explains (remember level.state i memories) levels' := by
  cases hmemories with
  | @cons m _ memories _ htop hbelow =>
    cases h with
    | advance hchange hscope =>
        obtain ⟨m', hm', htop'⟩ := htop.advance hchange hscope
        rw [hm']
        exact .cons htop' hbelow
    | test => exact .cons htop hbelow
    | getState => exact .cons htop hbelow
    | write => exact .cons (htop.congr rfl rfl) hbelow
    | bindAttribute hok =>
        exact .cons (htop.congr rfl (BuildState.openLanguages_of_bindAttribute hok)) hbelow
    | branch hopen => exact .cons (htop.branch hopen) (.cons htop hbelow)
    | branchOutside hopen =>
        exact .cons (Memory.Explains.branchOutside hopen) (.cons htop hbelow)
    | accept =>
        cases hbelow with
        | cons _ hrest => exact .cons htop hrest
    | reject => exact hbelow
    | repair hreference hnull =>
        -- The reference and the null leave the open nodes as they are.
        cases hbelow with
        | cons hparent hrest =>
            have hopen : BuildState.openLanguages _ = _ :=
              congrArg (List.map _) (hnull.openTags_eq.trans hreference.openTags_eq)
            exact .cons (hparent.congr rfl hopen) hrest

/-! ## Runs -/

/-- A run over `input` comes to a state, and these are the memories of its frames. -/
inductive Remembers (config : Config) (input : Buffer) : Engine → Buffer → List Memory → Prop
  | start {b : Buffer} : (Job.await 1 : Job Answer Buffer).Runs input b b →
      Remembers config input (start config) b [{}]
  | step {e e' : Engine} {b b' : Buffer} {memories : List Memory} {i : Instruction}
      {answer : Answer} : Remembers config input e b memories →
      Yields (step config e i : Exec Answer _) b (answer, e') b' →
      Remembers config input e' b' (remember e.builder.state i memories)

namespace Remembers

variable {config : Config} {input b b' : Buffer} {e e' : Engine} {memories : List Memory}

theorem exists_of_steps {instructions : List Instruction}
    (h : Remembers config input e b memories) (hsteps : Steps config e b instructions e' b') :
    ∃ memories', Remembers config input e' b' memories' := by
  induction hsteps generalizing memories with
  | nil => exact ⟨memories, h⟩
  | cons hstep _ ih => exact ih (h.step hstep)

theorem reachable (h : Remembers config input e b memories) : Reachable config input e b := by
  induction h with
  | start hawait => exact ⟨_, [], hawait, .nil⟩
  | step _ hstep ih => exact Reachable.step ih hstep

theorem explains (h : Remembers config input e b memories) :
    ∃ levels, e.Stands levels ∧ List.Forall₂ Memory.Explains memories levels := by
  induction h with
  | start _ =>
      refine ⟨_, stands_start config, .cons ⟨Nat.le_refl _, fun _ => rfl⟩ .nil⟩
  | step _ hstep ih =>
      obtain ⟨levels, hstands, hlevels⟩ := ih
      obtain ⟨below, rfl⟩ := hstands.exists_cons
      obtain ⟨levels', hlevel, hstands'⟩ := hstands.of_step hstep
      exact ⟨levels', hstands', hlevel.explains hlevels⟩

end Remembers

/-- Every state of every run has memories, one for each frame.  Unless it is out of date, the
language that is shown is the one that the memory of the frame on top resolves; if nothing is
forgotten, it is the language of the innermost open node that declares one. -/
theorem language_resolved :
    (∀ (config : Config) (input b : Buffer) (e : Engine), Reachable config input e b →
      ∃ m below, Remembers config input e b (m :: below) ∧ below.length = e.frames.depth) ∧
    ∀ (config : Config) (input b : Buffer) (e : Engine) (m : Memory) (below : List Memory),
      Remembers config input e b (m :: below) → m.outdated = false →
      (e.view b).language = m.resolve e.builder.state.openLanguages ∧
        (m.forgotten = 0 →
          (e.view b).language = e.builder.state.openLanguages.findSome? id) := by
  refine ⟨?_, ?_⟩
  · rintro config input b e ⟨b₀, instructions, hawait, hsteps⟩
    obtain ⟨memories, h⟩ := (Remembers.start hawait).exists_of_steps hsteps
    obtain ⟨levels, hstands, hlevels⟩ := h.explains
    have hdepth : levels.length = e.frames.depth + 1 := by
      have hlength := congrArg List.length hstands.scopes
      simpa [FrameStack.carried, FrameStack.live, FrameStack.depth] using hlength.symm
    cases hlevels with
    | nil => cases hdepth
    | cons _ hbelow =>
        refine ⟨_, _, h, ?_⟩
        rw [hbelow.length_eq]
        exact Nat.succ.inj hdepth
  · intro config input b e m below h hupdated
    obtain ⟨levels, hstands, hlevels⟩ := h.explains
    obtain ⟨rest, rfl⟩ := hstands.exists_cons
    cases hlevels with
    | cons htop _ =>
        have hlanguage : (e.view b).language = m.resolve e.builder.state.openLanguages :=
          htop.language hupdated
        exact ⟨hlanguage, fun hnone => hlanguage.trans (Memory.resolve_of_forgotten hnone _)⟩

/-- The memories of the frames along instructions that all succeed without a wait. -/
def recollect (config : Config) :
    List Instruction → Engine × Buffer × List Memory → Option (Engine × Buffer × List Memory)
  | [], reached => some reached
  | i :: rest, (e, b, memories) =>
    (execute config [i] e b).bind fun next =>
      recollect config rest (next.1, next.2, remember e.builder.state i memories)

theorem Remembers.of_recollect {config : Config} {input : Buffer} {instructions : List Instruction}
    {e : Engine} {b : Buffer} {memories : List Memory} {reached : Engine × Buffer × List Memory}
    (h : Remembers config input e b memories)
    (hreached : recollect config instructions (e, b, memories) = some reached) :
    Remembers config input reached.1 reached.2.1 reached.2.2 := by
  induction instructions generalizing e b memories with
  | nil =>
      cases hreached
      exact h
  | cons i rest ih =>
      obtain ⟨⟨e₁, b₁⟩, hexecute, hrest⟩ := Option.bind_eq_some_iff.mp hreached
      obtain ⟨answer, hyields⟩ := (steps_of_execute hexecute).exists_yields
      exact ih (h.step hyields) hrest

/-- A node that declares a language, another one in it, and an attempt that starts while a
reference of the inner one waits. -/
def languagesNested : List Instruction :=
  [.advance (.openNode ((OpenTag.typed "Root").withLanguage "json")),
    .advance (.reference { name := "a" }),
    .advance (.openNode ((OpenTag.typed "Script").withLanguage "lua")),
    .advance (.reference { name := "b" }), .branch, .advance (.openNode (.typed "Block")),
    .advance (.reference { name := "c" }),
    .advance (.openNode ((OpenTag.typed "Query").withLanguage "sql")), .branch, .accept]

/-- The attempt has forgotten two nodes and reports the language of the innermost one. -/
theorem language_resolved_languagesNested : ∃ (e : Engine) (b : Buffer) (m : Memory)
    (below : List Memory), Reachable {} (.ofText "") e b ∧
      (∃ m below, Remembers {} (.ofText "") e b (m :: below) ∧ below.length = e.frames.depth) ∧
      Remembers {} (.ofText "") e b (m :: below) ∧ m = { forgotten := 2 } ∧
      e.builder.state.openLanguages = [some "sql", none, some "lua", some "json"] ∧
      (e.view b).language = some "sql" := by
  have hfacts : (Buffer.fill (.ofText "") 1).2 = true ∧
      (recollect {} languagesNested (start {}, (Buffer.fill (.ofText "") 1).1, [{}])).map
        (fun reached => (reached.2.2, reached.1.builder.state.openLanguages)) =
      some ([{ forgotten := 2 }, {}],
        [some "sql", none, some "lua", some "json"]) := by decide +kernel
  obtain ⟨⟨e, b, memories⟩, hrecollect, hreached⟩ := Option.map_eq_some_iff.mp hfacts.2
  simp only [Prod.mk.injEq] at hreached
  obtain ⟨rfl, hopen⟩ := hreached
  have hawait : (Job.await 1 : Job Answer Buffer).Runs (.ofText "")
      (Buffer.fill (.ofText "") 1).1 (Buffer.fill (.ofText "") 1).1 :=
    .fill (Prod.ext rfl hfacts.1) .done
  have hremembers := (Remembers.start hawait).of_recollect hrecollect
  have hlanguage := (language_resolved.2 {} (.ofText "") b e _ _ hremembers rfl).1
  rw [hopen] at hlanguage
  exact ⟨e, b, _, _, hremembers.reachable,
    language_resolved.1 {} (.ofText "") b e hremembers.reachable, hremembers, rfl, hopen, hlanguage⟩

def languageForgotten : List Instruction :=
  [.advance (.openNode ((OpenTag.typed "Root").withLanguage "json")),
    .advance (.reference { name := "a" }), .branch, .advance (.openNode (.typed "Block"))]

/-- The language of the innermost open node that declares one need not be the one that is
shown. -/
theorem language_not_innermost : ∃ (e : Engine) (b : Buffer),
    execute {} languageForgotten (start {}) (.ofText "") = some (e, b) ∧
      Reachable {} (.ofText "") e b ∧ e.builder.node?.isSome = true ∧
      e.builder.state.openLanguages.findSome? id = some "json" ∧ (e.view b).language = none := by
  have hfacts : (Buffer.fill (.ofText "") 1) = (.ofText "", true) ∧
      (execute {} languageForgotten (start {}) (.ofText "")).map (fun reached =>
        (reached.1.builder.node?.isSome,
          reached.1.builder.state.openLanguages.findSome? id,
          reached.1.scope.language)) = some (true, some "json", none) := by decide +kernel
  obtain ⟨⟨e, b⟩, hexecute, hreached⟩ := Option.map_eq_some_iff.mp hfacts.2
  simp only [Prod.mk.injEq] at hreached
  obtain ⟨hnode, hinnermost, hlanguage⟩ := hreached
  exact ⟨e, b, hexecute, reachable_of_execute hfacts.1 hexecute, hnode, hinnermost, hlanguage⟩

end Engine

end Backtrack
