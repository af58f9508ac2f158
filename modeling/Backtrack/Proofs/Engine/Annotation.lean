import Backtrack.Engine.Run
import Backtrack.Proofs.Engine.Reach
import Backtrack.Proofs.Engine.Twin

/-!
Annotations do not steer a parse.  A strategy may set attributes on the way that could as
well be left out.  As long as none of them decides on the span of an open node, the strategy
with and without them waits alike, gets the same answers to all other instructions and ends
in the same way, with the same tree but for the attributes.  An attribute that does decide
on a span is read back when its node is closed, which is where the two can part.
-/

namespace Backtrack

/-- A strategy with instructions that may be left out. -/
inductive Annotated where
  | done
  | pause (rest : Annotated)
  | ask (i : Instruction) (rest : Answer → Annotated)
  /-- Set an attribute of the open node, or leave that out. -/
  | annotate (key : String) (value : Value) (rest : Annotated)

namespace Annotated

def plain : Annotated → Strategy Unit
  | .done => .done ()
  | .pause rest => .pause rest.plain
  | .ask i rest => .ask i fun answer => (rest answer).plain
  | .annotate _ _ rest => rest.plain

def full : Annotated → Strategy Unit
  | .done => .done ()
  | .pause rest => .pause rest.full
  | .ask i rest => .ask i fun answer => (rest answer).full
  | .annotate key value rest => .ask (.bindAttribute key value) fun _ => rest.full

def kept : Annotated → List Answer → List Answer
  | .pause rest, answers => rest.kept answers
  | .ask _ rest, answer :: answers => answer :: (rest answer).kept answers
  | .annotate _ _ rest, _ :: answers => rest.kept answers
  | _, _ => []

theorem kept_nil (a : Annotated) : a.kept [] = [] := by
  induction a with
  | pause rest ih => exact ih
  | _ => rfl

open Engine in
/-- Every annotation that the full strategy comes to succeeds, and says nothing new about
the span of the open node. -/
def Harmless (config : Config) : Annotated → Engine → Buffer → Prop
  | .done, _, _ => True
  | .pause rest, e, b => rest.Harmless config e b
  | .ask i rest, e, b => ∀ answer e' b',
      Yields (step config e i : Exec Answer _) b (answer, e') b' →
      (rest answer).Harmless config e' b'
  | .annotate key value rest, e, b =>
      e.builder.KeepsSpan key value ∧
      ∃ builder answer, e.builder.bindAttribute key value = (builder, .ok answer) ∧
        rest.Harmless config { e with builder, executed := e.executed + 1 } b

def HarmlessOver (config : Config) (a : Annotated) (input : Buffer) : Prop :=
  ∀ b, (Job.await 1 : Job Answer Buffer).Runs input b b →
    a.Harmless config (Engine.start config) b

end Annotated

namespace Engine

variable {e e' : Engine}

/-- Where two runs that were driven side by side have come to. -/
structure Abreast (a : Annotated) (plain full : Job.Driven Answer (Except Error Builder)) :
    Prop where
  answers : plain.events = a.kept full.events
  waits : plain.waits = full.waits
  result : Option.Rel (Results Builder.Twin) plain.result full.result

theorem abreast_zero (a : Annotated) (job job' : Job Answer (Except Error Builder)) (b : Buffer) :
    Abreast a (job.drive 0 b) (job'.drive 0 b) :=
  ⟨a.kept_nil.symm, rfl, .none⟩

theorem eq_nil_of_forall₂_false {events events' : List Answer}
    (h : List.Forall₂ (fun _ _ => False) events events') : events = [] ∧ events' = [] := by
  cases h with
  | nil => exact ⟨rfl, rfl⟩
  | cons hfalse _ => exact hfalse.elim

/-- The full run has reached the instruction limit, or the two have come as far. -/
def Paced (a : Annotated) (plain full : Job.Driven Answer (Except Error Builder)) : Prop :=
  (∃ error, full.result = some (.error error) ∧ CountLimit error) ∨ Abreast a plain full

/-- After a part that reports nothing and ends alike, two runs are paced if what follows
is. -/
theorem paced_bind {α β : Type} {R : α → β → Prop} {a : Annotated} {first : Job Answer α}
    {first' : Job Answer β} {f : α → Job Answer (Except Error Builder)}
    {g : β → Job Answer (Except Error Builder)} {polls : Nat} {b : Buffer}
    (halike : Job.Driven.Alike (fun _ _ => False) R (first.drive polls b)
      (first'.drive polls b))
    (hrest : ∀ (x : α) (y : β) (left : Nat), R x y → (first'.drive polls b).result = some y →
      Paced a ((f x).drive (left + 1) (first'.drive polls b).buffer)
        ((g y).drive (left + 1) (first'.drive polls b).buffer)) :
    Paced a ((first.bind f).drive polls b) ((first'.bind g).drive polls b) := by
  obtain ⟨hevents, hevents'⟩ := eq_nil_of_forall₂_false halike.events
  have hrelated := halike.result
  generalize hfirst : (first.drive polls b).result = ended at hrelated
  generalize hfirst' : (first'.drive polls b).result = ended' at hrelated
  cases hrelated with
  | none =>
      rw [Job.drive_bind_of_none f hfirst, Job.drive_bind_of_none g hfirst']
      refine Or.inr ⟨?_, halike.waits, .none⟩
      exact hevents.trans (a.kept_nil.symm.trans (congrArg a.kept hevents').symm)
  | @some x y hresult =>
      obtain ⟨left, hleft, hdrive⟩ := Job.drive_bind_of_some f hfirst
      obtain ⟨left', hleft', hdrive'⟩ := Job.drive_bind_of_some g hfirst'
      have hsame : left' = left := by
        rw [halike.waits] at hleft
        omega
      rw [hdrive, hdrive', hevents, hevents', halike.buffer, halike.waits, hsame]
      rcases hrest x y left hresult hfirst' with hlimit | habreast
      · exact Or.inl hlimit
      · exact Or.inr ⟨habreast.answers, congrArg (_ + ·) habreast.waits, habreast.result⟩

def goOn (config : Config) (rest : Answer → Strategy Unit) :
    Except Error (Answer × Engine) → Job Answer (Except Error Builder)
  | .error error => .done (.error error)
  | .ok (answer, e) => .emit answer (runFrom config (rest answer) e)

theorem runFrom_ask (config : Config) (i : Instruction) (rest : Answer → Strategy Unit)
    (e : Engine) :
    runFrom config (.ask i rest) e = (step config e i).run.bind (goOn config rest) := by
  rw [runFrom]
  rfl

theorem Twin.runFrom_ask (h : e.Twin e') (config : Config) (i : Instruction)
    {rest : Answer → Annotated} (polls : Nat) (b : Buffer)
    (hrest : ∀ (answer : Answer) (e₁ e₁' : Engine) (b' : Buffer) (polls : Nat), e₁.Twin e₁' →
      Yields (Engine.step config e' i : Exec Answer _) b (answer, e₁') b' →
      Paced (rest answer) ((runFrom config (rest answer).plain e₁).drive polls b')
        ((runFrom config (rest answer).full e₁').drive polls b')) :
    Paced (.ask i rest) ((runFrom config (Annotated.ask i rest).plain e).drive polls b)
      ((runFrom config (Annotated.ask i rest).full e').drive polls b) := by
  rw [Annotated.plain, Annotated.full, Engine.runFrom_ask, Engine.runFrom_ask]
  rcases (hidden_twin.step (E := fun _ _ => False) h config i).drive polls b with
    ⟨_, hstopped, error, rfl, hlimit⟩ | halike
  · obtain ⟨left, _, hdrive⟩ :=
      Job.drive_bind_of_some (goOn config fun answer => (rest answer).full) hstopped
    rw [hdrive]
    exact Or.inl ⟨error, rfl, hlimit⟩
  · refine paced_bind halike ?_
    intro result result' left hresults hended
    cases hresults with
    | error => exact Or.inr ⟨rfl, rfl, .some .error⟩
    | @ok first first' htogether =>
        obtain ⟨answer, e₁⟩ := first
        obtain ⟨_, e₁'⟩ := first'
        obtain ⟨rfl, htwin⟩ := htogether
        rw [goOn, goOn, Job.drive_emit, Job.drive_emit]
        rcases hrest answer e₁ e₁' _ (left + 1) htwin (Job.runs_drive hended) with
          hlimit | habreast
        · exact Or.inl hlimit
        · exact Or.inr ⟨congrArg (answer :: ·) habreast.answers, habreast.waits,
            habreast.result⟩

/-- The full strategy sets an attribute that the plain one does not. -/
theorem paced_annotate (config : Config) {key : String} {value : Value}
    {rest : Annotated} {builder : Builder} {answer : Emitted} (polls : Nat) (b : Buffer)
    (hbind : e'.builder.bindAttribute key value = (builder, .ok answer))
    (hrest : Paced rest ((runFrom config rest.plain e).drive polls b)
      ((runFrom config rest.full
        { e' with builder, executed := e'.executed + 1 }).drive polls b)) :
    Paced (.annotate key value rest)
      ((runFrom config (Annotated.annotate key value rest).plain e).drive polls b)
      ((runFrom config (Annotated.annotate key value rest).full e').drive polls b) := by
  cases polls with
  | zero => exact Or.inr (abreast_zero _ _ _ b)
  | succ polls =>
      rw [Annotated.plain, Annotated.full, runFrom_ask]
      by_cases hcount : e'.executed + 1 > config.maxInstructions
      · rw [step_eq_throw hcount]
        exact Or.inl ⟨_, rfl, _, _, rfl⟩
      · rw [step_eq_dispatch (Nat.not_lt.mp hcount), Engine.dispatch,
          build_eq_mk (congrArg Prod.snd hbind), mk_ok_bind, hbind]
        show Paced _ _ (Job.drive (polls + 1) (.emit _ _) b)
        rw [Job.drive_emit]
        rcases hrest with hlimit | habreast
        · exact Or.inl hlimit
        · exact Or.inr ⟨habreast.answers, habreast.waits, habreast.result⟩

theorem Twin.runFrom (h : e.Twin e') (config : Config) (a : Annotated) (polls : Nat) (b : Buffer)
    (hharmless : a.Harmless config e' b) :
    Paced a ((runFrom config a.plain e).drive polls b)
      ((runFrom config a.full e').drive polls b) := by
  -- An annotation is a step of the second run only.  The engines stay twins over it, with
  -- one more instruction counted in the second.
  induction a generalizing e e' polls b with
  | done =>
      cases polls with
      | zero => exact Or.inr (abreast_zero _ _ _ b)
      | succ polls => exact Or.inr ⟨rfl, rfl, .some (.ok h.builder)⟩
  | pause rest ih =>
      cases polls with
      | zero => exact Or.inr (abreast_zero _ _ _ b)
      | succ polls =>
          rw [Annotated.plain, Annotated.full, Engine.runFrom, Engine.runFrom, Job.drive_pause,
            Job.drive_pause]
          rcases ih h polls b hharmless with hlimit | habreast
          · exact Or.inl hlimit
          · exact Or.inr ⟨habreast.answers, congrArg (1 + ·) habreast.waits, habreast.result⟩
  | ask i rest ih =>
      exact h.runFrom_ask config i polls b fun answer e₁ e₁' b' left htwin hstep =>
        ih answer htwin left b' (hharmless answer e₁' b' hstep)
  | annotate key value rest ih =>
      obtain ⟨hkeeps, builder, answer, hbind, hrest⟩ := hharmless
      exact paced_annotate config polls b hbind (ih (h.annotated hbind hkeeps) polls b hrest)

theorem paced_run {config : Config} {input : Buffer} {a : Annotated} (polls : Nat)
    (hharmless : a.HarmlessOver config input) :
    Paced a ((run config a.plain).drive polls input) ((run config a.full).drive polls input) := by
  have hfollows : (Job.await 1 : Job Answer Buffer).Follows (fun _ _ => False) Eq
      (fun _ => False) (Job.await 1) := .fill fun _ => .done rfl
  rcases hfollows.drive polls input with ⟨_, _, hfalse⟩ | halike
  · exact hfalse.elim
  · refine paced_bind (f := fun _ => runFrom config a.plain (start config))
      (g := fun _ => runFrom config a.full (start config)) halike ?_
    intro b _ left _ hended
    have hruns := Job.runs_drive hended
    obtain ⟨hbuffer, _⟩ := Job.reached_of_await hruns
    rw [hbuffer] at hruns ⊢
    exact (twin_start config).runFrom config a (left + 1) _ (hharmless _ hruns)

/-- The outcomes are the same but for attributes of the tree, once the answers to the
annotations are left out. -/
structure Undisturbed (a : Annotated) (plain full : Outcome) : Prop where
  answers : plain.answers = a.kept full.answers
  waits : plain.waits = full.waits
  result : plain.result.map (Except.map Document.bare) =
    full.result.map (Except.map Document.bare)

theorem Undisturbed.ends_eq {a : Annotated} {plain full : Outcome}
    (h : Undisturbed a plain full) :
    plain.result.map (Except.map fun _ => ()) = full.result.map (Except.map fun _ => ()) := by
  have hforget : ∀ result : Option (Except Error Document),
      result.map (Except.map fun _ => ()) =
        (result.map (Except.map Document.bare)).map (Except.map fun _ => ()) := by
    rintro (_ | _ | _) <;> rfl
  rw [hforget, h.result, ← hforget]

/-- Annotations that say nothing new about the span of an inner node may be put in or left
out. -/
theorem annotations_undisturbed {config : Config} {input : Buffer} {a : Annotated} (polls : Nat)
    (hharmless : a.HarmlessOver config input)
    (hlimit : ∀ executed limit, (parse config a.full input polls).result ≠
      some (.error (.instructionLimitExceeded executed limit))) :
    Undisturbed a (parse config a.plain input polls) (parse config a.full input polls) := by
  rcases paced_run polls hharmless with ⟨_, hresult, executed, limit, rfl⟩ | habreast
  · refine absurd ?_ (hlimit executed limit)
    rw [parse, hresult]
    rfl
  · refine ⟨habreast.answers, habreast.waits, ?_⟩
    have hrelated := habreast.result
    rw [parse, parse]
    generalize ((run config a.plain).drive polls input).result = ended at hrelated
    generalize ((run config a.full).drive polls input).result = ended' at hrelated
    cases hrelated with
    | none => rfl
    | some hresults =>
        cases hresults with
        | error => rfl
        | ok htwin => exact congrArg some htwin.state.finish_eq

/-! ## Annotations that are harmless, and one that is not -/

end Engine

namespace Annotated

def asking : List Instruction → Annotated → Annotated
  | [], rest => rest
  | i :: instructions, rest => .ask i fun _ => asking instructions rest

open Engine in
/-- Follow the full strategy through at most `polls` polls for each instruction and look at
every annotation. -/
def check (config : Config) (polls : Nat) : Annotated → Engine → Buffer → Bool
  | .done, _, _ => true
  | .pause rest, e, b => rest.check config polls e b
  | .ask i rest, e, b =>
    let driven := (step config e i : Exec Answer _).run.drive polls b
    match driven.result with
    | some (.ok (answer, e')) => (rest answer).check config polls e' driven.buffer
    | some (.error _) => true
    | none => false
  | .annotate key value rest, e, b =>
    decide (e.builder.KeepsSpan key value) &&
      match e.builder.bindAttribute key value with
      | (builder, .ok _) =>
        rest.check config polls { e with builder, executed := e.executed + 1 } b
      | (_, .error _) => false

theorem harmless_of_check {config : Config} {polls : Nat} {a : Annotated} {e : Engine}
    {b : Buffer} (h : a.check config polls e b = true) : a.Harmless config e b := by
  induction a generalizing e b with
  | done => trivial
  | pause rest ih => exact ih h
  | ask i rest ih =>
      intro answer e' b' hstep
      rw [check] at h
      split at h
      · next answer₁ e₁ hresult =>
          obtain ⟨hsame, hbuffer⟩ := Job.Runs.unique hstep (Job.runs_drive hresult)
          rw [hbuffer] at h
          cases hsame
          exact ih _ h
      · next error hresult =>
          cases (Job.Runs.unique hstep (Job.runs_drive hresult)).1
      · cases h
  | annotate key value rest ih =>
      rw [check, Bool.and_eq_true, decide_eq_true_eq] at h
      obtain ⟨hkeeps, hrest⟩ := h
      refine ⟨hkeeps, ?_⟩
      split at hrest
      · next builder answer hbind =>
          exact ⟨builder, answer, hbind, ih hrest⟩
      · cases hrest

end Annotated

namespace Engine

/-- Annotates the root, a node that has begun a span, a fragment that is rejected, and a node
with an attribute that is no span's. -/
def wordNoted : Annotated :=
  .asking [.advance (.openNode (.typed "Sum"))] <|
  .annotate "span" (.text "Quoted") <|
  .asking [.advance (.reference { name := "left" }),
    .advance (.openNode ((OpenTag.typed "Word").withAttribute "span" (.text "Quoted")))] <|
  .annotate "span" (.text "Bare") <|
  .asking [.advance (.literal "x"), .branch, .advance (.reference { name := "rest" }),
    .advance (.openNode {})] <|
  .annotate "span" (.text "Quoted") <|
  .asking [.advance .close, .reject] <|
  .annotate "note" (.bool true) <|
  .asking [.advance (.literal "y"), .advance .close, .getState, .advance .close] .done

def lateWord : Buffer :=
  .ofFeed { deliveries := [.chunk [.char 'x'], .wait, .chunk [.char 'y']] }

theorem annotations_undisturbed_wordNoted :
    wordNoted.HarmlessOver {} lateWord ∧
      (∀ executed limit, (parse {} wordNoted.full lateWord 3).result ≠
        some (.error (.instructionLimitExceeded executed limit))) ∧
      (parse {} wordNoted.full lateWord 3).result.map (Except.map fun _ => ()) =
        some (.ok ()) ∧
      Undisturbed wordNoted (parse {} wordNoted.plain lateWord 3)
        (parse {} wordNoted.full lateWord 3) := by
  have hfill : (lateWord.fill 1).2 = true := by decide
  have hchecked : wordNoted.check {} 2 (start {}) (lateWord.fill 1).1 = true := by decide +kernel
  have hends : (parse {} wordNoted.full lateWord 3).result.map (Except.map fun _ => ()) =
      some (.ok ()) := by decide +kernel
  have hharmless : wordNoted.HarmlessOver {} lateWord := by
    intro b hruns
    have hfirst : (Job.await 1 : Job Answer Buffer).Runs lateWord (lateWord.fill 1).1
        (lateWord.fill 1).1 := .fill (Prod.ext rfl hfill) .done
    rw [(hfirst.unique hruns).1]
    exact Annotated.harmless_of_check hchecked
  have hlimit : ∀ executed limit, (parse {} wordNoted.full lateWord 3).result ≠
      some (.error (.instructionLimitExceeded executed limit)) := by
    intro executed limit hresult
    rw [hresult] at hends
    cases hends
  exact ⟨hharmless, hlimit, hends, annotations_undisturbed 3 hharmless hlimit⟩

/-- Gives a node a span when it is open already. -/
def spanAdded : Annotated :=
  .asking [.advance (.openNode (.typed "Root")), .advance (.reference { name := "a" }),
    .advance (.openNode (.typed "Item"))] <|
  .annotate "span" (.text "Quoted") <|
  .asking [.advance .close, .advance .close] .done

/-- Closing the node then ends a span that was never begun. -/
theorem not_undisturbed_spanAdded :
    (parse {} spanAdded.full (.ofText "") 1).answers.getLast? =
        some (.output (.attribute "span" (.text "Quoted"))) ∧
      (parse {} spanAdded.full (.ofText "") 1).result.map (Except.map fun _ => ()) =
        some (.error .spanUnderflow) ∧
      (parse {} spanAdded.plain (.ofText "") 1).result.map (Except.map fun _ => ()) =
        some (.ok ()) ∧
      ¬ Undisturbed spanAdded (parse {} spanAdded.plain (.ofText "") 1)
        (parse {} spanAdded.full (.ofText "") 1) := by
  have hfull : (parse {} spanAdded.full (.ofText "") 1).result.map (Except.map fun _ => ()) =
      some (.error .spanUnderflow) := by decide +kernel
  have hplain : (parse {} spanAdded.plain (.ofText "") 1).result.map (Except.map fun _ => ()) =
      some (.ok ()) := by decide +kernel
  refine ⟨by decide +kernel, hfull, hplain, fun hsame => ?_⟩
  have hends := hsame.ends_eq
  rw [hplain, hfull] at hends
  cases hends

end Engine

end Backtrack
