import Backtrack.Proofs.Builder.Muted
import Backtrack.Proofs.Engine.Forward
import Backtrack.Proofs.Engine.Paired
import Backtrack.Proofs.Engine.Streaming
import Backtrack.Proofs.Engine.Written

/-!
Observers do not disturb a run.  An instruction that tries a pattern, shows the state or
writes has no say in what is built.  A script may be carried out with and without some of
these: all other instructions have the same answers, and the run ends in the same way, with
the same document but for what was written.
-/

namespace Backtrack

/-- An instruction that looks at the run, or writes beside the tree. -/
inductive Observer where
  | test (p : Pattern)
  | getState
  | write (text : String)

namespace Observer

def instruction : Observer → Instruction
  | .test p => .test p
  | .getState => .getState
  | .write text => .write text

end Observer

/-- An entry of a script from which observers are cut. -/
inductive ScriptEntry where
  | stays (i : Instruction)
  | cut (o : Observer)

namespace ScriptEntry

def full : List ScriptEntry → List Instruction
  | [] => []
  | .stays i :: rest => i :: full rest
  | .cut o :: rest => o.instruction :: full rest

def plain : List ScriptEntry → List Instruction
  | [] => []
  | .stays i :: rest => i :: plain rest
  | .cut _ :: rest => plain rest

def kept : List ScriptEntry → List Answer → List Answer
  | .stays _ :: rest, answer :: answers => answer :: kept rest answers
  | .cut _ :: rest, _ :: answers => kept rest answers
  | _, _ => []

end ScriptEntry

namespace Job

variable {ω α β : Type} {b : Buffer}

/-- Over the input as it is the job reports these events and ends with this result. -/
structure Tells (job : Job ω α) (b : Buffer) (events : List ω) (a : α) : Prop where
  events : (job.complete b).events = events
  result : (job.complete b).result = a

theorem Tells.emit {job : Job ω α} {events : List ω} {a : α} (h : job.Tells b events a)
    (event : ω) : (Job.emit event job).Tells b (event :: events) a :=
  ⟨congrArg (event :: ·) h.events, h.result⟩

theorem Tells.pause {job : Job ω α} {events : List ω} {a : α} (h : job.Tells b events a) :
    (Job.pause job).Tells b events a :=
  ⟨h.events, h.result⟩

theorem Tells.fill {upto : Nat} {rest : Buffer → Job ω α} {events : List ω} {a : α}
    (h : (rest b).Tells b events a) (hb : b.exhausted = true) :
    (Job.fill upto rest).Tells b events a := by
  constructor
  · rw [complete, Buffer.settle_of_exhausted hb]
    exact h.events
  · rw [complete, Buffer.settle_of_exhausted hb]
    exact h.result

theorem Tells.bind {job : Job ω α} {f : α → Job ω β} {events events' : List ω} {a : α} {c : β}
    (h : job.Tells b events a) (hf : (f a).Tells b events' c) (hb : b.exhausted = true) :
    (job.bind f).Tells b (events ++ events') c := by
  have hcomplete := complete_bind job f b
  rw [h.result, buffer_complete_of_exhausted job hb] at hcomplete
  constructor
  · rw [hcomplete, Completed.andThen, h.events, hf.events]
  · rw [hcomplete, Completed.andThen, hf.result]

end Job

namespace Engine

variable {config : Config} {e e' e₁ : Engine} {b : Buffer} {i : Instruction}
  {instructions : List Instruction}

open BuildState (SameTree)

theorem tells_perform_of_ok {answer : Answer} {answers : List Answer}
    {result : Except Error Engine} (hb : b.exhausted = true)
    (h : (step config e i : Exec Answer _).run.Tells b [] (.ok (answer, e₁)))
    (hrest : (perform config instructions e₁).Tells b answers result) :
    (perform config (i :: instructions) e).Tells b (answer :: answers) result :=
  h.bind (hrest.emit answer) hb

/-- The full script has reached the instruction limit, or both scripts end alike. -/
def Unparted (script : List ScriptEntry) (b : Buffer)
    (plain full : Job Answer (Except Error Engine)) : Prop :=
  (∃ answers error, full.Tells b answers (.error error) ∧ CountLimit error) ∨
    ∃ answers result result', plain.Tells b (ScriptEntry.kept script answers) result ∧
      full.Tells b answers result' ∧ Results (Paired SameTree) result result'

/-- Both take an instruction that stays. -/
theorem Unparted.stays {script : List ScriptEntry} {e₁' : Engine} {answer : Answer}
    (hb : b.exhausted = true)
    (hstep : (step config e i : Exec Answer _).run.Tells b [] (.ok (answer, e₁)))
    (hstep' : (step config e' i : Exec Answer _).run.Tells b [] (.ok (answer, e₁')))
    (h : Unparted script b (perform config (ScriptEntry.plain script) e₁)
      (perform config (ScriptEntry.full script) e₁')) :
    Unparted (.stays i :: script) b (perform config (i :: ScriptEntry.plain script) e)
      (perform config (i :: ScriptEntry.full script) e') := by
  rcases h with ⟨answers, error, hfull, hlimit⟩ | ⟨answers, result, result', hplain, hfull, hends⟩
  · exact Or.inl ⟨_, error, tells_perform_of_ok hb hstep' hfull, hlimit⟩
  · exact Or.inr ⟨answer :: answers, result, result', tells_perform_of_ok hb hstep hplain,
      tells_perform_of_ok hb hstep' hfull, hends⟩

/-- Only the full script takes an observer that is cut. -/
theorem Unparted.cut {script : List ScriptEntry} {o : Observer} {answer : Answer}
    (hb : b.exhausted = true)
    (hstep : (step config e' o.instruction : Exec Answer _).run.Tells b [] (.ok (answer, e₁)))
    (h : Unparted script b (perform config (ScriptEntry.plain script) e)
      (perform config (ScriptEntry.full script) e₁)) :
    Unparted (.cut o :: script) b (perform config (ScriptEntry.plain script) e)
      (perform config (o.instruction :: ScriptEntry.full script) e') := by
  rcases h with ⟨answers, error, hfull, hlimit⟩ | ⟨answers, result, result', hplain, hfull, hends⟩
  · exact Or.inl ⟨_, error, tells_perform_of_ok hb hstep hfull, hlimit⟩
  · exact Or.inr ⟨answer :: answers, result, result', hplain,
      tells_perform_of_ok hb hstep hfull, hends⟩

end Engine

end Backtrack
