import Backtrack.Proofs.Builder.Finished
import Backtrack.Proofs.Engine.Reach
import Backtrack.Proofs.Engine.Transparency

/-!
What a script writes.  Every level has a text of its own: writing adds to the text on top, a
branch copies it, and closing the branch drops one of the two copies.  A text therefore gets
into the document unless an attempt around it is rejected, which can be told from the script.
-/

namespace Backtrack

namespace Instruction

/-- How the attempts that are open before these instructions are closed by them, innermost
first: `true` for one that is rejected. -/
def closings : List Instruction → List Bool
  | [] => []
  | .branch :: rest => (closings rest).tail
  | .accept :: rest => false :: closings rest
  | .reject :: rest => true :: closings rest
  | _ :: rest => closings rest

/-- The texts that are written outside of every attempt that is rejected, in order. -/
def survivors : List Instruction → List String
  | [] => []
  | .write text :: rest =>
    if true ∈ closings rest then survivors rest else text :: survivors rest
  | _ :: rest => survivors rest

def onTexts : Instruction → List String → List String
  | .write text, top :: below => (top ++ text) :: below
  | .branch, top :: below => top :: top :: below
  | .accept, top :: _ :: below => top :: below
  | .reject, _ :: below => below
  | _, texts => texts

/-- Of the texts of the levels, the one that is on top once levels were closed. -/
def left : List Bool → List String → String
  | [], texts => texts.headD ""
  | true :: closings, texts => left closings texts.tail
  | false :: closings, texts => left closings (texts.headD "" :: texts.tail.tail)

theorem left_append (closings : List Bool) (top text : String) (below : List String) :
    left closings ((top ++ text) :: below) =
      if true ∈ closings then left closings (top :: below)
      else left closings (top :: below) ++ text := by
  induction closings generalizing below with
  | nil => rfl
  | cons rejected closings ih =>
      cases rejected with
      | true => simp [left]
      | false => simpa [left] using ih below.tail

theorem left_branch (closings : List Bool) (top : String) (below : List String) :
    left closings (top :: top :: below) = left closings.tail (top :: below) := by
  rcases closings with _ | ⟨_ | _, closings⟩ <;> rfl

/-- What will be left can be told before an instruction or after it. -/
theorem left_onTexts (i : Instruction) (rest : List Instruction) (top : String)
    (below : List String) :
    left (closings (i :: rest)) (top :: below) ++ String.join (survivors (i :: rest)) =
      left (closings rest) (i.onTexts (top :: below)) ++ String.join (survivors rest) := by
  cases i with
  | write text =>
      show left (closings rest) (top :: below) ++ String.join (survivors (.write text :: rest)) =
        left (closings rest) ((top ++ text) :: below) ++ _
      rw [left_append, survivors]
      split
      · rfl
      · rw [String.join_cons, String.append_assoc]
  | branch => exact congrArg (· ++ _) (left_branch (closings rest) top below).symm
  | accept => cases below <;> rfl
  | _ => rfl

end Instruction

theorem BuildState.Change.written_eq {id : PathId} {s s' : BuildState} {t : Terminal}
    {undo : Undo} (h : Change id s t s' undo) : s'.written = s.written := by
  cases h <;> rfl

namespace Engine

variable {config : Config} {e e' : Engine} {b b' : Buffer} {instructions : List Instruction}

def Level.written (level : Level) : String := level.state.written

theorem Level.Step.written_eq {units : List Symbol} {i : Instruction} {levels levels' : List Level}
    (h : Level.Step units i levels levels') :
    levels'.map Level.written = i.onTexts (levels.map Level.written) := by
  cases h with
  | advance hchange _ => exact congrArg (· :: _) hchange.written_eq
  | bindAttribute hok =>
      obtain ⟨_, _, _, _, _, rfl, _⟩ := BuildState.bindAttribute_eq_ok hok
      rfl
  | repair hreference hnull =>
      exact congrArg (· :: _) (hnull.written_eq.trans hreference.written_eq)
  | _ => rfl

/-- What a series of instructions that succeed has written. -/
theorem Steps.written_eq {levels : List Level} (h : Steps config e b instructions e' b')
    (hstands : e.Stands levels) :
    e'.builder.written =
      Instruction.left (Instruction.closings instructions) (levels.map Level.written) ++
        String.join (Instruction.survivors instructions) := by
  induction h generalizing levels with
  | nil =>
      obtain ⟨below, rfl⟩ := hstands.exists_cons
      exact String.append_empty.symm
  | @cons _ _ _ _ _ _ i rest _ hstep _ ih =>
      obtain ⟨levels', hlevels, hstands'⟩ := hstands.of_step hstep
      obtain ⟨below, rfl⟩ := hstands.exists_cons
      rw [ih hstands', hlevels.written_eq]
      exact (Instruction.left_onTexts i rest _ _).symm

end Engine

end Backtrack
