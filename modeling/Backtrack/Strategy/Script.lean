import Backtrack.Strategy.Basic

/-!
Scripts: strategies written down as data.  Beside plain instructions a script
can take what a pattern matches, choose by a match, and repeat while there is a
match.
-/

namespace Backtrack

inductive ScriptStep where
  | perform (i : Instruction)
  | pause
  /-- If the pattern matches, add what it matched as a literal. -/
  | take (p : Pattern)
  | choose (p : Pattern) (yes no : List ScriptStep)
  | loop (p : Pattern) (body : List ScriptStep)

namespace ScriptStep

/-- Perform `body` as long as the pattern matches, at most `rounds` times. -/
def loopStrategy (p : Pattern) (body : Strategy Unit) : Nat → Strategy Unit
  | 0 => .done ()
  | rounds + 1 => do
    match ← Strategy.test p with
    | none => return ()
    | some _ =>
      body
      loopStrategy p body rounds

mutual
/-- The strategy that performs a step.  Every round of a loop asks at least one
instruction, so a run that may execute fewer than `rounds` instructions never
reaches the bound. -/
def strategy (rounds : Nat) : ScriptStep → Strategy Unit
  | .perform i => .ask i (fun _ => .done ())
  | .pause => .pause (.done ())
  | .take p => do
    match ← Strategy.test p with
    | none => return ()
    | some range =>
      let _ ← Strategy.advance (.literal range.text)
      return ()
  | .choose p yes no => do
    match ← Strategy.test p with
    | none => strategies rounds no
    | some _ => strategies rounds yes
  | .loop p body => loopStrategy p (strategies rounds body) rounds

def strategies (rounds : Nat) : List ScriptStep → Strategy Unit
  | [] => .done ()
  | step :: rest => (strategy rounds step).bind (fun _ => strategies rounds rest)
end

end ScriptStep

/-- The strategy that performs the steps in order under an instruction limit. -/
def Strategy.ofScript (limit : Nat) (steps : List ScriptStep) : Strategy Unit :=
  ScriptStep.strategies (limit + 1) steps

end Backtrack
