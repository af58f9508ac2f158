import Backtrack.Instruction

/-!
Strategies: programs that direct a parse.  A strategy asks one instruction at a
time and decides by the answers how to go on.  It may also pause, when it waits
for something of its own.
-/

namespace Backtrack

inductive Strategy (α : Type) where
  | done (a : α)
  /-- Not ready to go on.  The next time is another matter. -/
  | pause (rest : Strategy α)
  | ask (i : Instruction) (rest : Answer → Strategy α)

namespace Strategy

variable {α β : Type}

def bind : Strategy α → (α → Strategy β) → Strategy β
  | .done a, f => f a
  | .pause rest, f => .pause (rest.bind f)
  | .ask i rest, f => .ask i (fun a => (rest a).bind f)

instance : Monad Strategy where
  pure := .done
  bind := Strategy.bind

/-! ## Asking -/

def perform (i : Instruction) : Strategy Answer := .ask i .done

def advance (t : Terminal) : Strategy (Option Emitted) :=
  .ask (.advance t) (fun a => .done a.output?)

def test (p : Pattern) : Strategy (Option TokenRange) :=
  .ask (.test p) (fun a => .done a.tokens?)

def branch : Strategy (Option StateView) := .ask .branch (fun a => .done a.state?)

def accept : Strategy (Option StateView) := .ask .accept (fun a => .done a.state?)

def reject : Strategy (Option StateView) := .ask .reject (fun a => .done a.state?)

/-- Ask the instructions in order, whatever the answers. -/
def ofInstructions : List Instruction → Strategy Unit
  | [] => .done ()
  | i :: rest => .ask i (fun _ => ofInstructions rest)

end Strategy

end Backtrack
