import Backtrack.Strategy.Basic

/-!
The exchange between a strategy and whoever answers it.  Polling the exchange
runs the strategy up to its next instruction.  An answer is stored until the
strategy, polled again, takes it; an answer stored before the last one was taken
replaces it.
-/

namespace Backtrack

namespace Exchange

inductive Position where
  | ready (s : Strategy Unit)
  /-- The instruction has been handed out and its answer has not been taken. -/
  | asked (i : Instruction) (rest : Answer → Strategy Unit)
  | finished

inductive Polled where
  | yielded (i : Instruction)
  | complete
  | pending

end Exchange

structure Exchange where
  position : Exchange.Position
  stored : Option Answer := none
  /-- The answers taken so far with their instructions, last first. -/
  taken : List (Instruction × Answer) := []

namespace Exchange

def ofStrategy (s : Strategy Unit) : Exchange := { position := .ready s }

/-- Whether the end of the strategy has been reported. -/
def isComplete (x : Exchange) : Bool :=
  match x.position with
  | .finished => true
  | _ => false

def resume (x : Exchange) (a : Answer) : Exchange := { x with stored := some a }

def continueWith (x : Exchange) : Strategy Unit → Exchange × Polled
  | .done _ => ({ x with position := .finished }, .complete)
  | .pause rest => ({ x with position := .ready rest }, .pending)
  | .ask i rest => ({ x with position := .asked i rest }, .yielded i)

def poll (x : Exchange) : Exchange × Polled :=
  match x.position with
  | .finished => (x, .complete)
  | .ready s => x.continueWith s
  | .asked i rest =>
    match x.stored with
    | none => (x, .pending)
    | some a =>
      continueWith { x with stored := none, taken := (i, a) :: x.taken } (rest a)

/-- Poll until something comes, at most `polls` times.  Also counts the polls
that gave nothing. -/
def next (x : Exchange) : Nat → Exchange × Nat × Polled
  | 0 => (x, 0, .pending)
  | polls + 1 =>
    match x.poll with
    | (x, .pending) =>
      let (x, waits, result) := next x polls
      (x, waits + 1, result)
    | (x, result) => (x, 0, result)

end Exchange

end Backtrack
