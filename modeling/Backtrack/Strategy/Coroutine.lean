import Backtrack.Strategy.Exchange

/-!
The exchange as it is carried out.  The strategy and whoever answers it share two
slots: a call leaves its instruction in the one and waits for an answer in the
other.  Polling the strategy runs it until it returns or is not ready, which it is
not the first time a call is polled, even if there is an answer by then.  Only
after that the first slot is looked at.
-/

namespace Backtrack

namespace Coroutine

/-- The strategy's side. -/
inductive Future where
  | running (s : Strategy Unit)
  /-- In a call, which is parked once it has been polled. -/
  | calling (i : Instruction) (parked : Bool) (rest : Answer → Strategy Unit)
  | returned

end Coroutine

structure Coroutine where
  future : Coroutine.Future
  /-- The instruction that was left to be handed out. -/
  instruction : Option Instruction := none
  /-- The answer that was left to be taken. -/
  stored : Option Answer := none
  complete : Bool := false
  /-- The answers taken so far with their instructions, last first. -/
  taken : List (Instruction × Answer) := []

namespace Coroutine

def ofStrategy (s : Strategy Unit) : Coroutine := { future := .running s }

def isComplete (x : Coroutine) : Bool := x.complete

def resume (x : Coroutine) (a : Answer) : Coroutine := { x with stored := some a }

/-! ## The strategy's side -/

/-- Poll a call.  It takes an answer only if it is parked. -/
def pollCall (x : Coroutine) (parked : Bool) : Coroutine × Option Answer :=
  if parked then ({ x with stored := none }, x.stored) else (x, none)

/-- Run the strategy until it returns or is not ready.  True if it returned. -/
def run : Strategy Unit → Coroutine → Coroutine × Bool
  | .done _, x => ({ x with future := .returned }, true)
  | .pause rest, x => ({ x with future := .running rest }, false)
  | .ask i rest, x =>
    match pollCall { x with instruction := some i } false with
    | (x, none) => ({ x with future := .calling i true rest }, false)
    | (x, some a) => run (rest a) { x with taken := (i, a) :: x.taken }

def pollFuture (x : Coroutine) : Coroutine × Bool :=
  match x.future with
  | .returned => (x, true)
  | .running s => run s x
  | .calling i parked rest =>
    match x.pollCall parked with
    | (x, none) => ({ x with future := .calling i true rest }, false)
    | (x, some a) => run (rest a) { x with taken := (i, a) :: x.taken }

/-! ## The other side -/

def poll (x : Coroutine) : Coroutine × Exchange.Polled :=
  if x.complete then (x, .complete)
  else
    match x.pollFuture with
    | (x, true) => ({ x with complete := true }, .complete)
    | (x, false) =>
      match x.instruction with
      | some i => ({ x with instruction := none }, .yielded i)
      | none => (x, .pending)

/-- Poll until something comes, at most `polls` times.  Also counts the polls
that gave nothing. -/
def next (x : Coroutine) : Nat → Coroutine × Nat × Exchange.Polled
  | 0 => (x, 0, .pending)
  | polls + 1 =>
    match x.poll with
    | (x, .pending) =>
      let (x, waits, result) := next x polls
      (x, waits + 1, result)
    | (x, result) => (x, 0, result)

end Coroutine

end Backtrack
