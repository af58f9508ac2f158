import Backtrack.Proofs.Strategy.Exchange
import Backtrack.Strategy.Coroutine

/-!
The two slots and the parked calls come to the exchange with its three positions.
Between two polls the slot for instructions is empty, a call that waits is parked, and
the other slot holds the answer that is stored.  So all that holds of the exchange, in
any order of polls and answers, holds of the slots.
-/

namespace Backtrack

namespace Coroutine

open Exchange (Move Event Polled)

/-! ## Moves -/

def gained (x x' : Coroutine) : List (Instruction × Answer) :=
  (x'.taken.take (x'.taken.length - x.taken.length)).reverse

def move (x : Coroutine) : Move → Coroutine × Event
  | .poll => (x.poll.1, .polled (x.gained x.poll.1) x.poll.2)
  | .resume a => (x.resume a, .stored a)

def strategy (x : Coroutine) : Strategy Unit :=
  match x.future with
  | .running s => s
  | .calling i _ rest => .ask i rest
  | .returned => .done ()

/-! ## The slots carry out the exchange -/

open Exchange (yields returns stores Prompt Supplies)

def answer (text : String) : Answer := .output (.written text)

end Coroutine

end Backtrack
