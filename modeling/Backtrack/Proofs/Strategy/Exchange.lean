import Mathlib.Data.List.Induction
import Backtrack.Strategy.Exchange

/-!
The exchange neither loses nor repeats nor reorders.  Polls and answers may come in any
order: a strategy may be polled before it has its answer, an answer may be stored before it
is asked for, and a later one may replace it.  Whatever the order, the instructions come out
as the strategy performs them, and a call returns with the answer that was stored last and
that no other call returned with.
-/

namespace Backtrack

namespace Strategy

/-- Where the strategy stands after these calls have returned with these answers. -/
inductive Reads (s : Strategy Unit) : List (Instruction × Answer) → Strategy Unit → Prop
  | start : Reads s [] s
  | pause {calls : List (Instruction × Answer)} {rest : Strategy Unit} :
      Reads s calls (.pause rest) → Reads s calls rest
  | ask {calls : List (Instruction × Answer)} {i : Instruction} {rest : Answer → Strategy Unit}
      (a : Answer) : Reads s calls (.ask i rest) → Reads s (calls ++ [(i, a)]) (rest a)

end Strategy

namespace Exchange

inductive Move where
  | poll
  | resume (a : Answer)

/-- What a move did.  A poll may let calls return before it gives its result. -/
inductive Event where
  | stored (a : Answer)
  | polled (returned : List (Instruction × Answer)) (result : Polled)

namespace Event

def stored? : Event → Option Answer
  | .stored a => some a
  | .polled _ _ => none

def returned : Event → List (Instruction × Answer)
  | .stored _ => []
  | .polled returned _ => returned

def yielded? : Event → Option Instruction
  | .polled _ (.yielded i) => some i
  | _ => none

end Event

/-- The call that returns if the exchange is polled, with its answer. -/
def returning (x : Exchange) : List (Instruction × Answer) :=
  match x.position with
  | .asked i _ => (x.stored.map fun a => (i, a)).toList
  | _ => []

def move (x : Exchange) : Move → Exchange × Event
  | .poll => (x.poll.1, .polled x.returning x.poll.2)
  | .resume a => (x.resume a, .stored a)

def yields (events : List Event) : List Instruction := events.filterMap Event.yielded?

def returns (events : List Event) : List (Instruction × Answer) :=
  events.flatMap Event.returned

def stores (events : List Event) : List Answer := events.filterMap Event.stored?

/-- Every answer is stored right after an instruction was handed out. -/
def Prompt (events : List Event) : Prop :=
  ∀ before a after, events = before ++ .stored a :: after →
    ∃ earlier returned i, before = earlier ++ [.polled returned (.yielded i)]

/-- The answer stored at `p` is the last one before `q`, and no call has returned since. -/
def Supplies (events : List Event) (p q : Nat) (a : Answer) : Prop :=
  p < q ∧ events[p]? = some (.stored a) ∧
    ∀ k, p < k → k < q → ∃ result, events[k]? = some (.polled [] result)

variable {s : Strategy Unit} {x x' : Exchange} {moves : List Move} {m : Move}
  {events : List Event} {event : Event}

/-- What a poll can do: which call returns, what the poll gives, and where it leads. -/
inductive Polls (x : Exchange) : List (Instruction × Answer) → Polled → Exchange → Prop
  | finished : x.position = .finished → Polls x [] .complete x
  | unanswered {i : Instruction} {rest : Answer → Strategy Unit} :
      x.position = .asked i rest → x.stored = none → Polls x [] .pending x
  | ready {s : Strategy Unit} : x.position = .ready s →
      Polls x [] (x.continueWith s).2 (x.continueWith s).1
  | answered {i : Instruction} {rest : Answer → Strategy Unit} {a : Answer} {x₁ : Exchange} :
      x.position = .asked i rest → x.stored = some a → x₁.stored = none →
      x₁.taken = (i, a) :: x.taken →
      Polls x [(i, a)] (x₁.continueWith (rest a)).2 (x₁.continueWith (rest a)).1

theorem polls_poll (x : Exchange) : Polls x x.returning x.poll.2 x.poll.1 := by
  unfold poll returning
  cases hposition : x.position with
  | finished => exact .finished hposition
  | ready s => exact .ready hposition
  | asked i rest =>
      cases hstored : x.stored with
      | none => exact .unanswered hposition hstored
      | some a => exact .answered hposition hstored rfl rfl

@[simp] theorem stored_continueWith (x : Exchange) (s : Strategy Unit) :
    (x.continueWith s).1.stored = x.stored := by
  cases s <;> rfl

@[simp] theorem taken_continueWith (x : Exchange) (s : Strategy Unit) :
    (x.continueWith s).1.taken = x.taken := by
  cases s <;> rfl

def strategy (x : Exchange) : Strategy Unit :=
  match x.position with
  | .ready s => s
  | .asked i rest => .ask i rest
  | .finished => .done ()

def waiting? (x : Exchange) : Option Instruction :=
  match x.position with
  | .asked i _ => some i
  | _ => none

/-- The strategy stands where the calls that returned lead, and at most the last of the
instructions handed out has no answer. -/
structure Follows (s : Strategy Unit) (x : Exchange) (events : List Event) : Prop where
  reads : s.Reads (returns events) x.strategy
  yields : yields events = (returns events).map Prod.fst ++ x.waiting?.toList
  taken : x.taken = (returns events).reverse

theorem returns_append :
    returns (events ++ [event]) = returns events ++ event.returned := by
  rw [returns, List.flatMap_append, List.flatMap_singleton]
  rfl

theorem yields_append : yields (events ++ [event]) = yields events ++ event.yielded?.toList := by
  rw [yields, List.filterMap_append]
  rcases event with a | ⟨returned, i | _ | _⟩ <;> rfl

theorem stores_append : stores (events ++ [event]) = stores events ++ event.stored?.toList := by
  rw [stores, List.filterMap_append]
  rcases event with a | ⟨returned, result⟩ <;> rfl

theorem follows_continueWith {s' : Strategy Unit} {returned : List (Instruction × Answer)}
    (hreads : s.Reads (returns events ++ returned) s')
    (hyields : yields events = (returns events ++ returned).map Prod.fst)
    (htaken : x.taken = (returns events ++ returned).reverse) :
    Follows s (x.continueWith s').1 (events ++ [.polled returned (x.continueWith s').2]) := by
  refine ⟨?_, ?_, by rw [taken_continueWith, returns_append, Event.returned, htaken]⟩
  · rw [returns_append, Event.returned]
    cases s' with
    | done a => exact hreads
    | pause rest => exact hreads.pause
    | ask i rest => exact hreads
  · rw [returns_append, Event.returned, yields_append, hyields]
    cases s' with
    | done a => rfl
    | pause rest => rfl
    | ask i rest => rfl

theorem Follows.of_still (h : Follows s x events) (hposition : x'.position = x.position)
    (htaken : x'.taken = x.taken) (hreturned : event.returned = [])
    (hyielded : event.yielded? = none) :
    Follows s x' (events ++ [event]) := by
  have hstrategy : x'.strategy = x.strategy := by rw [strategy, strategy, hposition]
  have hwaiting : x'.waiting? = x.waiting? := by rw [waiting?, waiting?, hposition]
  refine ⟨?_, ?_, ?_⟩
  · rw [returns_append, hreturned, List.append_nil, hstrategy]
    exact h.reads
  · rw [returns_append, yields_append, hreturned, hyielded, hwaiting, h.yields]
    simp
  · rw [returns_append, hreturned, List.append_nil, htaken]
    exact h.taken

theorem Follows.move (h : Follows s x events) (m : Move) :
    Follows s (x.move m).1 (events ++ [(x.move m).2]) := by
  cases m with
  | resume a => exact h.of_still rfl rfl rfl rfl
  | poll =>
      have hreads := h.reads
      have hyields := h.yields
      have htaken := h.taken
      have hpolls := x.polls_poll
      unfold Exchange.move
      dsimp only
      generalize x.poll.1 = x', x.poll.2 = result, x.returning = returned at hpolls ⊢
      unfold strategy at hreads
      unfold waiting? at hyields
      cases hpolls with
      | finished hposition => exact h.of_still rfl rfl rfl rfl
      | unanswered hposition _ => exact h.of_still rfl rfl rfl rfl
      | ready hposition =>
          rw [hposition] at hreads hyields
          exact follows_continueWith (by simpa using hreads) (by simpa using hyields)
            (by simpa using htaken)
      | answered hposition _ _ hadded =>
          rw [hposition] at hreads hyields
          exact follows_continueWith (hreads.ask _) (by simpa using hyields)
            (by rw [hadded, htaken]; simp)

theorem waiting?_of_yielded {i : Instruction} {s : Strategy Unit} {x : Exchange}
    (h : (x.continueWith s).2 = .yielded i) : (x.continueWith s).1.waiting? = some i := by
  cases s with
  | ask i' rest =>
      cases h
      rfl
  | _ => cases h

theorem Polls.waiting?_eq_some {returned : List (Instruction × Answer)} {i : Instruction}
    (h : Polls x returned (.yielded i) x') : x'.waiting? = some i := by
  generalize hresult : Polled.yielded i = result at h
  cases h with
  | finished _ => cases hresult
  | unanswered _ _ => cases hresult
  | ready _ => exact waiting?_of_yielded hresult.symm
  | answered _ _ _ _ => exact waiting?_of_yielded hresult.symm

theorem Polls.stored_eq_none {call : Instruction × Answer} {result : Polled}
    (h : Polls x [call] result x') : x'.stored = none ∧ x.stored = some call.2 := by
  cases h with
  | answered _ hstored hnone _ => exact ⟨by rw [stored_continueWith, hnone], hstored⟩

theorem Polls.stored_eq {result : Polled} (h : Polls x [] result x') :
    x'.stored = x.stored := by
  cases h with
  | finished _ => rfl
  | unanswered _ _ => rfl
  | ready _ => exact stored_continueWith _ _

/-- At most one call returns in a poll. -/
theorem returning_cases (x : Exchange) : x.returning = [] ∨ ∃ call, x.returning = [call] := by
  unfold returning
  split
  · cases x.stored with
    | none => exact .inl rfl
    | some a => exact .inr ⟨_, rfl⟩
  · exact .inl rfl

/-- No two calls return with the same answer. -/
theorem Supplies.unique {p q q' : Nat} {a a' : Answer} {call call' : Instruction × Answer}
    {result result' : Polled} (h : Supplies events p q a) (h' : Supplies events p q' a')
    (hq : events[q]? = some (.polled [call] result))
    (hq' : events[q']? = some (.polled [call'] result')) : q = q' := by
  rcases Nat.lt_trichotomy q q' with hbefore | hsame | hafter
  · obtain ⟨_, hnone⟩ := h'.2.2 q h.1 hbefore
    rw [hq] at hnone
    cases hnone
  · exact hsame
  · obtain ⟨_, hnone⟩ := h.2.2 q' h'.1 hafter
    rw [hq'] at hnone
    cases hnone

/-! ## Prompt answers -/

/-- If every answer is prompt, the calls have returned with all answers but the one that is
stored, and that one is for the call that waits. -/
structure Answered (x : Exchange) (events : List Event) : Prop where
  stores : stores events = (returns events).map Prod.snd ++ x.stored.toList
  waiting : x.stored.isSome = true → x.waiting?.isSome = true
  fresh : ∀ earlier returned i, events = earlier ++ [.polled returned (.yielded i)] →
    x.stored = none ∧ x.waiting?.isSome = true

theorem Answered.resume (h : Answered x events) (a : Answer)
    (hprompt : Prompt (events ++ [.stored a])) : Answered (x.resume a) (events ++ [.stored a]) := by
  obtain ⟨earlier, returned, i, rfl⟩ := hprompt events a [] rfl
  obtain ⟨hnone, hwaiting⟩ := h.fresh earlier returned i rfl
  have hstores := h.stores
  rw [hnone, Option.toList_none, List.append_nil] at hstores
  refine ⟨?_, fun _ => hwaiting, ?_⟩
  · rw [stores_append, returns_append, hstores]
    simp [Event.stored?, Event.returned, Exchange.resume]
  · intro earlier' returned' i' hlast
    obtain ⟨_, hlast⟩ := List.append_inj' hlast rfl
    cases hlast

/-- A poll takes the answer that is stored. -/
theorem Answered.stored_poll (h : Answered x events) : x.poll.1.stored = none := by
  have hpolls := x.polls_poll
  generalize x.poll.1 = x', x.poll.2 = result, x.returning = returned at hpolls ⊢
  have hnone : x.waiting? = none → x.stored = none := by
    intro hwaiting
    by_contra hstored
    have := h.waiting (Option.isSome_iff_ne_none.mpr hstored)
    rw [hwaiting] at this
    cases this
  cases hpolls with
  | finished hposition => exact hnone (by rw [waiting?, hposition])
  | unanswered _ hstored => exact hstored
  | ready hposition =>
      rw [stored_continueWith]
      exact hnone (by rw [waiting?, hposition])
  | answered _ _ hstored _ => rw [stored_continueWith, hstored]

theorem Answered.poll (h : Answered x events) :
    Answered x.poll.1 (events ++ [.polled x.returning x.poll.2]) := by
  have hnone := h.stored_poll
  have hpolls := x.polls_poll
  refine ⟨?_, fun hsome => ?_, ?_⟩
  · rw [stores_append, returns_append, h.stores, hnone]
    rcases x.returning_cases with hreturning | ⟨call, hreturning⟩
    · rw [hreturning] at hpolls
      rw [hpolls.stored_eq] at hnone
      simp [Event.stored?, Event.returned, hreturning, hnone]
    · rw [hreturning] at hpolls
      simp [Event.stored?, Event.returned, hreturning, hpolls.stored_eq_none.2]
  · rw [hnone] at hsome
    cases hsome
  · intro earlier returned i hlast
    obtain ⟨_, hlast⟩ := List.append_inj' hlast rfl
    simp only [List.cons.injEq, Event.polled.injEq, and_true] at hlast
    rw [hlast.2] at hpolls
    exact ⟨hnone, by rw [hpolls.waiting?_eq_some]; rfl⟩

end Exchange

end Backtrack
