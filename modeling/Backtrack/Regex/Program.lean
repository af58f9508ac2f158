import Backtrack.Regex.Basic

/-!
Matching programs.  An expression becomes a graph of states, and a match is
found by following all ways through the graph at once, kept in order of
preference.  At each position a state is entered at most once, by the most
preferred way that reaches it.  The work is therefore bounded by the length of
the text times the size of the program, and a repetition whose body matches
nothing cannot go round for ever.
-/

namespace Backtrack
namespace Regex

/-- One state of a matching program. -/
inductive Op where
  | char (c : Char) (next : Nat)
  | set (s : Text.CharSet) (next : Nat)
  | split (preferred other : Nat)
  | check (a : Assertion) (next : Nat)
  | accept
  deriving DecidableEq, Repr

structure Program where
  ops : Array Op
  start : Nat
  deriving DecidableEq, Repr

namespace Program

/-- A fragment adds its states to a program and returns where to enter it, given
the state to continue with. -/
abbrev Fragment := Nat → Array Op → Array Op × Nat

def push (op : Op) (ops : Array Op) : Array Op × Nat :=
  let entry := ops.size
  (ops.push op, entry)

def choose (greedy : Bool) (go stop : Nat) : Op :=
  if greedy then .split go stop else .split stop go

def text : List Char → Fragment
  | [], next, ops => (ops, next)
  | c :: cs, next, ops =>
    let (ops, next) := push (.char c next) ops
    text cs next ops

def copies (body : Fragment) : Nat → Fragment
  | 0, next, ops => (ops, next)
  | n + 1, next, ops =>
    let (ops, entry) := body next ops
    copies body n entry ops

/-- At most `n` copies, each of which may stop the repetition.  `stop` is where
all of them leave to. -/
def optionalCopies (body : Fragment) (greedy : Bool) (stop : Nat) : Nat → Fragment
  | 0, next, ops => (ops, next)
  | n + 1, next, ops =>
    let (ops, go) := body next ops
    let (ops, entry) := push (choose greedy go stop) ops
    optionalCopies body greedy stop n entry ops

/-- One or more times.  Returns the entry of the body and the state that decides
whether to go round again. -/
def loop (body : Fragment) (greedy : Bool) (next : Nat) (ops : Array Op) :
    Array Op × Nat × Nat :=
  let (ops, again) := push .accept ops
  let (ops, entry) := body again ops
  (ops.setIfInBounds again (choose greedy entry next), entry, again)

/-- Zero or more times.  A body that can match nothing is entered through a state
of its own, because reaching the decision state by an empty pass would
otherwise count as having been there and change the order of preference. -/
def star (body : Fragment) (consumes greedy : Bool) (next : Nat) (ops : Array Op) :
    Array Op × Nat :=
  let (ops, entry, again) := loop body greedy next ops
  if consumes then (ops, again) else push (choose greedy entry next) ops

mutual

def fragment : Expr → Fragment
  | .empty, next, ops => (ops, next)
  | .literal cs, next, ops => text cs.reverse next ops
  | .set s, next, ops => push (.set s next) ops
  | .assert a, next, ops => push (.check a next) ops
  | .repeated r min none greedy, next, ops =>
    match min with
    | 0 => star (fragment r) r.consumes greedy next ops
    | n + 1 =>
      let (ops, entry, _) := loop (fragment r) greedy next ops
      copies (fragment r) n entry ops
  | .repeated r min (some max) greedy, next, ops =>
    let (ops, after) := optionalCopies (fragment r) greedy next (max - min) next ops
    copies (fragment r) min after ops
  | .group _ r, next, ops => fragment r next ops
  | .seq rs, next, ops => inOrder rs next ops
  | .alt rs, next, ops => inPreference rs next ops

def inOrder : List Expr → Fragment
  | [], next, ops => (ops, next)
  | r :: rs, next, ops =>
    let (ops, middle) := inOrder rs next ops
    fragment r middle ops

def inPreference : List Expr → Fragment
  | [], next, ops => (ops, next)
  | [r], next, ops => fragment r next ops
  | r :: rs, next, ops =>
    let (ops, second) := inPreference rs next ops
    let (ops, first) := fragment r next ops
    push (.split first second) ops

end

/-- State 0 accepts; everything else leads to it. -/
def ofExpr (r : Expr) : Program :=
  let (ops, start) := fragment r 0 #[.accept]
  { ops, start }

/-! ## Running -/

/-- Follow every state on the stack through the states that consume nothing and
collect those that consume or accept, most preferred first.  `seen` holds for
each state the last round it was entered in, so that a new round need not clear
it.  Each state is expanded at most once and pushes at most two others, which
bounds `fuel`. -/
def follow (ops : Array Op) (before after : Option Char) (round : Nat) :
    Nat → List Nat → Array Nat → List Nat → List Nat × Array Nat
  | 0, _, seen, found => (found.reverse, seen)
  | _, [], seen, found => (found.reverse, seen)
  | fuel + 1, s :: stack, seen, found =>
    if seen.getD s round = round then follow ops before after round fuel stack seen found
    else
      let seen := seen.setIfInBounds s round
      match ops[s]? with
      | none => follow ops before after round fuel stack seen found
      | some (.char _ _) | some (.set _ _) | some .accept =>
        follow ops before after round fuel stack seen (s :: found)
      | some (.check a next) =>
        if a.holds before after then
          follow ops before after round fuel (next :: stack) seen found
        else follow ops before after round fuel stack seen found
      | some (.split preferred other) =>
        follow ops before after round fuel (preferred :: other :: stack) seen found

def closure (p : Program) (before after : Option Char) (round : Nat) (targets : List Nat)
    (seen : Array Nat) : List Nat × Array Nat :=
  follow p.ops before after round (targets.length + 2 * p.ops.size + 1) targets seen []

def accepts (p : Program) (s : Nat) : Bool :=
  match p.ops[s]? with
  | some .accept => true
  | _ => false

def move? (p : Program) (c : Char) (s : Nat) : Option Nat :=
  match p.ops[s]? with
  | some (.char d next) => if c = d then some next else none
  | some (.set set next) => if set.contains c then some next else none
  | _ => none

/-- Read on from the states `threads`, which are at `position`.  A state that
accepts settles the match for every less preferred state, so those are dropped;
the more preferred ones may still find a longer match, which then replaces it. -/
def scan (p : Program) : List Char → List Nat → Nat → Array Nat → Option Nat → Option Nat
  | rest, threads, position, seen, best =>
    let live := threads.takeWhile (fun s => !p.accepts s)
    let best := if threads.any p.accepts then some position else best
    match rest with
    | [] => best
    | c :: rest =>
      match live.filterMap (p.move? c) with
      | [] => best
      | targets =>
        let (threads, seen) := p.closure (some c) rest.head? (position + 2) targets seen
        scan p rest threads (position + 1) seen best

def matchLength? (p : Program) (text : List Char) : Option Nat :=
  let (threads, seen) :=
    p.closure none text.head? 1 [p.start] (Array.replicate p.ops.size 0)
  p.scan text threads 0 seen none

/-- Where that match begins and ends. -/
def find (p : Program) (text : List Char) : Option (Nat × Nat) :=
  (p.matchLength? text).map (0, ·)

end Program

end Regex
end Backtrack
