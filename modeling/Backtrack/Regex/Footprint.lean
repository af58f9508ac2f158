import Backtrack.Regex.Basic
import Backtrack.Regex.Utf8
import Std.Data.TreeMap

/-!
How much memory an expression takes as an automaton over bytes, read forward and
read backward.  Expressions that take more than ten mebibytes either way are
refused.  The automaton itself is not built, only measured, state by state in
the order it would be built in: the ends of characters share their states as
long as a table of fixed size still holds them, so the count depends on the
numbers that the states have.
-/

namespace Backtrack
namespace Regex
namespace Footprint

/-- The most memory an expression may take, in bytes. -/
def limit : Nat := 10 * 1024 * 1024

inductive Direction where
  | forward
  | backward
  deriving DecidableEq, Repr

/-- An automaton as far as it was measured. -/
structure Draft where
  states : Nat := 0
  bytes : Nat := 0
  /-- States that may be used again, each by what it does, in the slot that this
  determines.  A later one takes the place of an earlier one in the same slot. -/
  shared : Std.TreeMap Nat (List Nat × Nat) := {}

/-- A part of the measurement.  None as soon as the limit is passed. -/
abbrev Measure (α : Type) := StateT Draft Option α

def grow (bytes : Nat) : Measure Unit := do
  let d ← get
  let d := { d with bytes := d.bytes + bytes }
  if d.bytes ≤ limit then set d else failure

/-- Add `n` states of the least size.  Returns the number of the first. -/
def addStates (n : Nat) : Measure Nat := do
  let first := (← get).states
  modify fun d => { d with states := d.states + n }
  grow (32 * n)
  return first

/-- Add a state that leads to a state for each of `edges` byte ranges. -/
def addEdges (edges : Nat) : Measure Nat := do
  let id ← addStates 1
  grow (8 * edges)
  return id

/-- The state a part ends in.  Leading on from a choice makes that choice larger,
while any other state has its one successor reserved. -/
inductive Exit where
  | plain
  | choice
  deriving DecidableEq, Repr

def leave : Exit → Measure Unit
  | .plain => pure ()
  | .choice => grow 4

/-- Add `n` ways on to a choice. -/
def offer (n : Nat) : Measure Unit := grow (4 * n)

/-! ## Sets of characters -/

def slot (slots : Nat) (key : List Nat) : Nat :=
  let hash := key.foldl (fun (h : UInt64) n => (h ^^^ n.toUInt64) * 1099511628211)
    14695981039346656037
  hash.toNat % slots

/-- A state that does what `key` says: the one in its slot, or a new one. -/
def share (slots : Nat) (key : List Nat) (new : Measure Nat) : Measure Nat := do
  let place := slot slots key
  match (← get).shared[place]? with
  | some (known, id) =>
    if known = key then return id
    else build place
  | none => build place
where
  build (place : Nat) : Measure Nat := do
    let id ← new
    modify fun d => { d with shared := d.shared.insert place (key, id) }
    return id

/-- A state whose edges are still being collected, last first.  The last edge of
all has no target yet. -/
structure Node where
  edges : List (Nat × Nat × Nat) := []
  last : Option (Nat × Nat) := none

namespace Node

/-- Give the last edge its target. -/
def freeze (n : Node) (target : Nat) : Node :=
  match n.last with
  | some (lo, hi) => { edges := (lo, hi, target) :: n.edges }
  | none => n

def key (n : Node) : List Nat := n.edges.reverse.flatMap fun (lo, hi, target) => [lo, hi, target]

end Node

/-- Finish a chain of nodes, each of which is the target of the last edge of the
one before.  Returns the number of the first, or `target` if there is none. -/
def finishNodes (target : Nat) : List Node → Measure Nat
  | [] => return target
  | n :: deeper => do
    let next ← finishNodes target deeper
    let n := n.freeze next
    share 10000 n.key (addEdges n.edges.length)

/-- Add the form of some characters to a chain of nodes.  As much of the chain as
the form has in common with the form before it stays open; the rest is
finished. -/
def addForm (target : Nat) : List (Nat × Nat) → List Node → Measure (List Node)
  | r :: rs, n :: deeper => do
    if n.last = some r then
      return n :: (← addForm target rs deeper)
    else
      let next ← finishNodes target deeper
      let n := n.freeze next
      return { n with last := some r } :: rs.map fun r => { last := some r }
  | _, nodes => return nodes

def forms (s : Text.CharSet) : List (List (Nat × Nat)) := s.ranges.flatMap Utf8.sequences

def set : Direction → Text.CharSet → Measure Unit
  | dir, s => do
    if s.isAscii then
      let _ ← addStates 1
      let _ ← addEdges s.ranges.length
    else
      modify fun d => { d with shared := {} }
      match dir with
      | .forward =>
        let target ← addStates 1
        let nodes ← (forms s).foldlM (fun nodes form => addForm target form nodes) [{}]
        let _ ← finishNodes target nodes
      | .backward =>
        let _ ← addStates 1
        let stop ← addStates 1
        (forms s).forM fun form => do
          let _ ← form.foldlM (fun next (lo, hi) => share 1000 [next, lo, hi] (addStates 1)) stop
          offer 1

/-! ## Alternatives that are all literal

They are measured as a tree of bytes that shares what they have in common at the
start, as far as the order of preference allows. -/

/-- The words at a node of the tree, in order, cut where a word ends there.  A
word that ends where another ended before anything else is no cut. -/
def cuts (words : List (List Nat)) : List (List (List Nat)) :=
  let step (acc : List (List (List Nat)) × List (List Nat) × Bool) (word : List Nat) :=
    let (done, current, any) := acc
    if word.isEmpty then
      if !any && !done.isEmpty then acc else (current.reverse :: done, [], any)
    else (done, word :: current, true)
  let (done, current, _) := words.foldl step ([], [], false)
  (current.reverse :: done).reverse

/-- What follows each first byte, in order. -/
def byFirst (words : List (List Nat)) : List (Nat × List (List Nat)) :=
  words.reverse.foldl (fun groups word => match word with
    | [] => groups
    | b :: rest => put b rest groups) []
where
  put (b : Nat) (rest : List Nat) : List (Nat × List (List Nat)) → List (Nat × List (List Nat))
    | [] => [(b, [rest])]
    | (c, rests) :: groups =>
      if b = c then (c, rest :: rests) :: groups else (c, rests) :: put b rest groups

/-- Measure the node where the given words go on.  `fuel` is more than the length
of every word. -/
def tree : Nat → List (List Nat) → Measure Unit
  | 0, _ => pure ()
  | fuel + 1, words => do
    if words.all List.isEmpty then pure ()
    else
      let parts := (cuts words).map byFirst
      parts.forM fun groups => do
        groups.forM fun (_, rests) => tree fuel rests
        match groups with
        | [] => pure ()
        | [_] =>
          let _ ← addStates 1
          offer 1
        | groups =>
          let _ ← addEdges groups.length
          offer 1
      let _ ← addStates 1
      offer (parts.length - 1)

/-- The bytes of alternatives that are all literal, if there are at least two. -/
def words? (rs : List Expr) : Option (List (List Nat)) :=
  if rs.length < 2 then none
  else rs.mapM fun | .literal text => some (Utf8.encodeAll text) | _ => none

def literals (dir : Direction) (words : List (List Nat)) : Measure Unit := do
  let words := if dir = .forward then words else words.map List.reverse
  let _ ← addStates 1
  tree (words.foldl (fun n w => max n w.length) 0 + 1) words

/-! ## Repetitions -/

/-- `n` more copies after a part that ends in `exit`. -/
def copies (body : Measure Exit) : Nat → Exit → Draft → Option (Exit × Draft)
  | 0, exit, d => some (exit, d)
  | n + 1, exit, d =>
    match (do leave exit; body : Measure Exit) d with
    | none => none
    | some (exit, d) => copies body n exit d

def exactly (body : Measure Exit) : Nat → Measure Exit
  | 0 => do
    let _ ← addStates 1
    return .plain
  | n + 1 => do
    let exit ← body
    copies body n exit

/-- `n` copies after a part that ends in `exit`, each behind a choice to stop. -/
def optional (body : Measure Exit) : Nat → Exit → Draft → Option (Exit × Draft)
  | 0, exit, d => some (exit, d)
  | n + 1, exit, d =>
    match (do
      let _ ← addStates 1
      leave exit
      offer 2
      body : Measure Exit) d with
    | none => none
    | some (exit, d) => optional body n exit d

/-- At least `min` times.  `consumes` says whether every pass through the body
consumes something. -/
def atLeast (body : Measure Exit) (consumes : Bool) : Nat → Measure Exit
  | 0 => do
    if consumes then
      let _ ← addStates 1
      let exit ← body
      leave exit
      offer 1
      return .choice
    else
      let exit ← body
      leave exit
      let _ ← addStates 3
      offer 4
      return .plain
  | n + 1 => do
    if n > 0 then
      let exit ← exactly body n
      leave exit
    let exit ← body
    let _ ← addStates 1
    leave exit
    offer 1
    return .choice

def between (body : Measure Exit) (min max : Nat) : Measure Exit := do
  if min = 0 && max = 1 then
    let _ ← addStates 1
    let exit ← body
    leave exit
    let _ ← addStates 1
    offer 2
    return .plain
  else
    let exit ← exactly body min
    if min = max then return exit
    let _ ← addStates 1
    let exit ← optional body (max - min) exit
    leave exit
    return .plain

/-! ## Expressions -/

mutual

def expr (dir : Direction) : Expr → Measure Exit
  | .empty | .assert _ => do
    let _ ← addStates 1
    return .plain
  | .literal text => do
    let _ ← addStates (Utf8.encodeAll text).length
    return .plain
  | .set s => do
    set dir s
    return .plain
  | .repeated r min none _ => atLeast (expr dir r) r.consumes min
  | .repeated r min (some max) _ => between (expr dir r) min max
  | .group _ r => do
    match dir with
    | .forward =>
      let _ ← addStates 1
      let exit ← expr dir r
      leave exit
      let _ ← addStates 1
      return .plain
    | .backward => expr dir r
  | .seq rs => do
    match dir with
    | .forward => inOrder dir rs .plain
    | .backward => fromLast dir rs
  | .alt rs => do
    match words? rs with
    | some words => literals dir words
    | none => alternatives dir rs
    return .plain

def inOrder (dir : Direction) : List Expr → Exit → Measure Exit
  | [], exit => return exit
  | r :: rs, exit => do
    leave exit
    let exit ← expr dir r
    inOrder dir rs exit

/-- One after the other, the last one first. -/
def fromLast (dir : Direction) : List Expr → Measure Exit
  | [] => return .plain
  | r :: rs => do
    let exit ← fromLast dir rs
    leave exit
    expr dir r

/-- The choice between alternatives and the state they join in are made once
there are two of them. -/
def alternatives (dir : Direction) : List Expr → Measure Unit
  | [] => pure ()
  | r :: rs => do
    let exit ← expr dir r
    leave exit
    offer 1
    match rs with
    | [] => pure ()
    | s :: rest =>
      let exit ← expr dir s
      leave exit
      offer 1
      let _ ← addStates 2
      others dir rest

def others (dir : Direction) : List Expr → Measure Unit
  | [] => pure ()
  | r :: rs => do
    let exit ← expr dir r
    leave exit
    offer 1
    others dir rs

end

/-- A whole automaton.  Unless every match begins where the reading begins, the
expression is led up to by a loop over all bytes. -/
def whole (dir : Direction) (r : Expr) : Measure Unit := do
  let shape := r.shape
  if if dir = .forward then shape.atStart else shape.atEnd then
    let _ ← addStates 1
  else
    let _ ← addStates 2
    let _ ← addEdges 1
    offer 2
  match dir with
  | .forward =>
    let _ ← addStates 1
    let exit ← expr dir r
    leave exit
    let _ ← addStates 2
  | .backward =>
    let exit ← expr dir r
    leave exit
    let _ ← addStates 1

def fits (r : Expr) : Bool :=
  ((whole .forward r).run {}).isSome && ((whole .backward r).run {}).isSome

end Footprint
end Regex
end Backtrack
