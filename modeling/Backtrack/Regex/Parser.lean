import Backtrack.Regex.Class
import Backtrack.Text.Alphabetic

/-!
Reading regular expressions.  The reader goes through the source once, with the
groups still open on a stack.  Anything the notation does not define is refused
rather than taken literally: look-around, back-references, an unknown escape, a
repetition of nothing, an unfinished count.  Notation that nests too deeply is
refused as well.
-/

namespace Backtrack
namespace Regex
namespace Parser

/-! ## Groups -/

inductive Opening where
  | group (flags : Flags)
  | capture (name : Option String)
  | setFlags (flags : Flags)

/-- The flags up to the colon or parenthesis that ends them.  `negated` is set
once a hyphen was read, `last` is the flag or hyphen just read, and `seen` holds
the flags read so far, none of which may come twice. -/
def flags? (f : Flags) (negated : Bool) (last : Option Char) (seen : List Char) :
    List Char → Option (Flags × Bool × List Char)
  | [] => none
  | ':' :: rest => if last = some '-' then none else some (f, false, rest)
  | ')' :: rest => if last = some '-' || last = none then none else some (f, true, rest)
  | '-' :: rest => if negated then none else flags? f true (some '-') seen rest
  | c :: rest =>
    if seen.contains c then none
    else
      match f.set? (!negated) c with
      | some f => flags? f negated (some c) (c :: seen) rest
      | none => none

def isNameStart (c : Char) : Bool := c = '_' || Text.isAlphabetic c

def isNameChar (c : Char) : Bool :=
  c = '_' || c = '.' || c = '[' || c = ']' || Text.isAlphabetic c || Text.isNumeric c

/-- A group name up to its closing angle bracket. -/
def name? (cs : List Char) : Option (String × List Char) :=
  match cs.span (· != '>') with
  | (c :: name, _ :: rest) =>
    if isNameStart c && name.all isNameChar then some (String.ofList (c :: name), rest) else none
  | _ => none

def opening? (f : Flags) (cs : List Char) : Option (Opening × List Char) :=
  match skip f cs with
  | '?' :: '=' :: _ | '?' :: '!' :: _ | '?' :: '<' :: '=' :: _ | '?' :: '<' :: '!' :: _ => none
  | '?' :: 'P' :: '<' :: rest | '?' :: '<' :: rest =>
    (name? rest).map fun (name, rest) => (.capture (some name), rest)
  | '?' :: rest =>
    (flags? f false none [] rest).map fun (g, closed, rest) =>
      (if closed then .setFlags g else .group g, rest)
  | rest => some (.capture none, rest)

/-! ## The whole expression -/

/-- One piece of a sequence and the depth of what was written for it.  Setting
flags is a piece that matches nothing and cannot be repeated. -/
structure Item where
  expr : Expr
  depth : Nat := 0
  repeatable : Bool := true

/-- The depth of pieces that are put together.  A single one is no deeper than by
itself. -/
def depthOf (items : List Item) : Nat :=
  let deepest := items.foldl (fun n i => max n i.depth) 0
  if items.length < 2 then deepest else deepest + 1

/-- A group still open: the flags to return to when it ends, its number if it
captures, the alternatives already complete and the pieces of the current one,
both last first. -/
structure Level where
  outer : Flags
  index : Option Nat := none
  branches : List Item := []
  items : List Item := []

namespace Level

def add (l : Level) (item : Item) : Level := { l with items := item :: l.items }

def branch (l : Level) : Item :=
  { expr := Expr.sequence (l.items.reverse.map Item.expr), depth := depthOf l.items }

def nextBranch (l : Level) : Level := { l with branches := l.branch :: l.branches, items := [] }

def body (l : Level) : Item :=
  match l.branches with
  | [] => l.branch
  | branches =>
    let all := l.branch :: branches
    { expr := Expr.choice (all.reverse.map Item.expr), depth := depthOf all }

def close (l : Level) : Item :=
  let body := l.body
  { expr := match l.index with
      | some i => .group i body.expr
      | none => body.expr
    depth := body.depth + 1 }

end Level

structure State where
  flags : Flags := {}
  level : Level := { outer := {} }
  below : List Level := []
  names : List String := []
  /-- How many capturing groups were opened. -/
  captures : Nat := 0

namespace State

def add? (s : State) (item : Item) : Option State :=
  if item.depth ≤ maxDepth then some { s with level := s.level.add item } else none

def repeat? (s : State) (min : Nat) (max : Option Nat) (lazy : Bool) : Option State :=
  match s.level.items with
  | item :: items =>
    if item.repeatable then
      let greedy := !lazy != s.flags.swapGreed
      let s := { s with level := { s.level with items } }
      s.add? { expr := item.expr.times min max greedy, depth := item.depth + 1 }
    else none
  | [] => none

def push (s : State) (level : Level) : State :=
  { s with level, below := s.level :: s.below }

def start? (s : State) : Opening → Option State
  | .setFlags f => { s with flags := f }.add? { expr := .empty, repeatable := false }
  | .group f => some { s.push { outer := s.flags } with flags := f }
  | .capture name =>
    let opened :=
      { s.push { outer := s.flags, index := some s.captures } with captures := s.captures + 1 }
    match name with
    | none => some opened
    | some n => if s.names.contains n then none else some { opened with names := n :: s.names }

def stop? (s : State) : Option State :=
  match s.below with
  | [] => none
  | level :: below => { s with flags := s.level.outer, level, below }.add? s.level.close

def finish? (s : State) : Option Expr :=
  let body := s.level.body
  if s.below.isEmpty && body.depth ≤ maxDepth then some body.expr else none

end State

def lazyMark : List Char → Bool × List Char
  | '?' :: cs => (true, cs)
  | cs => (false, cs)

/-- A count in braces, after the opening one. -/
def count? (f : Flags) (cs : List Char) : Option (Nat × Option Nat × List Char) :=
  match decimal? f (skip f cs) with
  | (low, ',' :: rest) =>
    match skip f rest with
    | '\x7d' :: rest => low.map (·, none, rest)
    | rest =>
      match low, decimal? f rest with
      | some low, (some high, '\x7d' :: rest) =>
        if low ≤ high then some (low, some high, rest) else none
      | _, _ => none
  | (some n, '\x7d' :: rest) => some (n, some n, rest)
  | _ => none

def step? (s : State) : List Char → Option (State × List Char)
  | [] => none
  | '(' :: cs => do
    let (o, cs) ← opening? s.flags cs
    let s ← s.start? o
    some (s, cs)
  | ')' :: cs => s.stop?.map (·, cs)
  | '|' :: cs => some ({ s with level := s.level.nextBranch }, cs)
  | '[' :: cs => do
    let (operand, cs) ← class? s.flags cs
    let s ← s.add? { expr := .ofSet operand.set, depth := operand.depth }
    some (s, cs)
  | '?' :: cs =>
    let (lazy, cs) := lazyMark cs
    (s.repeat? 0 (some 1) lazy).map (·, cs)
  | '*' :: cs =>
    let (lazy, cs) := lazyMark cs
    (s.repeat? 0 none lazy).map (·, cs)
  | '+' :: cs =>
    let (lazy, cs) := lazyMark cs
    (s.repeat? 1 none lazy).map (·, cs)
  | '\x7b' :: cs => do
    let (min, max, cs) ← count? s.flags cs
    let (lazy, cs) := lazyMark (skip s.flags cs)
    let s ← s.repeat? min max lazy
    some (s, cs)
  | '\\' :: cs => do
    let (e, cs) ← escape? s.flags cs
    let r ← match e with
      | .literal c => s.flags.literal? c
      | .set set => some (Expr.ofSet set)
      | .assert a => some (.assert a)
    let s ← s.add? { expr := r }
    some (s, cs)
  | c :: cs => do
    let r ← match c with
      | '.' => s.flags.dot?
      | '^' => some (.assert s.flags.lineStart)
      | '$' => some (.assert s.flags.lineEnd)
      | c => s.flags.literal? c
    let s ← s.add? { expr := r }
    some (s, cs)

/-- Every step consumes a character, so the length of the source is enough
`fuel`. -/
def run : Nat → State → List Char → Option Expr
  | 0, _, _ => none
  | fuel + 1, s, cs =>
    match skip s.flags cs with
    | [] => s.finish?
    | cs =>
      match step? s cs with
      | some (s, cs) => run fuel s cs
      | none => none

end Parser

def parse? (source : List Char) : Option Expr :=
  Parser.run (source.length + 1) {} source

end Regex
end Backtrack
