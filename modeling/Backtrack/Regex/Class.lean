import Backtrack.Regex.Escape

/-!
Bracketed classes: unions of characters, ranges and other classes, combined by
the set operations and possibly negated.  The classes still open are kept on a
stack, and with each the depth to which its notation nests, because deep
notation is refused.
-/

namespace Backtrack
namespace Regex
namespace Parser

def maxDepth : Nat := 250

def asciiClass? (name : String) : Option Text.CharSet :=
  match name with
  | "alnum" => some (ranges ['0', '9', 'A', 'Z', 'a', 'z'])
  | "alpha" => some (ranges ['A', 'Z', 'a', 'z'])
  | "ascii" => some (ranges ['\x00', '\x7f'])
  | "blank" => some (ranges ['\t', '\t', ' ', ' '])
  | "cntrl" => some (ranges ['\x00', '\x1f', '\x7f', '\x7f'])
  | "digit" => some (ranges ['0', '9'])
  | "graph" => some (ranges ['!', '~'])
  | "lower" => some (ranges ['a', 'z'])
  | "print" => some (ranges [' ', '~'])
  | "punct" => some (ranges ['!', '/', ':', '@', '[', '\x60', '\x7b', '~'])
  | "space" => some (ranges ['\t', '\r', ' ', ' '])
  | "upper" => some (ranges ['A', 'Z'])
  | "word" => some (ranges ['0', '9', 'A', 'Z', '_', '_', 'a', 'z'])
  | "xdigit" => some (ranges ['0', '9', 'A', 'F', 'a', 'f'])
  | _ => none
where
  ranges : List Char → Text.CharSet
    | lo :: hi :: rest => (Text.CharSet.range lo hi).union (ranges rest)
    | _ => .empty

/-- A named class after its opening bracket, if one is written in full: whether
it is negated, its members, and what follows. -/
def namedClass? : List Char → Option (Bool × Text.CharSet × List Char)
  | ':' :: cs =>
    let (negated, cs) := match cs with
      | '^' :: cs => (true, cs)
      | cs => (false, cs)
    match cs.span (· != ':') with
    | (name, ':' :: ']' :: rest) => (asciiClass? (String.ofList name)).map (negated, ·, rest)
    | _ => none
  | _ => none

inductive SetOp where
  | inter
  | diff
  | symmDiff

def SetOp.apply : SetOp → Text.CharSet → Text.CharSet → Text.CharSet
  | .inter, a, b => a.inter b
  | .diff, a, b => a.diff b
  | .symmDiff, a, b => a.symmDiff b

/-- A set and the depth of what was written for it. -/
structure Operand where
  set : Text.CharSet
  depth : Nat

structure OpenClass where
  negated : Bool
  /-- The operand on the left of an operation whose right side is being read. -/
  left : Option (SetOp × Operand) := none
  /-- The union read since. -/
  members : Text.CharSet := .empty
  /-- How many items are in the union. -/
  count : Nat := 0
  /-- The deepest of them. -/
  depth : Nat := 0

namespace OpenClass

def add (c : OpenClass) (s : Text.CharSet) (depth : Nat) : OpenClass :=
  { c with members := c.members.union s, count := c.count + 1, depth := max c.depth depth }

/-- The operand read so far.  Both sides of an operation ignore case by
themselves, before the operation. -/
def operand (f : Flags) (c : OpenClass) : Operand :=
  let right : Operand :=
    { set := c.members, depth := if c.count < 2 then c.depth else c.depth + 1 }
  match c.left with
  | none => right
  | some (op, left) =>
    { set := op.apply (f.fold left.set) (f.fold right.set)
      depth := max left.depth right.depth + 1 }

def startOp (f : Flags) (c : OpenClass) (op : SetOp) : OpenClass :=
  { negated := c.negated, left := some (op, c.operand f) }

/-- The whole class, refused if it nests too deeply. -/
def close? (f : Flags) (c : OpenClass) : Option Operand := do
  let operand := c.operand f
  let set ← f.finish? c.negated operand.set
  if operand.depth < maxDepth then some { set, depth := operand.depth + 1 } else none

end OpenClass

/-- The start of a class, after its bracket: whether it is negated, and what
stands for itself only there, any hyphens or else one closing bracket. -/
def classHead (f : Flags) (cs : List Char) : OpenClass × List Char :=
  let (negated, cs) := match skip f cs with
    | '^' :: cs => (true, skip f cs)
    | cs => (false, cs)
  match takeRun f (· = '-') cs with
  | ([], ']' :: rest) =>
    ({ negated, members := .single ']', count := 1 }, skip f rest)
  | ([], rest) => ({ negated }, rest)
  | (hyphens, rest) => ({ negated, members := .single '-', count := hyphens.length }, rest)

def classItem? (f : Flags) : List Char → Option (Escaped × List Char)
  | [] => none
  | '\\' :: cs => escape? f cs
  | c :: cs => some (.literal c, cs)

def Escaped.set? (f : Flags) : Escaped → Option Text.CharSet
  | .literal c => f.allow? (.single c)
  | .set s => some s
  | .assert _ => none

/-- One member of a class or one range.  A hyphen before the closing bracket or
before another hyphen does not make a range. -/
def classRange? (f : Flags) (cs : List Char) : Option (Text.CharSet × List Char) := do
  let (first, cs) ← classItem? f cs
  match skip f cs with
  | [] => none
  | '-' :: rest =>
    if peek? f rest = some ']' || peek? f rest = some '-' then
      (first.set? f).map (·, '-' :: rest)
    else
      let (second, rest) ← classItem? f (skip f rest)
      match first, second with
      | .literal lo, .literal hi =>
        if lo ≤ hi then (f.allow? (.range lo hi)).map (·, rest) else none
      | _, _ => none
  | cs => (first.set? f).map (·, cs)

/-- Read on in the class `c`, with the classes around it on a stack.  Every step
consumes a character, so the length of the source is enough `fuel`. -/
def classBody? (f : Flags) :
    Nat → OpenClass → List OpenClass → List Char → Option (Operand × List Char)
  | 0, _, _, _ => none
  | fuel + 1, c, around, cs =>
    match skip f cs with
    | [] => none
    | '[' :: rest =>
      match namedClass? rest with
      | some (negated, s, rest) =>
        match f.finish? negated s with
        | some s => classBody? f fuel (c.add s 0) around rest
        | none => none
      | none =>
        let (inner, rest) := classHead f rest
        classBody? f fuel inner (c :: around) rest
    | ']' :: rest =>
      match c.close? f, around with
      | some whole, [] => some (whole, rest)
      | some whole, outer :: around =>
        classBody? f fuel (outer.add whole.set whole.depth) around rest
      | none, _ => none
    | '&' :: '&' :: rest => classBody? f fuel (c.startOp f .inter) around rest
    | '-' :: '-' :: rest => classBody? f fuel (c.startOp f .diff) around rest
    | '~' :: '~' :: rest => classBody? f fuel (c.startOp f .symmDiff) around rest
    | cs =>
      match classRange? f cs with
      | some (s, rest) => classBody? f fuel (c.add s 0) around rest
      | none => none

def class? (f : Flags) (cs : List Char) : Option (Operand × List Char) :=
  let (c, rest) := classHead f cs
  classBody? f (cs.length + 1) c [] rest

end Parser
end Regex
end Backtrack
