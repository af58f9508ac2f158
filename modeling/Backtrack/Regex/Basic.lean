import Backtrack.Text.CharSet

/-!
Regular expressions.  What a match captures is never asked for, only how far it
reaches; groups are kept all the same, because they count towards the size of an
expression.
-/

namespace Backtrack
namespace Regex

/-- What counts as a part of a word. -/
inductive WordClass where
  | unicode
  | ascii
  deriving DecidableEq, Repr

namespace WordClass

def contains : WordClass → Char → Bool
  | .unicode, c => Text.isWord c
  | .ascii, c => c.isAlphanum || c = '_'

end WordClass

/-- Conditions on a position that consume nothing. -/
inductive Assertion where
  | startText
  | endText
  /-- At the start of the text or after a line feed. -/
  | startLine
  /-- At the end of the text or before a line feed. -/
  | endLine
  /-- As `startLine`, where a carriage return with its line feed ends a line. -/
  | startLineCr
  | endLineCr
  | wordBoundary (w : WordClass)
  | notWordBoundary (w : WordClass)
  | wordStart (w : WordClass)
  | wordEnd (w : WordClass)
  /-- No word character stands before. -/
  | wordStartHalf (w : WordClass)
  /-- No word character stands after. -/
  | wordEndHalf (w : WordClass)
  deriving DecidableEq, Repr

namespace Assertion

/-- Whether the condition holds between the characters `before` and `after`,
which are absent at the ends of the text. -/
def holds (before after : Option Char) : Assertion → Bool
  | .startText => before.isNone
  | .endText => after.isNone
  | .startLine => before.isNone || before == some '\n'
  | .endLine => after.isNone || after == some '\n'
  | .startLineCr =>
    before.isNone || before == some '\n' || (before == some '\r' && after != some '\n')
  | .endLineCr =>
    after.isNone || after == some '\r' || (after == some '\n' && before != some '\r')
  | .wordBoundary w => before.any w.contains != after.any w.contains
  | .notWordBoundary w => before.any w.contains == after.any w.contains
  | .wordStart w => !before.any w.contains && after.any w.contains
  | .wordEnd w => before.any w.contains && !after.any w.contains
  | .wordStartHalf w => !before.any w.contains
  | .wordEndHalf w => !after.any w.contains

end Assertion

inductive Expr where
  | empty
  | literal (text : List Char)
  | set (s : Text.CharSet)
  | assert (a : Assertion)
  /-- At least `min` and, with a bound, at most `max` times.  A greedy repetition
  prefers to go on, a lazy one to stop. -/
  | repeated (r : Expr) (min : Nat) (max : Option Nat) (greedy : Bool)
  | group (index : Nat) (r : Expr)
  | seq (rs : List Expr)
  /-- The alternatives in order of preference. -/
  | alt (rs : List Expr)
  deriving Repr

namespace Expr

def plus (r : Expr) : Expr := .repeated r 1 none true

def never : Expr := .set .empty

mutual

/-- Whether two expressions are written alike.  Groups with different numbers
are not. -/
def same : Expr → Expr → Bool
  | .empty, .empty => true
  | .literal s, .literal t => s == t
  | .set s, .set t => s == t
  | .assert a, .assert b => a == b
  | .repeated r min max greedy, .repeated r' min' max' greedy' =>
    r.same r' && min == min' && max == max' && greedy == greedy'
  | .group i r, .group j r' => i == j && r.same r'
  | .seq rs, .seq ss => sameAll rs ss
  | .alt rs, .alt ss => sameAll rs ss
  | _, _ => false

def sameAll : List Expr → List Expr → Bool
  | [], [] => true
  | r :: rs, s :: ss => r.same s && sameAll rs ss
  | _, _ => false

end

end Expr

/-! ## Lengths and anchors -/

/-- What is known about the matches of an expression.  Lengths are in bytes of
UTF-8. -/
structure Shape where
  /-- No match is shorter.  None if an alternative never matches. -/
  minLength : Option Nat
  /-- No match is longer.  None without a bound. -/
  maxLength : Option Nat
  /-- Every match begins at the start of the text. -/
  atStart : Bool := false
  /-- Every match ends at the end of the text. -/
  atEnd : Bool := false
  deriving Repr

namespace Shape

def ofLength (n : Nat) : Shape := { minLength := some n, maxLength := some n }

/-- Whether one of the shapes passes the test, up to the first that may consume
something. -/
def leading (test : Shape → Bool) : List Shape → Bool
  | [] => false
  | s :: rest => test s || (s.maxLength == some 0 && leading test rest)

def seq (shapes : List Shape) : Shape :=
  { minLength := shapes.foldr (fun s n => do return (← s.minLength) + (← n)) (some 0)
    maxLength := shapes.foldr (fun s n => do return (← s.maxLength) + (← n)) (some 0)
    atStart := leading Shape.atStart shapes
    atEnd := leading Shape.atEnd shapes.reverse }

def alt (shapes : List Shape) : Shape :=
  { minLength := (shapes.mapM Shape.minLength).bind List.min?
    maxLength := (shapes.mapM Shape.maxLength).bind List.max?
    atStart := shapes.all Shape.atStart
    atEnd := shapes.all Shape.atEnd }

end Shape

namespace Expr

/-- The number of bytes the code point `n` takes in UTF-8. -/
def codeLength (n : Nat) : Nat :=
  if n < 0x80 then 1 else if n < 0x800 then 2 else if n < 0x10000 then 3 else 4

mutual

def shape : Expr → Shape
  | .empty => .ofLength 0
  | .literal text => .ofLength ((text.map fun c => codeLength c.toNat).sum)
  | .set s =>
    { minLength := s.ranges.head?.map fun r => codeLength r.1
      maxLength := s.ranges.getLast?.map fun r => codeLength r.2 }
  | .assert a =>
    { Shape.ofLength 0 with atStart := a == .startText, atEnd := a == .endText }
  | .repeated r min max _ =>
    let body := r.shape
    { minLength := body.minLength.map (· * min)
      maxLength := do return (← body.maxLength) * (← max)
      atStart := min > 0 && body.atStart
      atEnd := min > 0 && body.atEnd }
  | .group _ r => r.shape
  | .seq rs => .seq (shapes rs)
  | .alt rs => .alt (shapes rs)

def shapes : List Expr → List Shape
  | [] => []
  | r :: rs => r.shape :: shapes rs

end

def consumes (r : Expr) : Bool := r.shape.minLength.any (· > 0)

end Expr

end Regex
end Backtrack
