import Backtrack.Regex.Basic

/-!
Expressions in normal form.  They are put together by functions that leave out
what makes no difference to a match: a sequence holds no sequences and no two
literals side by side, alternatives hold no alternatives, and a repetition of
something that consumes nothing is done at most once.
-/

namespace Backtrack
namespace Regex
namespace Expr

/-- One of a set of characters, which is a literal if there is only one. -/
def ofSet (s : Text.CharSet) : Expr :=
  match s.only? with
  | some c => .literal [c]
  | none => .set s

def parts : Expr → List Expr
  | .empty => []
  | .seq rs => rs
  | r => [r]

def joinLiterals : List Expr → List Expr
  | [] => []
  | r :: rs =>
    match r, joinLiterals rs with
    | .literal s, .literal t :: rest => .literal (s ++ t) :: rest
    | r, rest => r :: rest

def sequence (rs : List Expr) : Expr :=
  match joinLiterals (rs.flatMap parts) with
  | [] => .empty
  | [r] => r
  | rs => .seq rs

def branches : Expr → List Expr
  | .alt rs => rs
  | r => [r]

def char? : Expr → Option Char
  | .literal [c] => some c
  | _ => none

def set? : Expr → Option Text.CharSet
  | .set s => some s
  | _ => none

/-- Alternatives that are characters only, or sets only, are one set. -/
def asSet? (rs : List Expr) : Option Text.CharSet :=
  match rs.mapM char? with
  | some cs => some (.ofChars cs)
  | none => (rs.mapM set?).map fun sets => sets.foldl .union .empty

def commonStart : List Expr → List Expr → List Expr
  | r :: rs, s :: ss => if r.same s then r :: commonStart rs ss else []
  | _, _ => []

def sharedStart : List Expr → List Expr
  | [] => []
  | r :: rs =>
    match (r :: rs).mapM fun | .seq items => some items | _ => none with
    | some (first :: rest) => rest.foldl commonStart first
    | _ => []

def unite (rs : List Expr) : Expr :=
  match rs.flatMap branches with
  | [] => never
  | [r] => r
  | rs =>
    match asSet? rs with
    | some s => ofSet s
    | none => .alt rs

/-- Alternatives in order of preference.  What all of them begin with is matched
once, before they part. -/
def choice (rs : List Expr) : Expr :=
  match unite rs with
  | .alt rs =>
    match sharedStart rs with
    | [] => .alt rs
    | shared =>
      let rest := rs.map fun r => sequence (r.parts.drop shared.length)
      sequence (shared ++ [unite rest])
  | r => r

/-- A repetition.  Doing nothing twice is doing it once. -/
def times (r : Expr) (min : Nat) (max : Option Nat) (greedy : Bool) : Expr :=
  let (min, max) :=
    if r.shape.maxLength = some 0 then (min.min 1, some ((max.getD 1).min 1)) else (min, max)
  if max = some 0 then .empty
  else if min = 1 && max = some 1 then r
  else .repeated r min max greedy

end Expr

end Regex
end Backtrack
