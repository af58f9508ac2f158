import Backtrack.Engine.State

/-!
Matching at the current position.  Inside a guarded region a match may not run
into the guard: the text it is tried on ends just before the first occurrence of
the guard past the first character.
-/

namespace Backtrack

namespace Engine

/-- The characters before the first occurrence of `guard`. -/
def before (guard : List Char) : List Char → List Char
  | [] => []
  | c :: rest => if guard.isPrefixOf (c :: rest) then [] else c :: before guard rest

/-- The part of the text that may be matched under a guard.  The first character
always may, and an empty guard guards nothing. -/
def cutAtGuard (guard : Option String) (text : List Char) : List Char :=
  match guard with
  | none => text
  | some guard =>
    match guard.toList, text with
    | [], text => text
    | _, [] => []
    | guard, c :: rest => c :: before guard rest

def matchAt {ω : Type} (config : Config) (scope : Scope) (p : Pattern) :
    Job ω (Option TokenRange) := do
  let text ← scope.cursor.peek (p.lookahead.getD config.matchWindow)
  let searched := cutAtGuard scope.regions.spans.guard text
  return (p.matchStart? searched).map (TokenRange.ofText · scope.cursor.offset)

end Engine

end Backtrack
