import Backtrack.Regex.Footprint
import Backtrack.Regex.Parser
import Backtrack.Regex.Program
import Backtrack.Text.Quoted

/-!
Patterns: what may be matched at a position of the input, and what a match
covers.
-/

namespace Backtrack

/-- What carries out a regular expression: where in a text the first match begins
and where it ends, in characters. -/
abbrev Matcher := List Char → Option (Nat × Nat)

namespace Regex

/-- The program of an expression.  None if the notation does not allow it or it is
too large. -/
def program? (source : String) : Option Program := do
  let r ← parse? source.toList
  guard (Footprint.fits r)
  return .ofExpr r

def matcher? (source : String) : Option Matcher := (program? source).map Program.find

end Regex

inductive Pattern where
  | literal (text : String)
  /-- A regular expression with the source it was written as. -/
  | regex (source : String) (find : Matcher)

namespace Pattern

/-- The source as it is read: fixed to the start of the text. -/
def anchor (source : String) : String := "^(?:" ++ source ++ ")"

/-- A regular expression given as such.  `source` only serves to show it. -/
def ofExpr (source : String) (r : Regex.Expr) : Pattern :=
  .regex source (Regex.Program.ofExpr r).find

def regex? (source : String) (compile : String → Option Matcher := Regex.matcher?) :
    Option Pattern :=
  (compile (anchor source)).map (.regex source)

/-- How many characters a match may need.  None for as many as are allowed. -/
def lookahead : Pattern → Option Nat
  | .literal text => some text.length
  | .regex _ _ => none

/-- How many characters at the start of `text` the pattern matches.  A match that
begins further on does not count. -/
def matchLength? (p : Pattern) (text : List Char) : Option Nat :=
  match p with
  | .literal word => if word.toList.isPrefixOf text then some word.length else none
  | .regex _ find => ((find text).filter (·.1 == 0)).map (·.2)

/-- The part of `text` the pattern matches, which is a start of it. -/
def matchStart? (p : Pattern) (text : List Char) : Option (List Char) :=
  (p.matchLength? text).map text.take

def render : Pattern → String
  | .literal text => Text.quote text
  | .regex source _ => "/" ++ anchor source ++ "/"

end Pattern

/-- Matched text with the offsets it covers. -/
structure TokenRange where
  text : String
  start : Nat
  stop : Nat
  deriving DecidableEq, Repr

namespace TokenRange

def ofText (text : List Char) (start : Nat) : TokenRange :=
  { text := String.ofList text, start, stop := start + text.length }

def length (r : TokenRange) : Nat := r.stop - r.start

def isEmpty (r : TokenRange) : Bool := r.start == r.stop

end TokenRange

end Backtrack
