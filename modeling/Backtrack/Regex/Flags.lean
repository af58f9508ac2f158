import Backtrack.Regex.Normal

/-!
The switches of a pattern, and what they make of the pieces of one.  Without
`unicode` the classes know ASCII only, and a set that reaches beyond ASCII has
no meaning and is refused.
-/

namespace Backtrack
namespace Regex

/-- The switches a pattern can turn on and off as it goes. -/
structure Flags where
  ignoreCase : Bool := false
  dotAll : Bool := false
  multiLine : Bool := false
  swapGreed : Bool := false
  ignoreBlank : Bool := false
  crlf : Bool := false
  unicode : Bool := true
  deriving Repr

namespace Flags

def set? (f : Flags) (on : Bool) : Char → Option Flags
  | 'i' => some { f with ignoreCase := on }
  | 's' => some { f with dotAll := on }
  | 'm' => some { f with multiLine := on }
  | 'U' => some { f with swapGreed := on }
  | 'x' => some { f with ignoreBlank := on }
  | 'R' => some { f with crlf := on }
  | 'u' => some { f with unicode := on }
  | _ => none

def word (f : Flags) : WordClass := if f.unicode then .unicode else .ascii

def lineStart (f : Flags) : Assertion :=
  if f.multiLine then (if f.crlf then .startLineCr else .startLine) else .startText

def lineEnd (f : Flags) : Assertion :=
  if f.multiLine then (if f.crlf then .endLineCr else .endLine) else .endText

/-! ## Sets -/

def asciiSet : Text.CharSet := .range '\x00' '\x7f'

def fold (f : Flags) (s : Text.CharSet) : Text.CharSet :=
  if !f.ignoreCase then s
  else if f.unicode then s.foldCase
  else s.foldCase.inter asciiSet

/-- The set if the flags allow it. -/
def allow? (f : Flags) (s : Text.CharSet) : Option Text.CharSet :=
  if f.unicode || s.isAscii then some s else none

/-- A set as it is meant: case is taken into account before the set is negated,
so that a letter is outside a negated set in both cases. -/
def finish? (f : Flags) (negated : Bool) (s : Text.CharSet) : Option Text.CharSet :=
  let s := f.fold s
  f.allow? (if negated then s.compl else s)

def class? (f : Flags) (negated : Bool) (unicode ascii : Text.CharSet) : Option Text.CharSet :=
  let s := if f.unicode then unicode else ascii
  f.allow? (if negated then s.compl else s)

def digit? (f : Flags) (negated : Bool) : Option Text.CharSet :=
  f.class? negated .digit (.range '0' '9')

def space? (f : Flags) (negated : Bool) : Option Text.CharSet :=
  f.class? negated .space (.ofChars ['\t', '\n', '\x0b', '\x0c', '\r', ' '])

def word? (f : Flags) (negated : Bool) : Option Text.CharSet :=
  f.class? negated .word
    (((Text.CharSet.range '0' '9').union (.range 'A' 'Z')).union
      ((Text.CharSet.single '_').union (.range 'a' 'z')))

/-! ## Expressions -/

/-- Every character, or every one that does not end a line. -/
def dot? (f : Flags) : Option Expr :=
  if !f.unicode then none
  else if f.dotAll then some (.set .all)
  else if f.crlf then some (.set (Text.CharSet.ofChars ['\n', '\r']).compl)
  else some (.set (Text.CharSet.single '\n').compl)

def literal? (f : Flags) (c : Char) : Option Expr :=
  if f.ignoreCase then (f.allow? (.single c)).map fun s => .ofSet (f.fold s)
  else some (.literal [c])

end Flags

end Regex
end Backtrack
