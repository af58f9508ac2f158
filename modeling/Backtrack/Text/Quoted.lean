import Backtrack.Text.CharSet
import Backtrack.Text.GraphemeExtend
import Backtrack.Text.Unprintable

/-!
Quoted text.  A text is shown between double quotes.  The quote, the backslash
and four control characters are written with a backslash and a letter, and any
other character that cannot be read as itself is written by its code point.
-/

namespace Backtrack
namespace Text

def CharSet.graphemeExtend : CharSet := ⟨graphemeExtendRanges, increasing_graphemeExtendRanges⟩

def CharSet.unprintable : CharSet := ⟨unprintableRanges, increasing_unprintableRanges⟩

/-- Whether a character is written by its code point: it has no glyph of its
own, or it would attach to the character before it. -/
def isHidden (c : Char) : Bool :=
  CharSet.graphemeExtend.contains c || CharSet.unprintable.contains c

/-- A code point in lower-case hexadecimal between braces. -/
def escapeCode (c : Char) : List Char :=
  ['\\', 'u', '\x7b'] ++ Nat.toDigits 16 c.toNat ++ ['\x7d']

def escapeChar (c : Char) : List Char :=
  if c = '\x00' then ['\\', '0']
  else if c = '\t' then ['\\', 't']
  else if c = '\r' then ['\\', 'r']
  else if c = '\n' then ['\\', 'n']
  else if c = '"' then ['\\', '"']
  else if c = '\\' then ['\\', '\\']
  else if isHidden c then escapeCode c
  else [c]

def quoteChars (cs : List Char) : List Char :=
  '"' :: cs.flatMap escapeChar ++ ['"']

/-- A text between double quotes, with everything escaped that needs it. -/
def quote (s : String) : String := String.ofList (quoteChars s.toList)

end Text
end Backtrack
