import Backtrack.Regex.Flags

/-!
Reading the source of a pattern character by character.  With `ignoreBlank` set,
blanks and comments may stand between any two characters that belong together,
the digits of a number included.
-/

namespace Backtrack
namespace Regex
namespace Parser

/-! ## Blanks -/

/-- Drop blanks and comments.  A comment runs from a hash to the end of its
line. -/
def dropBlanks : Bool → List Char → List Char
  | _, [] => []
  | true, c :: cs => dropBlanks (c != '\n') cs
  | false, c :: cs =>
    if Text.isSpace c then dropBlanks false cs
    else if c = '#' then dropBlanks true cs
    else c :: cs

def skip (f : Flags) (cs : List Char) : List Char :=
  if f.ignoreBlank then dropBlanks false cs else cs

theorem length_dropBlanks_le (comment : Bool) (cs : List Char) :
    (dropBlanks comment cs).length ≤ cs.length := by
  induction cs generalizing comment with
  | nil => cases comment <;> exact Nat.le_refl _
  | cons c cs ih =>
      cases comment with
      | true => exact Nat.le_succ_of_le (ih _)
      | false =>
          unfold dropBlanks
          split
          · exact Nat.le_succ_of_le (ih _)
          · split
            · exact Nat.le_succ_of_le (ih _)
            · exact Nat.le_refl _

theorem length_skip_le (f : Flags) (cs : List Char) : (skip f cs).length ≤ cs.length := by
  unfold skip
  split
  · exact length_dropBlanks_le false cs
  · exact Nat.le_refl _

/-- The first character that is neither blank nor the first hash.  Only used to
see whether a hyphen makes a range.  If there is none, the first character. -/
def peek? (f : Flags) (cs : List Char) : Option Char :=
  if !f.ignoreBlank then cs.head?
  else
    let rest := match cs.dropWhile Text.isSpace with
      | '#' :: rest => rest.dropWhile Text.isSpace
      | rest => rest
    rest.head?.or cs.head?

/-- The longest run of characters that pass the test, with blanks between them
dropped, and what follows. -/
def takeRun (f : Flags) (test : Char → Bool) : List Char → List Char × List Char
  | [] => ([], [])
  | c :: cs =>
    if test c then
      let (run, rest) := takeRun f test (skip f cs)
      (c :: run, rest)
    else ([], c :: cs)
termination_by cs => cs.length
decreasing_by
  simp only [List.length_cons]
  have := length_skip_le f cs
  omega

/-! ## Numbers -/

def isDecimal (c : Char) : Bool := '0' ≤ c && c ≤ '9'

def isHex (c : Char) : Bool :=
  isDecimal c || ('a' ≤ c && c ≤ 'f') || ('A' ≤ c && c ≤ 'F')

def digitValue (c : Char) : Nat :=
  if isDecimal c then c.toNat - '0'.toNat
  else if 'a' ≤ c then c.toNat - 'a'.toNat + 10
  else c.toNat - 'A'.toNat + 10

def numberValue (base : Nat) (digits : List Char) : Nat :=
  digits.foldl (fun n c => n * base + digitValue c) 0

/-- A count, with blanks allowed on both sides in any case.  None if there are no
digits or the number does not fit 32 bits. -/
def decimal? (f : Flags) (cs : List Char) : Option Nat × List Char :=
  let (digits, rest) := takeRun f isDecimal (cs.dropWhile Text.isSpace)
  let value := numberValue 10 digits
  (if digits.isEmpty || value ≥ UInt32.size then none else some value,
    (takeRun f Text.isSpace rest).2)

def hexDigits? (f : Flags) : Nat → List Char → Option (List Char × List Char)
  | 0, cs => some ([], cs)
  | _ + 1, [] => none
  | n + 1, c :: cs =>
    if isHex c then (hexDigits? f n (skip f cs)).map fun (digits, rest) => (c :: digits, rest)
    else none

/-- The character with the given code point, unless that is a surrogate or out of
range. -/
def char? (n : Nat) : Option Char :=
  if Nat.isValidChar n then some (Char.ofNat n) else none

end Parser
end Regex
end Backtrack
