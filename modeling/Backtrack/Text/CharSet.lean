import Backtrack.Text.CaseOrbit
import Backtrack.Text.CharClass

/-!
Sets of characters.  A set is kept as its ranges in increasing order, so that
two sets built from touching or overlapping pieces are equal when they have the
same members.  The surrogates are no characters: a range may run across them,
but none starts or ends there.
-/

namespace Backtrack
namespace Text

structure CharSet where
  ranges : Ranges
  increasing : ranges.Increasing
  deriving DecidableEq, Repr

namespace CharSet

def contains (s : CharSet) (c : Char) : Bool := s.ranges.has c.toNat

def empty : CharSet := ⟨[], trivial⟩

def insert (s : CharSet) (lo hi : Nat) : CharSet :=
  ⟨s.ranges.insert lo hi, s.increasing.insert lo hi⟩

def insertAll (s : CharSet) (ranges : Ranges) : CharSet :=
  ranges.foldr (fun r s => s.insert r.1 r.2) s

def ofRanges (ranges : Ranges) : CharSet := empty.insertAll ranges

def range (lo hi : Char) : CharSet := ofRanges [(lo.toNat, hi.toNat)]

def single (c : Char) : CharSet := range c c

def ofChars (cs : List Char) : CharSet := ofRanges (cs.map fun c => (c.toNat, c.toNat))

def all : CharSet := ofRanges [(0, 0x10ffff)]

def digit : CharSet := ⟨digitRanges, increasing_digitRanges⟩

def space : CharSet := ⟨spaceRanges, increasing_spaceRanges⟩

def word : CharSet := ⟨wordRanges, increasing_wordRanges⟩

/-! ## Operations -/

def union (a b : CharSet) : CharSet := a.insertAll b.ranges

def inter (a b : CharSet) : CharSet :=
  ofRanges (a.ranges.flatMap fun r => b.ranges.filterMap (Ranges.clip? r))

/-- Move the ends of a range off the surrogates, to the characters next to them
inside the range.  The ends of the surrogates themselves come out the wrong way
round. -/
def offSurrogates (r : Nat × Nat) : Nat × Nat :=
  (if 0xd800 ≤ r.1 && r.1 ≤ 0xdfff then 0xe000 else r.1,
    if 0xd800 ≤ r.2 && r.2 ≤ 0xdfff then 0xd7ff else r.2)

def diff (a b : CharSet) : CharSet :=
  a.inter (ofRanges ((Ranges.gaps 0 b.ranges).map offSurrogates))

def symmDiff (a b : CharSet) : CharSet := (a.union b).diff (a.inter b)

/-- The characters between the ranges of `a`.  Where two ranges end and begin at
the surrogates with nothing between them, the two characters at that border are
members too. -/
def compl (a : CharSet) : CharSet :=
  ofRanges ((Ranges.gaps 0 a.ranges).map fun r =>
    let (lo, hi) := offSurrogates r
    (min lo hi, max lo hi))

/-- The set together with every character that differs from a member by case
alone. -/
def foldCase (a : CharSet) : CharSet := a.insertAll (a.ranges.flatMap caseVariants)

/-! ## Shape -/

/-- The member of a set with only one. -/
def only? (s : CharSet) : Option Char :=
  match s.ranges with
  | [(lo, hi)] => if lo = hi then some (Char.ofNat lo) else none
  | _ => none

def isAscii (s : CharSet) : Bool := s.ranges.all fun r => r.2 < 128

/-! ## Members -/

end CharSet

end Text
end Backtrack
