import Backtrack.Text.Ranges

/-!
Ranges of characters as sequences of byte ranges.  The UTF-8 forms of a range of
characters are not in general one range per byte, so the range is cut until they
are.
-/

namespace Backtrack
namespace Regex
namespace Utf8

def encode (n : Nat) : List Nat :=
  if n < 0x80 then [n]
  else if n < 0x800 then [0xc0 + n / 64, 0x80 + n % 64]
  else if n < 0x10000 then [0xe0 + n / 4096, 0x80 + n / 64 % 64, 0x80 + n % 64]
  else [0xf0 + n / 262144, 0x80 + n / 4096 % 64, 0x80 + n / 64 % 64, 0x80 + n % 64]

def encodeAll (cs : List Char) : List Nat := cs.flatMap fun c => encode c.toNat

/-- Code points with forms of one length, without the surrogates. -/
def blocks : Text.Ranges :=
  [(0, 0x7f), (0x80, 0x7ff), (0x800, 0xd7ff), (0xe000, 0xffff), (0x10000, 0x10ffff)]

/-- Cut off what does not fill a whole block of `size` code points, at either
end of a range that reaches into more than one block. -/
def align (size : Nat) (r : Nat × Nat) : Text.Ranges :=
  let (lo, hi) := r
  if lo / size = hi / size then [r]
  else
    let (head, lo) :=
      if lo % size = 0 then ([], lo)
      else ([(lo, lo / size * size + (size - 1))], (lo / size + 1) * size)
    if lo / size = hi / size || hi % size = size - 1 then head ++ [(lo, hi)]
    else head ++ [(lo, hi / size * size - 1), (hi / size * size, hi)]

/-- The byte ranges, one after the other, whose combinations are exactly the
forms of the code points of an aligned range. -/
def byteRanges (r : Nat × Nat) : List (Nat × Nat) := (encode r.1).zip (encode r.2)

/-- The forms of all characters of a range, in increasing order. -/
def sequences (r : Nat × Nat) : List (List (Nat × Nat)) :=
  (blocks.filterMap fun block => Text.Ranges.clip? block r).flatMap fun part =>
    if part.2 < 0x80 then [[part]]
    else
      (((align 64 part).flatMap (align 4096)).flatMap (align 262144)).map byteRanges

end Utf8
end Regex
end Backtrack
