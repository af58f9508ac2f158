import Backtrack.Text.CharSet

/-!
Tables of code points as text.  A table is a list of words in hexadecimal: one
code point, as in `5f`, a range, as in `41-5a`, or the members of a range that
are a fixed distance apart, as in `100-12e/2`.
-/

namespace Backtrack
namespace Text
namespace Property

def hexValue (digits : List Char) : Nat :=
  digits.foldl (fun n c =>
    n * 16 + (if c.isDigit then c.toNat - '0'.toNat else c.toNat - 'a'.toNat + 10)) 0

def words (text : List Char) : List (List Char) :=
  let step (c : Char) (acc : List (List Char)) : List (List Char) :=
    if c = ' ' || c = '\n' then [] :: acc
    else
      match acc with
      | word :: rest => (c :: word) :: rest
      | [] => [[c]]
  (text.foldr step []).filter fun word => !word.isEmpty

/-- The code points from `lo` to `hi` that are a multiple of `step` above `lo`. -/
def spaced (lo hi step : Nat) : Ranges :=
  (List.range ((hi - lo) / step + 1)).map fun i => (lo + i * step, lo + i * step)

def rangesOfWord (word : List Char) : Ranges :=
  match word.span (· != '-') with
  | (lo, _ :: rest) =>
    match rest.span (· != '/') with
    | (hi, _ :: step) => spaced (hexValue lo) (hexValue hi) (hexValue step)
    | (hi, []) => [(hexValue lo, hexValue hi)]
  | (lo, []) => [(hexValue lo, hexValue lo)]

def tableRanges (table : String) : Ranges := (words table.toList).flatMap rangesOfWord

def ofTables (tables : List String) : CharSet := .ofRanges (tables.flatMap tableRanges)

end Property
end Text
end Backtrack
