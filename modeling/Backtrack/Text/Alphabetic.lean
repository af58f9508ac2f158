import Backtrack.Text.Property.Binary

/-!
Letters and numbers as the names of groups take them.  They follow version 17 of
the Unicode Standard, so the tables of version 16 are completed by what the later
version added.
-/

namespace Backtrack
namespace Text

/-- Alphabetic code points that version 17 added. -/
def laterAlphabetic : String :=
  "88f c5c cdc a7ce-a7cf a7d2 a7d4 a7f1 10940-10959 10ec5-10ec7 10efa-10efb 11b60-11b67
   11db0-11ddb 16ea0-16eb8 16ebb-16ed3 16ff2-16ff6 187f8-187ff 18d09-18d1e 18d80-18df2
   1e6c0-1e6de 1e6e0-1e6f5 1e6fe-1e6ff 2b73a-2b73f 2cea2-2cead 323b0-33479"

/-- Numbers that version 17 added. -/
def laterNumeric : String := "11de0-11de9 16ff4-16ff6"

def alphabetic : Property.Definition :=
  { categories := [.uppercaseLetter, .lowercaseLetter, .titlecaseLetter, .modifierLetter,
      .otherLetter, .letterNumber]
    tables := [Property.otherAlphabetic, Property.otherLowercase, Property.otherUppercase,
      laterAlphabetic] }

def numeric : Property.Definition :=
  { categories := [.decimalNumber, .letterNumber, .otherNumber], tables := [laterNumeric] }

/-- Whether some table of the definition has the code point. -/
def listed (d : Property.Definition) (n : Nat) : Bool :=
  (d.categories.map Property.Category.table ++ d.tables).any fun table =>
    (Property.tableRanges table).any fun r => r.1 ≤ n && n ≤ r.2

def isAlphabetic (c : Char) : Bool :=
  if c.toNat < 128 then c.isAlpha else listed alphabetic c.toNat

def isNumeric (c : Char) : Bool :=
  if c.toNat < 128 then c.isDigit else listed numeric c.toNat

end Text
end Backtrack
