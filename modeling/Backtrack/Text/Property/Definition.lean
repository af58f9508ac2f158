import Backtrack.Text.Property.Category

/-!
Definitions of properties: some general categories and some code points besides,
without some others.
-/

namespace Backtrack
namespace Text
namespace Property

structure Definition where
  categories : List Category := []
  tables : List String := []
  except : List String := []

def Definition.members (d : Definition) : CharSet :=
  let tables := d.categories.map Category.table ++ d.tables
  if d.except.isEmpty then ofTables tables else (ofTables tables).diff (ofTables d.except)

def lookup? {α : Type} (rows : List (List String × α)) (name : String) : Option α :=
  (rows.find? fun row => row.1.contains name).map Prod.snd

def everything : String := "0-10ffff"

/-- The general categories and their groups by their names, long and short. -/
def categories : List (List String × Definition) :=
  [(["any"], { tables := [everything] }),
    (["assigned"], { tables := [everything], except := [Category.table .unassigned] }),
    (["ascii"], { tables := ["0-7f"] }),
    (["l", "letter"],
      { categories := [.uppercaseLetter, .lowercaseLetter, .titlecaseLetter, .modifierLetter,
          .otherLetter] }),
    (["lc", "casedletter"],
      { categories := [.uppercaseLetter, .lowercaseLetter, .titlecaseLetter] }),
    (["lu", "uppercaseletter"], { categories := [.uppercaseLetter] }),
    (["ll", "lowercaseletter"], { categories := [.lowercaseLetter] }),
    (["lt", "titlecaseletter"], { categories := [.titlecaseLetter] }),
    (["lm", "modifierletter"], { categories := [.modifierLetter] }),
    (["lo", "otherletter"], { categories := [.otherLetter] }),
    (["m", "mark", "combiningmark"],
      { categories := [.nonspacingMark, .spacingMark, .enclosingMark] }),
    (["mn", "nonspacingmark"], { categories := [.nonspacingMark] }),
    (["mc", "spacingmark"], { categories := [.spacingMark] }),
    (["me", "enclosingmark"], { categories := [.enclosingMark] }),
    (["n", "number"], { categories := [.decimalNumber, .letterNumber, .otherNumber] }),
    (["nd", "decimalnumber", "digit"], { categories := [.decimalNumber] }),
    (["nl", "letternumber"], { categories := [.letterNumber] }),
    (["no", "othernumber"], { categories := [.otherNumber] }),
    (["p", "punctuation", "punct"],
      { categories := [.connectorPunctuation, .dashPunctuation, .openPunctuation,
          .closePunctuation, .initialPunctuation, .finalPunctuation, .otherPunctuation] }),
    (["pc", "connectorpunctuation"], { categories := [.connectorPunctuation] }),
    (["pd", "dashpunctuation"], { categories := [.dashPunctuation] }),
    (["ps", "openpunctuation"], { categories := [.openPunctuation] }),
    (["pe", "closepunctuation"], { categories := [.closePunctuation] }),
    (["pi", "initialpunctuation"], { categories := [.initialPunctuation] }),
    (["pf", "finalpunctuation"], { categories := [.finalPunctuation] }),
    (["po", "otherpunctuation"], { categories := [.otherPunctuation] }),
    (["s", "symbol"],
      { categories := [.mathSymbol, .currencySymbol, .modifierSymbol, .otherSymbol] }),
    (["sm", "mathsymbol"], { categories := [.mathSymbol] }),
    (["sc", "currencysymbol"], { categories := [.currencySymbol] }),
    (["sk", "modifiersymbol"], { categories := [.modifierSymbol] }),
    (["so", "othersymbol"], { categories := [.otherSymbol] }),
    (["z", "separator"],
      { categories := [.spaceSeparator, .lineSeparator, .paragraphSeparator] }),
    (["zs", "spaceseparator"], { categories := [.spaceSeparator] }),
    (["zl", "lineseparator"], { categories := [.lineSeparator] }),
    (["zp", "paragraphseparator"], { categories := [.paragraphSeparator] }),
    (["c", "other"],
      { categories := [.control, .format, .privateUse, .unassigned], tables := ["d800-dfff"] }),
    (["cc", "control", "cntrl"], { categories := [.control] }),
    (["cf", "format"], { categories := [.format] }),
    (["co", "privateuse"], { categories := [.privateUse] }),
    (["cn", "unassigned"], { categories := [.unassigned] })]

end Property
end Text
end Backtrack
