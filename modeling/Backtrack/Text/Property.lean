import Backtrack.Text.Property.Age
import Backtrack.Text.Property.Break
import Backtrack.Text.Property.Script

/-!
Properties of characters by name, as patterns ask for them: a name alone, which
stands for a property, a general category or a script, or the name of a property
with a value.  Names are compared loosely.
-/

namespace Backtrack
namespace Text
namespace Property

/-- The form in which names are compared: small letters, without blanks, hyphens
and underscores, and without a leading `is`. -/
def looseName (name : List Char) : String :=
  let lower (cs : List Char) : List Char :=
    (cs.filter fun c => c.toNat < 128 && c != ' ' && c != '_' && c != '-').map Char.toLower
  match name with
  | a :: b :: rest =>
    if a.toLower = 'i' && b.toLower = 's' then
      if lower rest = ['c'] then "isc" else String.ofList (lower rest)
    else String.ofList (lower name)
  | _ => String.ofList (lower name)

def class? (name : List Char) : Option CharSet :=
  let name := looseName name
  ((lookup? binaries name).or ((lookup? categories name).or (script? name))).map
    Definition.members

def valueClass? (name value : List Char) : Option CharSet :=
  let value := looseName value
  match looseName name with
  | "gc" | "generalcategory" => (lookup? categories value).map Definition.members
  | "sc" | "script" => (script? value).map Definition.members
  | "scx" | "scriptextensions" => scriptUse? value
  | "age" => (age? value).map Definition.members
  | "gcb" | "graphemeclusterbreak" => (lookup? graphemeBreaks value).map Definition.members
  | "wb" | "wordbreak" => (lookup? wordBreaks value).map Definition.members
  | "sb" | "sentencebreak" => (lookup? sentenceBreaks value).map Definition.members
  | _ => none

end Property
end Text
end Backtrack
