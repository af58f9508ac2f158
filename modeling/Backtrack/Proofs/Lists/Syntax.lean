import Backtrack.Proofs.Lists.Patterns
import Backtrack.Tree.Outline

/-!
The syntax of lists.  A value is a list, a string or a word, and white space may
stand around values and separators.  `spell` is the text of a piece of syntax,
`outline` the tree that stands for it, and `fits` bounds every word, every string
and every stretch of white space by the width of the match window.
-/

namespace Backtrack

namespace Lists

mutual
inductive Item where
  /-- White space after the bracket, and what is in the list. -/
  | list (space : List Char) (items : Items)
  | string (content : List Char)
  | word (text : List Char)

/-- What stands in a list after the white space at its start. -/
inductive Items where
  | nil
  | last (item : Item) (space : List Char)
  /-- A value and a separator, with white space before and after it. -/
  | cons (item : Item) (before after : List Char) (rest : Items)
end

/-- A whole text: white space, and a value with white space after it if there is
one. -/
structure Source where
  space : List Char
  value : Option (Item × List Char)

/-! ## Text -/

mutual
def Item.spell : Item → List Char
  | .list space items => '[' :: (space ++ (items.spell ++ [']']))
  | .string content => '"' :: (content ++ ['"'])
  | .word text => text

def Items.spell : Items → List Char
  | .nil => []
  | .last item space => item.spell ++ space
  | .cons item before after rest => item.spell ++ (before ++ ',' :: (after ++ rest.spell))
end

def Source.spell (source : Source) : List Char :=
  source.space ++
    match source.value with
    | none => []
    | some (item, after) => item.spell ++ after

/-! ## Width -/

/-- At most `width` characters, all of which pass the test. -/
def fitsRun (width : Nat) (p : Char → Bool) (cs : List Char) : Bool :=
  decide (cs.length ≤ width) && cs.all p

mutual
def Item.fits (width : Nat) : Item → Bool
  | .list space items => fitsRun width Text.isSpace space && items.fits width
  | .string content => fitsRun width isContent content
  | .word text => !text.isEmpty && fitsRun width isWordChar text

def Items.fits (width : Nat) : Items → Bool
  | .nil => true
  | .last item space => item.fits width && fitsRun width Text.isSpace space
  | .cons item before after rest =>
    item.fits width && fitsRun width Text.isSpace before && fitsRun width Text.isSpace after &&
      rest.fits width
end

def Source.fits (width : Nat) (source : Source) : Bool :=
  fitsRun width Text.isSpace source.space &&
    match source.value with
    | none => true
    | some (item, after) => item.fits width && fitsRun width Text.isSpace after

/-- The text is in the language, as this source: every run in it fits the window. -/
def Source.Spells (source : Source) (width : Nat) (text : String) : Prop :=
  source.fits width = true ∧ source.spell = text.toList

/-! ## Trees -/

def leafItem (r : Reference) (tag : OpenTag) (text : String) : OutlineItem :=
  .bound r (.node tag [.literal text])

/-- Such a node, unless there is nothing to put into it. -/
def runItems (r : Reference) (tag : OpenTag) : List Char → List OutlineItem
  | [] => []
  | c :: cs => [leafItem r tag (String.ofList (c :: cs))]

def documentTag : OpenTag := (OpenTag.typed "Document").withLanguage "lists"

def spaceTag : OpenTag := (OpenTag.typed "Whitespace").withFlags .triviaOnly

def contentTag : OpenTag := (OpenTag.typed "StringContent").withFlags .tokenOnly

def spaceItems : List Char → List OutlineItem := runItems (.array "trivia") spaceTag

def contentItems : List Char → List OutlineItem := runItems { name := "content" } contentTag

/-- The opening mark of something that ends with `closing`. -/
def openItem (closing span text : String) : OutlineItem :=
  leafItem { name := "openToken" } ((opener closing span).withFlags .tokenOnly) text

def closeItem (text : String) : OutlineItem :=
  leafItem { name := "closeToken" } (closer.withFlags .tokenOnly) text

def separatorItem : OutlineItem :=
  leafItem (.array "separators") ((OpenTag.typed "Punctuator").withFlags .tokenOnly) ","

def listItems (space : List Char) (items : List OutlineItem) : List OutlineItem :=
  openItem "]" "List" "[" :: (spaceItems space ++ (items ++ [closeItem "]"]))

def stringItems (content : List Char) : List OutlineItem :=
  openItem "\"" "String" "\"" :: (contentItems content ++ [closeItem "\""])

def wordItems (text : List Char) : List OutlineItem := [.literal (String.ofList text)]

mutual
/-- The tree of a value.  A word of digits is a number. -/
def Item.outline : Item → Outline
  | .list space items => .node (.typed "List") (listItems space items.outline)
  | .string content => .node (.typed "String") (stringItems content)
  | .word text =>
    .node (.typed (if text.all Char.isDigit then "Number" else "Atom")) (wordItems text)

/-- What a list has under its references: the values under `items`, in order. -/
def Items.outline : Items → List OutlineItem
  | .nil => []
  | .last item space => .bound (.array "items") item.outline :: spaceItems space
  | .cons item before after rest =>
    .bound (.array "items") item.outline ::
      (spaceItems before ++ separatorItem :: (spaceItems after ++ rest.outline))
end

def Source.outline (source : Source) : Outline :=
  .node documentTag
    (spaceItems source.space ++
      match source.value with
      | none => [.bound { name := "value" } .null]
      | some (item, after) => .bound { name := "value" } item.outline :: spaceItems after)

/-! ## First characters -/

theorem fitsRun_iff {width : Nat} {p : Char → Bool} {cs : List Char} :
    fitsRun width p cs = true ↔ cs.length ≤ width ∧ ∀ c ∈ cs, p c = true := by
  rw [fitsRun, Bool.and_eq_true, decide_eq_true_eq, List.all_eq_true]

theorem isSpace_of_isWordChar {c : Char} (h : isWordChar c = true) : Text.isSpace c = false := by
  have hcode : c.toNat = c.val.toNat := rfl
  have hword : (65 ≤ c.toNat ∧ c.toNat ≤ 90) ∨ (97 ≤ c.toNat ∧ c.toNat ≤ 122) ∨
      (48 ≤ c.toNat ∧ c.toNat ≤ 57) ∨ c.toNat = 95 := by
    simp only [isWordChar, Char.isAlphanum, isAlpha_eq_or, Char.isDigit, Bool.or_eq_true,
      Bool.and_eq_true, decide_eq_true_eq, ge_iff_le, Char.le_def, UInt32.le_iff_toNat_le,
      beq_iff_eq, ← Char.toNat_inj, ← hcode] at h
    have hcodes : 'A'.val.toNat = 65 ∧ 'Z'.val.toNat = 90 ∧ 'a'.val.toNat = 97 ∧
        'z'.val.toNat = 122 ∧ '0'.val.toNat = 48 ∧ '9'.val.toNat = 57 ∧ '_'.toNat = 95 := by decide
    omega
  rw [Text.isSpace, Bool.eq_false_iff, Ne,
    Text.Ranges.has_eq_true_iff Text.increasing_spaceRanges]
  simp only [Text.spaceRanges, List.mem_cons, List.not_mem_nil, or_false, exists_eq_or_imp,
    exists_eq_left]
  omega

/-- A value starts with something that is neither white space nor the end of a list
nor a separator. -/
theorem Item.exists_spell {width : Nat} {item : Item} (h : item.fits width = true) :
    ∃ c cs, item.spell = c :: cs ∧ Text.isSpace c = false ∧ c ≠ ']' ∧ c ≠ ',' := by
  cases item with
  | list space items => exact ⟨'[', _, by rw [spell], by decide, by decide, by decide⟩
  | string content => exact ⟨'"', _, by rw [spell], by decide, by decide, by decide⟩
  | word text =>
      rw [fits, Bool.and_eq_true, fitsRun_iff] at h
      cases text with
      | nil => simp at h
      | cons c cs =>
          have hc := h.2.2 c List.mem_cons_self
          refine ⟨c, cs, by rw [spell], isSpace_of_isWordChar hc, ?_, ?_⟩
          · rintro rfl
            exact absurd hc (by decide)
          · rintro rfl
            exact absurd hc (by decide)

end Lists

end Backtrack
