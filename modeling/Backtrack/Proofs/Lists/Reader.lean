import Backtrack.Proofs.Lists.Syntax
import Mathlib.Tactic.NthRewrite

/-!
A reader for lists that works on the text alone, without branches and without
state.  It makes the same choices as the strategy: the kinds of value are tried in
order, and every run is as long as it can be within the window.  It reads exactly
the syntax: what it reads is spelled by some value, and every value that fits the
window is read as its own tree.
-/

namespace Backtrack

namespace Lists

/-! ## Runs -/

/-- The longest run of at most `width` characters that pass the test. -/
def longest (width : Nat) (p : Char → Bool) (cs : List Char) : List Char :=
  (cs.take width).takeWhile p

def beyond (width : Nat) (p : Char → Bool) (cs : List Char) : List Char :=
  cs.drop (longest width p cs).length

/-- The text does not go on with a character that passes the test. -/
def Stops (p : Char → Bool) (cs : List Char) : Prop := ∀ c, cs.head? = some c → p c = false

theorem stops_cons {p : Char → Bool} {c : Char} (h : p c = false) (cs : List Char) :
    Stops p (c :: cs) := by
  intro d hd
  cases hd
  exact h

theorem stops_append {p : Char → Bool} {cs tail : List Char} (h : ∀ c ∈ cs, p c = false)
    (htail : Stops p tail) : Stops p (cs ++ tail) := by
  cases cs with
  | nil => exact htail
  | cons c cs => exact stops_cons (h c List.mem_cons_self) _

theorem Stops.mono {p q : Char → Bool} {cs : List Char} (h : Stops q cs)
    (hpq : ∀ c, p c = true → q c = true) : Stops p cs := by
  intro c hc
  rw [Bool.eq_false_iff]
  intro hp
  have hq := h c hc
  rw [hpq c hp] at hq
  cases hq

theorem Stops.takeWhile {p : Char → Bool} {cs : List Char} (h : Stops p cs) (n : Nat) :
    (cs.take n).takeWhile p = [] := by
  cases cs with
  | nil => simp
  | cons c cs =>
      cases n with
      | zero => rfl
      | succ n => simp [h c rfl]

/-- Within the window a run that is followed by something else is found whole. -/
theorem longest_append {width : Nat} {p : Char → Bool} {cs tail : List Char}
    (hwidth : cs.length ≤ width) (htail : Stops p tail) :
    longest width p (cs ++ tail) = cs.takeWhile p := by
  rw [longest, List.take_append, List.take_of_length_le hwidth, List.takeWhile_append,
    htail.takeWhile]
  split
  · next hall => rw [List.append_nil, (List.takeWhile_prefix p).eq_of_length hall]
  · rfl

theorem longest_of_fits {width : Nat} {p : Char → Bool} {cs tail : List Char}
    (h : fitsRun width p cs = true) (htail : Stops p tail) :
    longest width p (cs ++ tail) = cs ∧ beyond width p (cs ++ tail) = tail := by
  rw [fitsRun_iff] at h
  have hlongest : longest width p (cs ++ tail) = cs := by
    rw [longest_append h.1 htail]
    exact List.takeWhile_eq_self_iff.mpr h.2
  exact ⟨hlongest, by rw [beyond, hlongest, List.drop_left]⟩

/-! ## The reader -/

/-- What can be read from a text, with what is left of it. -/
abbrev Read (α : Type) := List Char → Option (α × List Char)

/-- What follows the character, if the text starts with it. -/
def skip? (c : Char) : List Char → Option (List Char)
  | [] => none
  | d :: cs => if d = c then some cs else none

theorem skip?_eq_some_iff {c : Char} {cs rest : List Char} :
    skip? c cs = some rest ↔ cs = c :: rest := by
  cases cs with
  | nil => simp [skip?]
  | cons d cs => by_cases hd : d = c <;> simp [skip?, hd]

theorem skip?_cons (c : Char) (cs : List Char) : skip? c (c :: cs) = some cs :=
  skip?_eq_some_iff.mpr rfl

theorem skip?_of_ne {c d : Char} (h : d ≠ c) (cs : List Char) : skip? c (d :: cs) = none :=
  if_neg h

def readString (width : Nat) : Read (List OutlineItem) := fun cs =>
  match skip? '"' cs with
  | none => none
  | some cs =>
    match skip? '"' (beyond width isContent cs) with
    | none => none
    | some rest => some (stringItems (longest width isContent cs), rest)

def readNumber (width : Nat) : Read (List OutlineItem) := fun cs =>
  if longest width Char.isDigit cs = [] then none
  else if (beyond width Char.isDigit cs).head?.any isLetter then none
  else some (wordItems (longest width Char.isDigit cs), beyond width Char.isDigit cs)

def readAtom (width : Nat) : Read (List OutlineItem) := fun cs =>
  if longest width isWordChar cs = [] then none
  else some (wordItems (longest width isWordChar cs), beyond width isWordChar cs)

/-- The items of a list up to the closing bracket, or to an item without a
separator after it. -/
def readItems (width : Nat) (readItem : Read Outline) : Nat → Read (List OutlineItem)
  | 0, _ => none
  | rounds + 1, cs =>
    if (skip? ']' cs).isSome then some ([], cs)
    else
      match readItem cs with
      | none => none
      | some (value, cs) =>
        let space := spaceItems (longest width Text.isSpace cs)
        match skip? ',' (beyond width Text.isSpace cs) with
        | none => some (.bound (.array "items") value :: space, beyond width Text.isSpace cs)
        | some cs =>
          match readItems width readItem rounds (beyond width Text.isSpace cs) with
          | none => none
          | some (items, rest) =>
            some (.bound (.array "items") value ::
              (space ++ separatorItem :: (spaceItems (longest width Text.isSpace cs) ++ items)),
              rest)

def readList (width : Nat) (readItem : Read Outline) (rounds : Nat) :
    Read (List OutlineItem) := fun cs =>
  match skip? '[' cs with
  | none => none
  | some cs =>
    match readItems width readItem rounds (beyond width Text.isSpace cs) with
    | none => none
    | some (items, tail) =>
      match skip? ']' tail with
      | none => none
      | some rest => some (listItems (longest width Text.isSpace cs) items, rest)

def readBody (width : Nat) (readItem : Read Outline) (rounds : Nat) :
    Kind → Read (List OutlineItem)
  | .list => readList width readItem rounds
  | .string => readString width
  | .number => readNumber width
  | .atom => readAtom width

def readFirst (width : Nat) (readItem : Read Outline) (rounds : Nat) : List Kind → Read Outline
  | [], _ => none
  | kind :: rest, cs =>
    match readBody width readItem rounds kind cs with
    | some (items, tail) => some (.node (.typed kind.nodeType) items, tail)
    | none => readFirst width readItem rounds rest cs

/-- A value with lists at most `rounds` deep. -/
def readValue (width : Nat) : Nat → Read Outline
  | 0, _ => none
  | rounds + 1, cs => readFirst width (readValue width rounds) (rounds + 1) Kind.all cs

/-! ## What is read is spelled -/

/-- What stands before `rest` in `cs` is a value that fits the window. -/
def SpellsItem (width : Nat) (cs rest : List Char) : Prop :=
  ∃ item : Item, item.fits width = true ∧ cs = item.spell ++ rest

theorem SpellsItem.exists_append {width : Nat} {cs rest : List Char} (h : SpellsItem width cs rest) :
    ∃ word, word ≠ [] ∧ cs = word ++ rest := by
  obtain ⟨item, hfits, hcs⟩ := h
  obtain ⟨c, word, hspell, _⟩ := item.exists_spell hfits
  exact ⟨item.spell, by rw [hspell]; exact List.cons_ne_nil c word, hcs⟩

theorem isWordChar_of_isDigit (c : Char) (h : c.isDigit = true) : isWordChar c = true := by
  simp [isWordChar, Char.isAlphanum, h]

theorem isWordChar_of_isSpace {c : Char} (h : Text.isSpace c = true) : isWordChar c = false := by
  rw [Bool.eq_false_iff]
  intro hc
  rw [isSpace_of_isWordChar hc] at h
  cases h

theorem stops_of_spaces {width : Nat} {space tail : List Char}
    (h : fitsRun width Text.isSpace space = true) (htail : Stops isWordChar tail) :
    Stops isWordChar (space ++ tail) :=
  stops_append (fun c hc => isWordChar_of_isSpace ((fitsRun_iff.mp h).2 c hc)) htail

theorem readString_spell {width : Nat} {content : List Char}
    (h : fitsRun width isContent content = true) (tail : List Char) :
    readString width ('"' :: (content ++ '"' :: tail)) = some (stringItems content, tail) := by
  have hstops : Stops isContent ('"' :: tail) := stops_cons rfl tail
  obtain ⟨hlongest, hbeyond⟩ := longest_of_fits h hstops
  simp only [readString, skip?_cons, hlongest, hbeyond]

theorem isWordChar_of_isLetter (c : Char) (h : isLetter c = true) : isWordChar c = true := by
  rw [isLetter, Bool.or_eq_true] at h
  rcases h with h | h <;> simp [isWordChar, Char.isAlphanum, h]

theorem isLetter_of_isWordChar {c : Char} (h : isWordChar c = true) (hdigit : c.isDigit = false) :
    isLetter c = true := by
  rw [isWordChar, Char.isAlphanum, hdigit, Bool.or_false] at h
  exact h

/-- A word is read as a number if it has digits only. -/
theorem readNumber_spell {width : Nat} {text tail : List Char} (hne : text ≠ [])
    (h : fitsRun width isWordChar text = true) (htail : Stops isWordChar tail) :
    readNumber width (text ++ tail) =
      if text.all Char.isDigit then some (wordItems text, tail) else none := by
  obtain ⟨hwidth, hall⟩ := fitsRun_iff.mp h
  have hlongest := longest_append hwidth (htail.mono isWordChar_of_isDigit)
  cases hdrop : text.dropWhile Char.isDigit with
  | nil =>
      have hdigits := List.dropWhile_eq_nil_iff.mp hdrop
      rw [List.takeWhile_eq_self_iff.mpr hdigits] at hlongest
      have hbeyond : beyond width Char.isDigit (text ++ tail) = tail := by
        rw [beyond, hlongest, List.drop_left]
      have hletter : tail.head?.any isLetter = false := by
        cases hhead : tail.head? with
        | none => rfl
        | some c => exact htail.mono isWordChar_of_isLetter c hhead
      rw [readNumber, hlongest, hbeyond, if_neg hne, hletter, if_neg (by decide),
        if_pos (List.all_eq_true.mpr hdigits)]
  | cons c rest =>
      -- The digits stop at a letter of the word.
      have htext := List.takeWhile_append_dropWhile (p := Char.isDigit) (l := text)
      rw [hdrop] at htext
      have hdigit : c.isDigit = false := by
        have hhead := List.head?_dropWhile_not Char.isDigit text
        rw [hdrop] at hhead
        exact hhead
      have hmem : c ∈ text := by
        rw [← htext]
        exact List.mem_append_right _ List.mem_cons_self
      have hbeyond : beyond width Char.isDigit (text ++ tail) = c :: (rest ++ tail) := by
        rw [beyond, hlongest]
        nth_rewrite 2 [← htext]
        rw [List.append_assoc, List.drop_left, List.cons_append]
      have hletter := isLetter_of_isWordChar (hall c hmem) hdigit
      have hdigits : ¬ text.all Char.isDigit = true := by
        rw [List.all_eq_true]
        intro hdigits
        rw [hdigits c hmem] at hdigit
        cases hdigit
      rw [readNumber, hbeyond, if_neg hdigits]
      simp [hletter]

theorem readAtom_spell {width : Nat} {text tail : List Char} (hne : text ≠ [])
    (h : fitsRun width isWordChar text = true) (htail : Stops isWordChar tail) :
    readAtom width (text ++ tail) = some (wordItems text, tail) := by
  obtain ⟨hlongest, hbeyond⟩ := longest_of_fits h htail
  rw [readAtom, hlongest, hbeyond, if_neg hne]

/-- What comes after a separator and white space is a value or the end of the
list. -/
theorem Items.stops_spell {width : Nat} {items : Items} (h : items.fits width = true)
    (tail : List Char) : Stops Text.isSpace (items.spell ++ ']' :: tail) := by
  have hitem : ∀ (item : Item) (more : List Char), item.fits width = true →
      Stops Text.isSpace (item.spell ++ more) := by
    intro item more hfits
    obtain ⟨c, cs, hspell, hspace, _⟩ := item.exists_spell hfits
    rw [hspell]
    exact stops_cons hspace _
  cases items with
  | nil => exact stops_cons (by decide) tail
  | last item space =>
      simp only [fits, Bool.and_eq_true] at h
      rw [spell, List.append_assoc]
      exact hitem item _ h.1
  | cons item before after rest =>
      simp only [fits, Bool.and_eq_true] at h
      rw [spell, List.append_assoc]
      exact hitem item _ h.1.1.1

theorem readValue_word {width rounds : Nat} {text tail : List Char} (hne : text ≠ [])
    (h : fitsRun width isWordChar text = true) (htail : Stops isWordChar tail) :
    readValue width (rounds + 1) (text ++ tail) = some ((Item.word text).outline, tail) := by
  obtain ⟨c, cs, rfl⟩ := List.exists_cons_of_ne_nil hne
  have hc := (fitsRun_iff.mp h).2 c List.mem_cons_self
  have hbracket : c ≠ '[' := by
    rintro rfl
    exact absurd hc (by decide)
  have hquote : c ≠ '"' := by
    rintro rfl
    exact absurd hc (by decide)
  have hnumber := readNumber_spell hne h htail
  have hatom := readAtom_spell hne h htail
  have hlist : readList width (readValue width rounds) (rounds + 1) (c :: cs ++ tail) = none := by
    rw [readList, List.cons_append, skip?_of_ne hbracket]
  have hstring : readString width (c :: cs ++ tail) = none := by
    rw [readString, List.cons_append, skip?_of_ne hquote]
  by_cases hdigits : (c :: cs).all Char.isDigit = true
  · rw [if_pos hdigits] at hnumber
    simp only [readValue, Kind.all, readFirst, readBody, hlist, hstring, hnumber, Item.outline,
      if_pos hdigits, Kind.nodeType]
  · rw [if_neg hdigits] at hnumber
    simp only [readValue, Kind.all, readFirst, readBody, hlist, hstring, hnumber, hatom,
      Item.outline, if_neg hdigits, Kind.nodeType]

mutual
/-- A value that fits the window is read as its tree. -/
theorem readValue_spell {width rounds : Nat} {tail : List Char} :
    (item : Item) → item.fits width = true → Stops isWordChar tail → item.spell.length < rounds →
      readValue width rounds (item.spell ++ tail) = some (item.outline, tail)
  | .word text, hfits, htail, hrounds => by
      rw [Item.fits, Bool.and_eq_true, Bool.not_eq_true', List.isEmpty_eq_false_iff] at hfits
      obtain ⟨rounds, rfl⟩ := Nat.exists_eq_add_one_of_ne_zero (Nat.ne_zero_of_lt hrounds)
      exact readValue_word hfits.1 hfits.2 htail
  | .string content, hfits, _, hrounds => by
      obtain ⟨rounds, rfl⟩ := Nat.exists_eq_add_one_of_ne_zero (Nat.ne_zero_of_lt hrounds)
      have hstring := readString_spell hfits tail
      have hlist : readList width (readValue width rounds) (rounds + 1)
          ('"' :: (content ++ '"' :: tail)) = none := by
        rw [readList, skip?_of_ne (by decide)]
      simp only [Item.spell, List.cons_append, List.append_assoc, List.nil_append, readValue,
        Kind.all, readFirst, readBody, hlist, hstring, Item.outline, Kind.nodeType]
  | .list space items, hfits, _, hrounds => by
      rw [Item.fits, Bool.and_eq_true] at hfits
      rw [Item.spell, List.length_cons, List.length_append, List.length_append] at hrounds
      obtain ⟨rounds, rfl⟩ := Nat.exists_eq_add_one_of_ne_zero (Nat.ne_zero_of_lt hrounds)
      obtain ⟨hlongest, hbeyond⟩ := longest_of_fits hfits.1 (Items.stops_spell hfits.2 tail)
      have hitems := @readItems_spell width rounds (rounds + 1) tail items hfits.2 (by omega)
        (by omega)
      simp only [Item.spell, List.cons_append, List.append_assoc, List.nil_append, readValue,
        Kind.all, readFirst, readBody, readList, skip?_cons, hlongest, hbeyond, hitems,
        Item.outline, Kind.nodeType]

theorem readItems_spell {width depth rounds : Nat} {tail : List Char} :
    (items : Items) → items.fits width = true → items.spell.length < depth →
      items.spell.length < rounds →
      readItems width (readValue width depth) rounds (items.spell ++ ']' :: tail) =
        some (items.outline, ']' :: tail)
  | .nil, _, _, hrounds => by
      obtain ⟨rounds, rfl⟩ := Nat.exists_eq_add_one_of_ne_zero (Nat.ne_zero_of_lt hrounds)
      simp only [Items.spell, List.nil_append, readItems, skip?_cons, Option.isSome_some, if_true,
        Items.outline]
  | .last item space, hfits, hdepth, hrounds => by
      simp only [Items.fits, Bool.and_eq_true] at hfits
      rw [Items.spell, List.length_append] at hdepth hrounds
      obtain ⟨rounds, rfl⟩ := Nat.exists_eq_add_one_of_ne_zero (Nat.ne_zero_of_lt hrounds)
      have hstops : Stops Text.isSpace (']' :: tail) := stops_cons (by decide) tail
      obtain ⟨hlongest, hbeyond⟩ := longest_of_fits hfits.2 hstops
      have hword : Stops isWordChar (']' :: tail) := stops_cons (by decide) tail
      have hitem := @readValue_spell width depth _ item hfits.1 (stops_of_spaces hfits.2 hword)
        (by omega)
      obtain ⟨c, cs, hspell, _, hclose, _⟩ := item.exists_spell hfits.1
      rw [Items.spell, List.append_assoc, readItems, hitem, hspell, List.cons_append,
        skip?_of_ne hclose]
      simp only [Option.isSome_none, Bool.false_eq_true, if_false, hlongest, hbeyond,
        skip?_of_ne (by decide : ']' ≠ ','), Items.outline]
  | .cons item before after rest, hfits, hdepth, hrounds => by
      simp only [Items.fits, Bool.and_eq_true] at hfits
      obtain ⟨⟨⟨hitem, hbefore⟩, hafter⟩, hrest⟩ := hfits
      rw [Items.spell, List.length_append, List.length_append, List.length_cons,
        List.length_append] at hdepth hrounds
      obtain ⟨rounds, rfl⟩ := Nat.exists_eq_add_one_of_ne_zero (Nat.ne_zero_of_lt hrounds)
      have hstops : Stops Text.isSpace (',' :: (after ++ (rest.spell ++ ']' :: tail))) :=
        stops_cons (by decide) _
      have hword : Stops isWordChar (',' :: (after ++ (rest.spell ++ ']' :: tail))) :=
        stops_cons (by decide) _
      obtain ⟨hlongest, hbeyond⟩ := longest_of_fits hbefore hstops
      obtain ⟨hlongest', hbeyond'⟩ := longest_of_fits hafter (Items.stops_spell hrest tail)
      have hvalue := @readValue_spell width depth _ item hitem (stops_of_spaces hbefore hword)
        (by omega)
      have hmore := @readItems_spell width depth rounds tail rest hrest (by omega) (by omega)
      obtain ⟨c, cs, hspell, _, hclose, _⟩ := item.exists_spell hitem
      have htext : (Items.cons item before after rest).spell ++ ']' :: tail =
          item.spell ++ (before ++ ',' :: (after ++ (rest.spell ++ ']' :: tail))) := by
        simp only [Items.spell, List.append_assoc, List.cons_append]
      rw [htext, readItems, hvalue, hspell, List.cons_append, skip?_of_ne hclose]
      simp only [Option.isSome_none, Bool.false_eq_true, if_false, hlongest, hbeyond, hlongest',
        hbeyond', skip?_cons, hmore, Items.outline]
end

/-! ## Whole texts -/

/-- The children of a document and what is left after it.  Without a value nothing
after the white space at the start is read. -/
def readSource (width rounds : Nat) (cs : List Char) : List OutlineItem × List Char :=
  let space := spaceItems (longest width Text.isSpace cs)
  match readValue width rounds (beyond width Text.isSpace cs) with
  | none => (space ++ [.bound { name := "value" } .null], beyond width Text.isSpace cs)
  | some (value, cs) =>
    (space ++ .bound { name := "value" } value :: spaceItems (longest width Text.isSpace cs),
      beyond width Text.isSpace cs)

end Lists

end Backtrack
