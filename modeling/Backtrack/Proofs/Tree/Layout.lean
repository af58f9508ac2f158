import Backtrack.Proofs.Text.Quoted
import Backtrack.Proofs.Tree.Plain
import Backtrack.Tree.Document

/-!
The layout of a printed tree: the characters that show an outline, as a function of the
outline, the indentation and the choice of the characters of a literal that are written
by their code points.  With the choice of quoted texts the layout is what is printed.
-/

namespace Backtrack

/-! ## Characters of a print -/

def Printer.lineStart (level : Nat) : List Char :=
  '\n' :: List.replicate (level * indentWidth) ' '

mutual
/-- The characters that show an outline in a block that is indented by `level`.
`hidden` says which characters of a literal are written by their code points. -/
def Outline.layout (hidden : Char → Bool) (level : Nat) : Outline → List Char
  | .node tag [] => tag.heading.toList ++ [' ', '\x7b', '\x7d']
  | .node tag (item :: items) =>
    tag.heading.toList ++ ' ' :: '\x7b' ::
      (Outline.itemsLayout hidden (level + 1) (item :: items) ++
        (Printer.lineStart level ++ ['\x7d']))
  | .null => "null".toList
  | .gap => "<//>".toList
  | .list values => '[' :: (Outline.listLayout hidden level true values ++ [']'])

def Outline.itemLayout (hidden : Char → Bool) (level : Nat) : OutlineItem → List Char
  | .literal text => Text.quoteCharsBy hidden text.toList
  | .bound r value => r.render.toList ++ ':' :: ' ' :: value.layout hidden level
  | .unbound r => r.render.toList ++ ':' :: ' ' :: "<unbound>".toList

def Outline.itemsLayout (hidden : Char → Bool) (level : Nat) : List OutlineItem → List Char
  | [] => []
  | item :: rest =>
    Printer.lineStart level ++
      (Outline.itemLayout hidden level item ++ Outline.itemsLayout hidden level rest)

def Outline.listLayout (hidden : Char → Bool) (level : Nat) (isFirst : Bool) :
    List Outline → List Char
  | [] => []
  | value :: rest =>
    (if isFirst then [] else [',', ' ']) ++
      (value.layout hidden level ++ Outline.listLayout hidden level false rest)
end

/-- The printed document, when `hidden` says which characters of a literal are written
by their code points. -/
def Document.renderBy (hidden : Char → Bool) (d : Document) : String :=
  String.ofList
    ((if d.doctype.isSome then "<!doctype>\n".toList else []) ++ d.root.outline.layout hidden 0)

namespace Printer

@[simp] theorem level_word (p : Printer) (s : String) : (p.word s).level = p.level := rfl

theorem word_word (p : Printer) (s t : String) : (p.word s).word t = p.word (s ++ t) := by
  simp [word, String.append_assoc]

theorem word_congr (p : Printer) {s t : String} (h : s.toList = t.toList) : p.word s = p.word t :=
  congrArg p.word (String.toList_injective h)

theorem word_nil (p : Printer) : p.word (String.ofList []) = p := by
  simp [word]

theorem char_eq (p : Printer) (c : Char) : p.char c = p.word (String.ofList [c]) := by
  rw [char, word, String.push_eq_append]
  rfl

theorem newline_eq (p : Printer) : p.newline = p.word (String.ofList (lineStart p.level)) := rfl

theorem closeBlock_word_openBlock (p : Printer) (s t u : String) :
    ((p.openBlock s).word t).closeBlock u =
      p.word (s ++ t ++ String.ofList (lineStart p.level) ++ u) := by
  simp [openBlock, closeBlock, indent, dedent, setIndent, newline_eq, word, String.append_assoc]

theorem level_openBlock (p : Printer) (s : String) : (p.openBlock s).level = p.level + 1 := rfl

end Printer

/-! ## Print and layout -/

def Outline.layoutWriter (o : Outline) (p : Printer) : Printer :=
  p.word (String.ofList (o.layout Text.isHidden p.level))

theorem Outline.separated_layout (values : List Outline) (p : Printer) :
    p.separated "," (fun p write => write p) (values.map layoutWriter) =
      p.word (String.ofList (Outline.listLayout Text.isHidden p.level true values)) := by
  -- Every value behind the first has a comma before it.
  have hrest : ∀ (rest : List Outline) (p : Printer),
      (rest.map layoutWriter).foldl (fun p write => write (p.word ",").space) p =
        p.word (String.ofList (Outline.listLayout Text.isHidden p.level false rest)) := by
    intro rest
    induction rest with
    | nil =>
        intro p
        rw [listLayout, Printer.word_nil]
        rfl
    | cons value rest ih =>
        intro p
        rw [List.map_cons, List.foldl_cons, ih, layoutWriter, listLayout, Printer.space,
          Printer.char_eq, Printer.level_word, Printer.level_word, Printer.level_word,
          Printer.word_word, Printer.word_word, Printer.word_word, if_neg Bool.false_ne_true]
        exact p.word_congr (by simp)
  cases values with
  | nil =>
      rw [listLayout, Printer.word_nil]
      rfl
  | cons value rest =>
      rw [List.map_cons, Printer.separated, hrest, layoutWriter, listLayout, Printer.level_word,
        Printer.word_word, if_pos rfl]
      exact p.word_congr (by simp)

mutual
theorem Outline.print_eq_layout (o : Outline) (p : Printer) :
    o.print p = p.word (String.ofList (o.layout Text.isHidden p.level)) := by
  cases o with
  | node tag items =>
      cases items with
      | nil =>
          rw [print, layout, Printer.word_word]
          exact p.word_congr (by simp)
      | cons item items =>
          rw [print, Outline.printItems_eq_layout (item :: items),
            Printer.closeBlock_word_openBlock, Printer.word_word, Printer.level_openBlock,
            Printer.level_word, layout]
          exact p.word_congr (by simp)
  | null =>
      rw [print, layout]
      exact p.word_congr (by simp)
  | gap =>
      rw [print, layout]
      exact p.word_congr (by simp)
  | list values =>
      rw [print, Outline.printEach_eq_layout values, Outline.separated_layout, layout,
        Printer.char_eq, Printer.char_eq, Printer.level_word, Printer.word_word,
        Printer.word_word]
      exact p.word_congr (by simp)

theorem Outline.printItem_eq_layout (item : OutlineItem) (p : Printer) :
    Outline.printItem item p =
      p.word (String.ofList (Outline.itemLayout Text.isHidden p.level item)) := by
  cases item with
  | literal text => rw [printItem, itemLayout, Text.quote, Text.quoteCharsBy_isHidden]
  | bound r value =>
      rw [printItem, Outline.print_eq_layout value, itemLayout, Printer.word_word,
        Printer.level_word]
      exact p.word_congr (by simp)
  | unbound r =>
      rw [printItem, itemLayout, Printer.word_word]
      exact p.word_congr (by simp)

theorem Outline.printItems_eq_layout (items : List OutlineItem) (p : Printer) :
    Outline.printItems items p =
      p.word (String.ofList (Outline.itemsLayout Text.isHidden p.level items)) := by
  cases items with
  | nil => rw [printItems, itemsLayout, Printer.word_nil]
  | cons item rest =>
      rw [printItems, Outline.printItem_eq_layout item, Outline.printItems_eq_layout rest,
        Printer.newline_eq, itemsLayout, Printer.level_word, Printer.level_word,
        Printer.word_word, Printer.word_word]
      exact p.word_congr (by simp)

theorem Outline.printEach_eq_layout (values : List Outline) :
    Outline.printEach values = values.map layoutWriter := by
  cases values with
  | nil => rfl
  | cons value rest =>
      have hvalue : value.print = layoutWriter value :=
        funext fun p => Outline.print_eq_layout value p
      rw [printEach, hvalue, Outline.printEach_eq_layout rest, List.map_cons]
end

theorem Document.render_eq_renderBy (d : Document) : d.render = d.renderBy Text.isHidden := by
  have hroot : ∀ p : Printer, p.level = 0 →
      d.root.print p = p.word (String.ofList (d.root.outline.layout Text.isHidden 0)) := by
    intro p hp
    rw [Node.print, Outline.print_eq_layout, hp]
  apply String.toList_injective
  rw [render, print, renderBy]
  by_cases hdoctype : d.doctype.isSome = true
  · rw [if_pos hdoctype, if_pos hdoctype, hroot _ rfl]
    simp [Printer.word, Printer.newline_eq, Printer.lineStart]
  · rw [if_neg hdoctype, if_neg hdoctype, hroot _ rfl]
    simp [Printer.word]

end Backtrack
