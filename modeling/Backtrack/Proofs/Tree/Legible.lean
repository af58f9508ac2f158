import Backtrack.Proofs.Tree.Layout

/-!
Prints that can be read back.  The first word of a value tells nodes, null and gaps
apart, every child stands on a line of its own, and the indentation tells the line of a
child from that of the closing brace.  Where the types of the nodes and the names of the
references are words, a printed value therefore tells where it ends and which outline it
shows, up to the flags, languages and attributes of the tags.
-/

namespace Backtrack

/-! ## Words -/

namespace Text

def isNameChar (c : Char) : Bool := c.isAlphanum || c == '_'

/-- A word of letters, digits and underscores. -/
def isName (s : String) : Bool := !s.isEmpty && s.toList.all isNameChar

theorem isNameChar_of_mem {s : String} {c : Char} (h : isName s = true) (hc : c ∈ s.toList) :
    isNameChar c = true := by
  rw [isName, Bool.and_eq_true, List.all_eq_true] at h
  exact h.2 c hc

theorem ne_of_isNameChar {c d : Char} (hc : isNameChar c = true) (hd : isNameChar d = false) :
    c ≠ d := by
  rintro rfl
  rw [hc] at hd
  cases hd

theorem head?_append_ne_of_isName {s : String} {d : Char} (h : isName s = true)
    (hd : isNameChar d = false) (tail : List Char) : (s.toList ++ tail).head? ≠ some d := by
  cases hs : s.toList with
  | nil =>
      have hempty : s = "" := String.toList_eq_nil_iff.mp hs
      rw [hempty] at h
      cases h
  | cons c cs =>
      have hc := isNameChar_of_mem h (c := c) (by rw [hs]; exact List.mem_cons_self)
      simpa using ne_of_isNameChar hc hd

end Text

/-! ## Outlines that can be read back -/

mutual
/-- Types and names are words, every reference stands for a value, and no value is a
list. -/
def Outline.Legible : Outline → Prop
  | .node tag items => tag.nodeType.all Text.isName = true ∧ Outline.ItemsLegible items
  | .null => True
  | .gap => True
  | .list _ => False

def Outline.ItemLegible : OutlineItem → Prop
  | .literal _ => True
  | .bound r value => Text.isName r.name = true ∧ value.Legible
  | .unbound _ => False

def Outline.ItemsLegible : List OutlineItem → Prop
  | [] => True
  | item :: rest => Outline.ItemLegible item ∧ Outline.ItemsLegible rest
end

namespace Outline

theorem itemsLegible_of_forall {items : List OutlineItem}
    (h : ∀ item ∈ items, ItemLegible item) : ItemsLegible items := by
  induction items with
  | nil => trivial
  | cons item rest ih =>
      rw [List.forall_mem_cons] at h
      exact ⟨h.1, ih h.2⟩

/-- The first word of a printed value. -/
def mark : Outline → List Char
  | .node tag _ => tag.heading.toList
  | .null => "null".toList
  | .gap => "<//>".toList
  | .list _ => []

/-- What a printed value shows after its first word. -/
def body (hidden : Char → Bool) (level : Nat) : Outline → List Char
  | .node _ [] => [' ', '\x7b', '\x7d']
  | .node _ (item :: items) =>
    ' ' :: '\x7b' :: (itemsLayout hidden (level + 1) (item :: items) ++
      (Printer.lineStart level ++ ['\x7d']))
  | .null => []
  | .gap => []
  | .list values => layout hidden level (.list values)

theorem layout_eq_mark_append (hidden : Char → Bool) (level : Nat) (o : Outline) :
    o.layout hidden level = o.mark ++ o.body hidden level := by
  cases o with
  | node tag items => cases items <;> rw [layout, mark, body]
  | null => rw [layout, mark, body, List.append_nil]
  | gap => rw [layout, mark, body, List.append_nil]
  | list values => rfl

/-- The type is told by the heading: a fragment shows what is no word. -/
theorem plain_eq_of_heading {tag tag' : OpenTag} (h : tag.nodeType.all Text.isName = true)
    (h' : tag'.nodeType.all Text.isName = true) (heq : tag.heading = tag'.heading) :
    tag.plain = tag'.plain := by
  have hhash : ∀ {s : String}, Text.isName s = true → s ≠ "#" := by
    rintro s hs rfl
    revert hs
    decide
  unfold OpenTag.heading at heq
  unfold OpenTag.plain
  cases htype : tag.nodeType with
  | none =>
      cases htype' : tag'.nodeType with
      | none => rfl
      | some s' =>
          rw [htype, htype'] at heq
          rw [htype'] at h'
          exact absurd heq.symm (hhash h')
  | some s =>
      cases htype' : tag'.nodeType with
      | none =>
          rw [htype, htype'] at heq
          rw [htype] at h
          exact absurd heq (hhash h)
      | some s' =>
          rw [htype, htype'] at heq
          exact congrArg (fun s => OpenTag.plain { nodeType := some s }) heq

/-! ## The first line -/

def isInk (c : Char) : Bool := c != ' ' && c != '\n'

theorem isInk_of_isNameChar {c : Char} (h : Text.isNameChar c = true) : isInk c = true := by
  have hspace : c ≠ ' ' := Text.ne_of_isNameChar h (by decide)
  have hbreak : c ≠ '\n' := Text.ne_of_isNameChar h (by decide)
  simp [isInk, hspace, hbreak]

theorem isInk_of_mem_mark {o : Outline} (h : o.Legible) : ∀ c ∈ o.mark, isInk c = true := by
  intro c hc
  cases o with
  | node tag items =>
      have htype := h.1
      rw [mark, OpenTag.heading] at hc
      cases hs : tag.nodeType with
      | none =>
          rw [hs] at hc
          exact List.all_eq_true.mp (by decide) c hc
      | some s =>
          rw [hs] at hc htype
          exact isInk_of_isNameChar (Text.isNameChar_of_mem htype hc)
  | null | gap => exact List.all_eq_true.mp (by decide) c hc
  | list values => cases h

/-- Nothing but a line break follows. -/
abbrev EndsLine (rest : List Char) : Prop := Text.EndsRun (· != '\n') rest

theorem endsRun_body {hidden : Char → Bool} {level : Nat} {o : Outline} {rest : List Char}
    (h : o.Legible) (hrest : EndsLine rest) :
    Text.EndsRun isInk (o.body hidden level ++ rest) := by
  have hline : Text.EndsRun isInk rest := by
    intro c hc
    have hbreak := hrest c hc
    simp [isInk, hbreak]
  cases o with
  | node tag items => cases items <;> exact Text.endsRun_cons (by decide) _
  | null => exact hline
  | gap => exact hline
  | list values => cases h

end Outline

/-! ## Reading back -/

namespace Reference

theorem ne_colon_of_mem_render {r : Reference} (h : Text.isName r.name = true) :
    ∀ c ∈ r.render.toList, (c != ':') = true := by
  intro c hc
  have hname : ∀ d ∈ r.name.toList, d ≠ ':' := fun d hd =>
    Text.ne_of_isNameChar (Text.isNameChar_of_mem h hd) (by decide)
  rw [bne_iff_ne]
  unfold render at hc
  by_cases harray : r.isArray = true
  · rw [if_pos harray, String.toList_append, List.mem_append] at hc
    rcases hc with hc | hc
    · exact hname c hc
    · have hbrackets : "[]".toList.all (· != ':') = true := by decide
      exact bne_iff_ne.mp (List.all_eq_true.mp hbrackets c hc)
  · rw [if_neg harray] at hc
    exact hname c hc

/-- The brackets of an array reference are no part of a word. -/
theorem render_ne_name {r : Reference} {s : String} (harray : r.isArray = true)
    (h : Text.isName s = true) : r.render ≠ s := by
  intro heq
  have hbracket : ']' ∈ s.toList := by
    rw [← heq, render, if_pos harray]
    simp
  have hchar := Text.isNameChar_of_mem h hbracket
  revert hchar
  decide

theorem eq_of_render {r r' : Reference} (h : Text.isName r.name = true)
    (h' : Text.isName r'.name = true) (heq : r.render = r'.render) : r = r' := by
  obtain ⟨name, isArray⟩ := r
  obtain ⟨name', isArray'⟩ := r'
  cases isArray with
  | true =>
      cases isArray' with
      | true =>
          have hlists := congrArg String.toList heq
          simp only [render, if_true, String.toList_append] at hlists
          rw [String.toList_injective (List.append_cancel_right hlists)]
      | false => exact absurd heq (render_ne_name rfl h')
  | false =>
      cases isArray' with
      | true => exact absurd heq.symm (render_ne_name rfl h)
      | false => exact congrArg (Reference.mk · false) heq

/-- A reference is told from the value after it by the colon. -/
theorem render_append_inj {r r' : Reference} {tail tail' : List Char}
    (h : Text.isName r.name = true) (h' : Text.isName r'.name = true)
    (heq : r.render.toList ++ ':' :: tail = r'.render.toList ++ ':' :: tail') :
    r = r' ∧ tail = tail' := by
  have hrun := Text.append_inj_of_run (ne_colon_of_mem_render h) (ne_colon_of_mem_render h')
    (Text.endsRun_cons (by decide) tail) (Text.endsRun_cons (by decide) tail') heq
  exact ⟨eq_of_render h h' (String.toList_injective hrun.1), (List.cons.inj hrun.2).2⟩

theorem head?_render_ne {r : Reference} (h : Text.isName r.name = true) (tail : List Char) :
    (r.render.toList ++ tail).head? ≠ some '"' := by
  unfold render
  by_cases harray : r.isArray = true
  · rw [if_pos harray, String.toList_append, List.append_assoc]
    exact Text.head?_append_ne_of_isName h (by decide) _
  · rw [if_neg harray]
    exact Text.head?_append_ne_of_isName h (by decide) _

end Reference

namespace Outline

theorem endsLine_lineStart (level : Nat) (rest : List Char) :
    EndsLine (Printer.lineStart level ++ rest) :=
  Text.endsRun_cons (by decide) _

/-- What stands on further lines ends the line before. -/
theorem endsLine_itemsLayout {hidden : Char → Bool} {level : Nat} {rest : List Char}
    (items : List OutlineItem) (h : EndsLine rest) :
    EndsLine (itemsLayout hidden level items ++ rest) := by
  cases items with
  | nil => exact h
  | cons item items =>
      rw [itemsLayout, List.append_assoc]
      exact endsLine_lineStart level _

/-- The line of a child starts further in than the brace that closes the node. -/
theorem closing_ne_itemsLayout {hidden : Char → Bool} {level : Nat} {item : OutlineItem}
    {items : List OutlineItem} {rest tail : List Char} :
    Printer.lineStart level ++ '\x7d' :: rest ≠
      itemsLayout hidden (level + 1) (item :: items) ++ tail := by
  intro h
  have hindent : Printer.lineStart (level + 1) = Printer.lineStart level ++ [' ', ' '] := by
    rw [Printer.lineStart, Printer.lineStart, Printer.indentWidth, Nat.succ_mul,
      List.replicate_add]
    rfl
  rw [itemsLayout, hindent, List.append_assoc, List.append_assoc, List.append_cancel_left_eq] at h
  simp at h

/-- A node shows more on its first line than its first word. -/
theorem body_node_ne {hidden : Char → Bool} {level : Nat} {tag : OpenTag}
    {items : List OutlineItem} {rest rest' : List Char} (h : EndsLine rest') :
    (Outline.node tag items).body hidden level ++ rest ≠ rest' := by
  rintro rfl
  have hfirst : ((Outline.node tag items).body hidden level ++ rest).head? = some ' ' := by
    cases items <;> rfl
  have hbreak := h ' ' hfirst
  revert hbreak
  decide

/-- A node without children is told by the brace on its first line. -/
theorem itemsLayout_eq_of_body {hidden : Char → Bool} {level : Nat} {tag tag' : OpenTag}
    {items items' : List OutlineItem} {rest rest' : List Char}
    (h : (Outline.node tag items).body hidden level ++ rest =
      (Outline.node tag' items').body hidden level ++ rest') :
    itemsLayout hidden (level + 1) items ++ (Printer.lineStart level ++ '\x7d' :: rest) =
      itemsLayout hidden (level + 1) items' ++ (Printer.lineStart level ++ '\x7d' :: rest') := by
  cases items with
  | nil =>
      cases items' with
      | nil =>
          have hrests : rest = rest' := by simpa [body] using h
          rw [hrests]
      | cons item' more' => simp [body, itemsLayout, Printer.lineStart] at h
  | cons item more =>
      cases items' with
      | nil => simp [body, itemsLayout, Printer.lineStart] at h
      | cons item' more' => simpa [body] using h

mutual
/-- A printed value tells where it ends and which outline it shows. -/
theorem layout_append_inj {hidden : Char → Bool} {level : Nat} {rest rest' : List Char}
    (o o' : Outline) (ho : o.Legible) (ho' : o'.Legible) (hrest : EndsLine rest)
    (hrest' : EndsLine rest')
    (h : o.layout hidden level ++ rest = o'.layout hidden level ++ rest') :
    o.plain = o'.plain ∧ rest = rest' := by
  rw [layout_eq_mark_append, layout_eq_mark_append, List.append_assoc, List.append_assoc] at h
  obtain ⟨hmark, hbody⟩ := Text.append_inj_of_run (isInk_of_mem_mark ho) (isInk_of_mem_mark ho')
    (endsRun_body ho hrest) (endsRun_body ho' hrest') h
  cases o with
  | node tag items =>
      cases o' with
      | node tag' items' =>
          have htag : tag.plain = tag'.plain :=
            plain_eq_of_heading ho.1 ho'.1 (String.toList_injective hmark)
          obtain ⟨hitems, hrests⟩ :=
            itemsLayout_append_inj items items' ho.2 ho'.2 (itemsLayout_eq_of_body hbody)
          exact ⟨by rw [plain, plain, htag, hitems], hrests⟩
      | null => exact absurd hbody (body_node_ne hrest')
      | gap => exact absurd hbody (body_node_ne hrest')
      | list values' => cases ho'
  | null =>
      cases o' with
      | node tag' items' => exact absurd hbody.symm (body_node_ne hrest)
      | null => exact ⟨rfl, hbody⟩
      | gap => exact absurd hmark (by decide)
      | list values' => cases ho'
  | gap =>
      cases o' with
      | node tag' items' => exact absurd hbody.symm (body_node_ne hrest)
      | null => exact absurd hmark (by decide)
      | gap => exact ⟨rfl, hbody⟩
      | list values' => cases ho'
  | list values => cases ho

theorem itemLayout_append_inj {hidden : Char → Bool} {level : Nat} {rest rest' : List Char}
    (item item' : OutlineItem) (hitem : ItemLegible item) (hitem' : ItemLegible item')
    (hrest : EndsLine rest) (hrest' : EndsLine rest')
    (h : itemLayout hidden level item ++ rest = itemLayout hidden level item' ++ rest') :
    plainItem item = plainItem item' ∧ rest = rest' := by
  cases item with
  | literal text =>
      cases item' with
      | literal text' =>
          obtain ⟨htext, hrests⟩ := Text.quoteCharsBy_append_inj h
          rw [String.toList_injective htext]
          exact ⟨rfl, hrests⟩
      | bound r' value' =>
          rw [itemLayout, itemLayout, List.append_assoc] at h
          exact absurd (congrArg List.head? h).symm (Reference.head?_render_ne hitem'.1 _)
      | unbound r' => cases hitem'
  | bound r value =>
      cases item' with
      | literal text' =>
          rw [itemLayout, itemLayout, List.append_assoc] at h
          exact absurd (congrArg List.head? h) (Reference.head?_render_ne hitem.1 _)
      | bound r' value' =>
          rw [itemLayout, itemLayout, List.append_assoc, List.append_assoc] at h
          obtain ⟨rfl, htails⟩ := Reference.render_append_inj hitem.1 hitem'.1 h
          obtain ⟨hvalue, hrests⟩ := layout_append_inj value value' hitem.2 hitem'.2 hrest hrest'
            (List.cons.inj htails).2
          exact ⟨by rw [plainItem, plainItem, hvalue], hrests⟩
      | unbound r' => cases hitem'
  | unbound r => cases hitem

theorem itemsLayout_append_inj {hidden : Char → Bool} {level : Nat} {rest rest' : List Char}
    (items items' : List OutlineItem) (hitems : ItemsLegible items)
    (hitems' : ItemsLegible items')
    (h : itemsLayout hidden (level + 1) items ++ (Printer.lineStart level ++ '\x7d' :: rest) =
      itemsLayout hidden (level + 1) items' ++ (Printer.lineStart level ++ '\x7d' :: rest')) :
    plainItems items = plainItems items' ∧ rest = rest' := by
  cases items with
  | nil =>
      cases items' with
      | nil =>
          have hbraces := List.append_cancel_left h
          exact ⟨rfl, (List.cons.inj (List.append_cancel_left hbraces)).2⟩
      | cons item' more' => exact absurd h closing_ne_itemsLayout
  | cons item more =>
      cases items' with
      | nil => exact absurd h.symm closing_ne_itemsLayout
      | cons item' more' =>
          simp only [itemsLayout, List.append_assoc, List.append_cancel_left_eq] at h
          obtain ⟨hitem, hmore⟩ := itemLayout_append_inj item item' hitems.1 hitems'.1
            (endsLine_itemsLayout more (endsLine_lineStart level _))
            (endsLine_itemsLayout more' (endsLine_lineStart level _)) h
          obtain ⟨hplain, hrests⟩ := itemsLayout_append_inj more more' hitems.2 hitems'.2 hmore
          exact ⟨by rw [plainItems, plainItems, hitem, hplain], hrests⟩
end

end Outline

end Backtrack
