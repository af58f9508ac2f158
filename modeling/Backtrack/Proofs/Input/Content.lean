import Backtrack.Input.Cursor

/-!
What an input holds in the end.  Filling a buffer moves units from the source
into the buffer, so the units that have arrived followed by those still to come
are always the same.  After a fill that did not have to wait, what a cursor sees
is decided by these units alone.
-/

namespace Backtrack

/-- The units that a source still has to deliver. -/
def Feed.pending (feed : Feed) : List Symbol :=
  feed.deliveries.flatMap fun
    | .chunk units => units
    | .wait => []

namespace Buffer

def content (b : Buffer) : List Symbol :=
  b.units.toList ++ (b.feed.map Feed.pending).getD []

/-- Nothing more is needed to know the first `upto` units. -/
def Reached (b : Buffer) (upto : Nat) : Prop := upto ≤ b.size ∨ b.exhausted = true

theorem content_pull (units : Array Symbol) (staysOpen : Bool) (upto : Nat)
    (deliveries : List Delivery) :
    (pull units staysOpen upto deliveries).1.content =
      units.toList ++ Feed.pending { deliveries, staysOpen } := by
  induction deliveries generalizing units with
  | nil =>
      unfold pull
      split
      · rfl
      · split <;> simp [content, Feed.pending]
  | cons delivery rest ih =>
      cases delivery with
      | wait =>
          unfold pull
          split
          · rfl
          · simp [content, Feed.pending]
      | chunk more =>
          unfold pull
          split
          · rfl
          · rw [ih]
            simp [Feed.pending]

/-- Filling loses nothing and adds nothing. -/
theorem content_fill (b : Buffer) (upto : Nat) : (b.fill upto).1.content = b.content := by
  obtain ⟨units, feed⟩ := b
  cases feed with
  | none => rfl
  | some feed => exact content_pull units feed.staysOpen upto feed.deliveries

theorem reached_pull (units : Array Symbol) (staysOpen : Bool) (upto : Nat)
    (deliveries : List Delivery) (h : (pull units staysOpen upto deliveries).2 = true) :
    (pull units staysOpen upto deliveries).1.Reached upto := by
  induction deliveries generalizing units with
  | nil =>
      unfold pull at h ⊢
      split
      · next hle => exact Or.inl hle
      · next hlt =>
          rw [if_neg hlt] at h
          split
          · next hopen => simp [hopen] at h
          · exact Or.inr rfl
  | cons delivery rest ih =>
      cases delivery with
      | wait =>
          unfold pull at h ⊢
          split
          · next hle => exact Or.inl hle
          · next hlt => simp [hlt] at h
      | chunk more =>
          unfold pull at h ⊢
          split
          · next hle => exact Or.inl hle
          · next hlt =>
              rw [if_neg hlt] at h
              exact ih _ h

theorem reached_fill {b b' : Buffer} {upto : Nat} (h : b.fill upto = (b', true)) :
    b'.Reached upto := by
  obtain ⟨units, feed⟩ := b
  cases feed with
  | none =>
      cases h
      exact Or.inr rfl
  | some feed =>
      have hpull : (pull units feed.staysOpen upto feed.deliveries) = (b', true) := h
      have hreached := reached_pull units feed.staysOpen upto feed.deliveries (by rw [hpull])
      rwa [hpull] at hreached

theorem fill_zero (b : Buffer) : b.fill 0 = (b, true) := by
  obtain ⟨units, feed⟩ := b
  cases feed with
  | none => rfl
  | some feed =>
      obtain ⟨deliveries, staysOpen⟩ := feed
      show pull units staysOpen 0 deliveries = _
      cases deliveries with
      | nil => simp [pull]
      | cons delivery rest => cases delivery <;> simp [pull]

/-! ## What has arrived is a start of the content -/

theorem size_pull (units : Array Symbol) (staysOpen : Bool) (upto : Nat)
    (deliveries : List Delivery) :
    units.size ≤ (pull units staysOpen upto deliveries).1.size := by
  induction deliveries generalizing units with
  | nil =>
      unfold pull
      split
      · exact Nat.le_refl _
      · split <;> exact Nat.le_refl _
  | cons delivery rest ih =>
      cases delivery with
      | wait =>
          unfold pull
          split <;> exact Nat.le_refl _
      | chunk more =>
          unfold pull
          split
          · exact Nat.le_refl _
          · have hmore : units.size ≤ (units ++ more).size := by
              rw [← Array.length_toList, ← Array.length_toList, Array.toList_appendList,
                List.length_append]
              exact Nat.le_add_right _ _
            exact Nat.le_trans hmore (ih _)

theorem size_fill (b : Buffer) (upto : Nat) : b.size ≤ (b.fill upto).1.size := by
  obtain ⟨units, feed⟩ := b
  cases feed with
  | none => exact Nat.le_refl _
  | some feed => exact size_pull units feed.staysOpen upto feed.deliveries

theorem size_le_length (b : Buffer) : b.size ≤ b.content.length := by
  simp [content, size]

theorem units_eq_of_exhausted {b : Buffer} (h : b.exhausted = true) :
    b.units.toList = b.content := by
  have hfeed : b.feed = none := by simpa [exhausted] using h
  simp [content, hfeed]

theorem take_content {b : Buffer} {upto : Nat} (h : b.Reached upto) :
    b.units.toList.take upto = b.content.take upto := by
  rcases h with hsize | hexhausted
  · rw [content, List.take_append_of_le_length]
    simpa [size] using hsize
  · rw [units_eq_of_exhausted hexhausted]

end Buffer

/-! ## Cursors -/

namespace Cursor

theorem isDone_of_reached {c : Cursor} {b : Buffer} (h : c.isDone b = true) :
    c.holding = false ∧ b.content.length ≤ c.offset := by
  simp only [isDone, Bool.and_eq_true, Bool.not_eq_true', decide_eq_true_eq] at h
  obtain ⟨⟨hholding, hexhausted⟩, hsize⟩ := h
  refine ⟨hholding, ?_⟩
  rw [← Buffer.units_eq_of_exhausted hexhausted]
  simpa [Buffer.size] using hsize

/-- Up to `n` characters of an input from the cursor, ending before a gap. -/
def ahead (c : Cursor) (units : List Symbol) (n : Nat) : List Char :=
  if c.holding then []
  else (((units.drop c.offset).take n).takeWhile (· != .gap)).filterMap Symbol.char?

theorem textAhead_eq (c : Cursor) (b : Buffer) (n : Nat) :
    c.textAhead b n = c.ahead b.units.toList n := by
  rw [textAhead, ahead, Array.toList_extract, List.extract_eq_take_drop, Nat.add_sub_cancel_left]

theorem takeWhile_isPrefix {α : Type} {p : α → Bool} {l l' : List α} (h : l <+: l') :
    l.takeWhile p <+: l'.takeWhile p := by
  obtain ⟨t, rfl⟩ := h
  rw [List.takeWhile_append]
  split
  · next hall =>
      rw [(List.takeWhile_prefix p).eq_of_length hall]
      exact List.prefix_append _ _
  · exact List.prefix_rfl

/-- Whatever has arrived, the text that is seen is the start of the text there. -/
theorem textAhead_isPrefix (c : Cursor) (b : Buffer) (n : Nat) :
    c.textAhead b n <+: c.ahead b.content n := by
  rw [textAhead_eq, ahead, ahead]
  split
  · exact List.prefix_rfl
  · refine (takeWhile_isPrefix ?_).filterMap _
    rw [Buffer.content, List.drop_append, List.take_append]
    exact List.prefix_append _ _

theorem length_textAhead_le (c : Cursor) (b : Buffer) (n : Nat) :
    (c.textAhead b n).length ≤ b.size - c.offset := by
  rw [textAhead_eq, ahead]
  split
  · exact Nat.zero_le _
  · refine Nat.le_trans (List.length_filterMap_le _ _) (Nat.le_trans
      (List.takeWhile_prefix _).length_le ?_)
    rw [List.length_take, List.length_drop, Array.length_toList, Buffer.size]
    exact Nat.min_le_right _ _

theorem length_textAhead_le_count (c : Cursor) (b : Buffer) (n : Nat) :
    (c.textAhead b n).length ≤ n := by
  rw [textAhead_eq, ahead]
  split
  · exact Nat.zero_le _
  · exact Nat.le_trans (List.length_filterMap_le _ _) (Nat.le_trans
      (List.takeWhile_prefix _).length_le (List.length_take_le _ _))

/-- Text that was seen under the cursor is the text of the input there. -/
theorem textAhead_eq_ahead {c : Cursor} {b : Buffer} {n : Nat} (h : b.Reached (c.offset + n)) :
    c.textAhead b n = c.ahead b.content n := by
  have htake := congrArg (List.drop c.offset) (Buffer.take_content h)
  rw [List.drop_take, List.drop_take, Nat.add_sub_cancel_left] at htake
  rw [textAhead_eq, ahead, ahead, htake]

theorem lt_size_of_not_done {c : Cursor} {b : Buffer} (h : b.Reached (c.offset + 1))
    (hholding : c.holding = false) (hdone : c.isDone b = false) : c.offset < b.size := by
  rcases h with hsize | hexhausted
  · exact hsize
  · have hlt : ¬ b.size ≤ c.offset := by simpa [isDone, hholding, hexhausted] using hdone
    exact Nat.lt_of_not_le hlt

/-- The unit under the cursor is a gap if it is no character and the input goes
on. -/
theorem gap_of_value_eq_none {c : Cursor} {b : Buffer} (h : b.Reached (c.offset + 1))
    (hholding : c.holding = false) (hvalue : c.value b = none) (hdone : c.isDone b = false) :
    b.content[c.offset]? = some .gap := by
  have hsize := lt_size_of_not_done h hholding hdone
  have hunit : b.units[c.offset]? = some (b.units[c.offset]) := Array.getElem?_eq_getElem hsize
  have hgap : b.units[c.offset] = .gap := by
    simp only [value, hholding, hunit, Option.bind_some] at hvalue
    cases hsymbol : b.units[c.offset] with
    | gap => rfl
    | char x =>
        rw [hsymbol] at hvalue
        cases hvalue
  rw [Buffer.content, List.getElem?_append_left (by simpa [Buffer.size] using hsize),
    Array.getElem?_toList, hunit, hgap]

/-! ### Moving on -/

theorem offsetAfter_of_le {c : Cursor} {b : Buffer} {n : Nat} (h : n ≤ b.size - c.offset) :
    c.offsetAfter b n = c.offset + n := if_pos h

/-- An offset that can be counted is the sum. -/
theorem offsetAfter_of_lt {c : Cursor} {n : Nat} (b : Buffer) (h : c.offset + n < UInt64.size) :
    c.offsetAfter b n = c.offset + n := by
  unfold offsetAfter
  split
  · rfl
  · exact Nat.mod_eq_of_lt h

/-- As long as the units themselves can be counted, it is the sum of machine
numbers. -/
theorem offsetAfter_eq_mod {c : Cursor} {b : Buffer} (hoffset : c.offset ≤ b.size)
    (hsize : b.size < UInt64.size) (n : Nat) :
    c.offsetAfter b n = (c.offset + n) % UInt64.size := by
  unfold offsetAfter
  split
  · next h => exact (Nat.mod_eq_of_lt (by omega)).symm
  · rfl

theorem tryAdvance_of_le {c : Cursor} {b : Buffer} {n : Nat} (h : c.offset + n ≤ b.size) :
    c.tryAdvance b n = .ok { c with offset := c.offset + n } := by
  rw [tryAdvance, offsetAfter_of_le (by omega), if_pos h]

theorem ofText_isPrefix_of_ahead {c : Cursor} {units : List Symbol} {n : Nat} {text : String}
    (h : text.toList <+: c.ahead units n) :
    Symbol.ofText text <+: units.drop c.offset ∧ (c.holding = true → text = "") := by
  have hspelled : ∀ (word : List Char) (l : List Symbol),
      word <+: (l.takeWhile (· != .gap)).filterMap Symbol.char? → word.map .char <+: l := by
    intro word l
    induction l generalizing word with
    | nil =>
        intro hword
        simpa using hword
    | cons symbol rest ih =>
        intro hword
        cases symbol with
        | gap =>
            have hnil : word = [] := by simpa using hword
            simp [hnil]
        | char x =>
            cases word with
            | nil => simp
            | cons y word =>
                simp only [List.takeWhile_cons, bne_iff_ne, ne_eq, reduceCtorEq,
                  not_false_eq_true, if_true, List.filterMap_cons, Symbol.char?,
                  List.cons_prefix_cons] at hword
                rw [List.map_cons, List.cons_prefix_cons]
                exact ⟨by rw [hword.1], ih word hword.2⟩
  unfold ahead at h
  by_cases hholding : c.holding = true
  · rw [if_pos hholding] at h
    have hnil : text.toList = [] := by simpa using h
    have htext : text = "" := String.toList_eq_nil_iff.mp hnil
    exact ⟨by simp [htext, Symbol.ofText], fun _ => htext⟩
  · rw [if_neg hholding] at h
    refine ⟨?_, fun hheld => absurd hheld hholding⟩
    exact (hspelled text.toList _ h).trans (List.take_prefix n _)

end Cursor

end Backtrack
