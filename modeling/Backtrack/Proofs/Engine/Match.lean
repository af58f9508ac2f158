import Backtrack.Engine.Match
import Backtrack.Proofs.Input.Runs

/-!
What a match sees.  However the input arrives, a pattern is tried on the same
text: the characters ahead of the cursor, as far as the pattern may look, up to a
gap or to the guard.
-/

namespace Backtrack

namespace Engine

/-! ## The text that is searched -/

theorem before_isPrefix (guard text : List Char) : before guard text <+: text := by
  induction text with
  | nil => exact List.prefix_rfl
  | cons c rest ih =>
      unfold before
      split
      · exact List.nil_prefix
      · exact List.cons_prefix_cons.mpr ⟨rfl, ih⟩

theorem cutAtGuard_isPrefix (guard : Option String) (text : List Char) :
    cutAtGuard guard text <+: text := by
  unfold cutAtGuard
  split
  · exact List.prefix_rfl
  · split
    · exact List.prefix_rfl
    · exact List.prefix_rfl
    · exact List.cons_prefix_cons.mpr ⟨rfl, before_isPrefix _ _⟩

/-- The text a pattern is tried on, once a buffer is there. -/
def Scope.searched (scope : Scope) (config : Config) (b : Buffer) (p : Pattern) : List Char :=
  cutAtGuard scope.regions.spans.guard
    (scope.cursor.textAhead b (p.lookahead.getD config.matchWindow))

variable {config : Config} {scope : Scope} {p : Pattern} {b b' : Buffer} {text : String}

theorem Scope.searched_isPrefix (scope : Scope) (config : Config) (b : Buffer) (p : Pattern) :
    scope.searched config b p <+:
      scope.cursor.textAhead b (p.lookahead.getD config.matchWindow) :=
  cutAtGuard_isPrefix _ _

theorem Scope.length_searched_le (scope : Scope) (config : Config) (b : Buffer) (p : Pattern) :
    (scope.searched config b p).length ≤ b.size - scope.cursor.offset :=
  Nat.le_trans (scope.searched_isPrefix config b p).length_le
    (Cursor.length_textAhead_le _ _ _)

theorem matchAt_eq_of_runs {ω : Type} {range : Option TokenRange}
    (h : (matchAt config scope p : Job ω _).Runs b range b') :
    b'.content = b.content ∧
      b'.Reached ((scope.cursor.offset + p.lookahead.getD config.matchWindow) % UInt64.size) ∧
      range = (p.matchStart? (scope.searched config b' p)).map
        (TokenRange.ofText · scope.cursor.offset) := by
  have hcontent := h.content_eq
  unfold matchAt at h
  obtain ⟨text, b₁, hpeek, hmatch⟩ := Job.runs_bind_iff.mp h
  obtain ⟨b₂, b₃, hawait, hdone⟩ := Job.runs_bind_iff.mp hpeek
  obtain ⟨rfl, hreached⟩ := Job.reached_of_await hawait
  obtain ⟨rfl, rfl⟩ := Job.runs_done_iff.mp hdone
  obtain ⟨rfl, rfl⟩ := Job.runs_done_iff.mp hmatch
  exact ⟨hcontent, hreached, rfl⟩

theorem length_ofText (text : List Char) (start : Nat) :
    (TokenRange.ofText text start).length = text.length :=
  Nat.add_sub_cancel_left start text.length

theorem prefix_of_matchStart {text : List Char} {range : TokenRange} {start : Nat}
    (h : (p.matchStart? text).map (TokenRange.ofText · start) = some range) :
    range.start = start ∧ range.stop = start + range.text.length ∧
      range.text.toList <+: text := by
  obtain ⟨word, hword, rfl⟩ := Option.map_eq_some_iff.mp h
  obtain ⟨n, _, rfl⟩ := Option.map_eq_some_iff.mp hword
  refine ⟨rfl, ?_, ?_⟩
  · rw [TokenRange.ofText, String.length_ofList]
  · rw [TokenRange.ofText, String.toList_ofList]
    exact List.take_prefix _ _

/-- A literal that is matched is spelled out at the cursor, where it has arrived. -/
theorem literal_of_matchStart {range : TokenRange}
    (h : ((Pattern.literal text).matchStart? (scope.searched config b (.literal text))).map
      (TokenRange.ofText · scope.cursor.offset) = some range) :
    range.length = text.length ∧ text.length ≤ b.size - scope.cursor.offset ∧
      Symbol.ofText text <+: b.content.drop scope.cursor.offset ∧
      (scope.cursor.holding = true → text = "") := by
  rw [Pattern.matchStart?, Pattern.matchLength?] at h
  split at h
  · next hword =>
      have hsearched := List.isPrefixOf_iff_prefix.mp hword
      have hahead := (hsearched.trans (scope.searched_isPrefix config b _)).trans
        (Cursor.textAhead_isPrefix _ _ _)
      have hlength : text.length ≤ (scope.searched config b (.literal text)).length := by
        rw [← String.length_toList]
        exact hsearched.length_le
      refine ⟨?_, Nat.le_trans hlength (scope.length_searched_le config b _),
        Cursor.ofText_isPrefix_of_ahead hahead⟩
      simp only [Option.map_some, Option.some.injEq] at h
      rw [← h, length_ofText, List.length_take_of_le hlength]
  · cases h

end Engine

end Backtrack
