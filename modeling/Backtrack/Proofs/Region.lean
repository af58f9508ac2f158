import Backtrack.Region

/-!
Counting spans.  Every span but the outermost was begun by a balanced construct or by a
node, and ends with it.  `Counts` says how many spans are no construct's; what a tag
does to the regions changes that number only by the span of the node itself.
-/

namespace Backtrack

namespace OpenTag

/-- Whether a node with this tag begins a span.  Only typed nodes do. -/
def beginsSpan (tag : OpenTag) : Bool :=
  tag.nodeType.isSome && (tag.attributes.text? "span").isSome

/-- Whether the tag ends the innermost balanced construct. -/
def isBalancer (tag : OpenTag) : Bool := (tag.attributes.get? "balancer").any Value.isTruthy

end OpenTag

namespace Regions

variable {r r' : Regions} {tag : OpenTag} {n : Nat}

/-- Of the spans, `n` were not begun by a balanced construct. -/
def Counts (r : Regions) (n : Nat) : Prop :=
  r.spans.size = n + r.balanced.countP (·.pushedSpan)

theorem counts_ofName (name : String) : (ofName name).Counts 1 := rfl

/-! ## Ending a span -/

theorem of_popSpan (h : r.popSpan = (r', .ok ())) :
    r'.balanced = r.balanced ∧ r.spans.size = r'.spans.size + 1 := by
  unfold popSpan SpanStack.pop at h
  cases hinner : r.spans.inner with
  | nil =>
      rw [hinner] at h
      cases h
  | cons span inner =>
      rw [hinner] at h
      cases h
      exact ⟨rfl, by rw [SpanStack.size, SpanStack.size, hinner, List.length_cons]⟩

theorem popSpan_eq_ok (h : 1 < r.spans.size) : r.popSpan.2 = .ok () := by
  unfold popSpan SpanStack.pop
  cases hinner : r.spans.inner with
  | nil =>
      rw [SpanStack.size, hinner] at h
      exact absurd h (by decide)
  | cons span inner => rfl

theorem error_of_popSpan {error : Error} (h : r.popSpan.2 = .error error) :
    error = .spanUnderflow := by
  unfold popSpan SpanStack.pop at h
  cases hinner : r.spans.inner with
  | nil =>
      rw [hinner] at h
      cases h
      rfl
  | cons span inner =>
      rw [hinner] at h
      cases h

/-! ## Balanced constructs -/

theorem Counts.endBalanced (h : r.Counts n) (hended : r.endBalanced tag = (r', .ok ())) :
    r'.Counts n := by
  unfold Regions.endBalanced at hended
  unfold Counts at h ⊢
  split at hended
  · cases hended
  · next entry balanced hbalanced =>
      rw [hbalanced, List.countP_cons] at h
      dsimp only at hended
      split at hended
      · next hpushed =>
          obtain ⟨hsame, hsize⟩ := of_popSpan hended
          rw [if_pos hpushed] at h
          rw [hsame]
          dsimp only at hsize ⊢
          omega
      · next hpushed =>
          rw [if_neg hpushed] at h
          cases hended
          exact h

theorem Counts.endBalanced_ne_underflow (h : r.Counts (n + 1)) (tag : OpenTag) :
    (r.endBalanced tag).2 ≠ .error .spanUnderflow := by
  unfold Regions.endBalanced
  unfold Counts at h
  split
  · nofun
  · next entry balanced hbalanced =>
      rw [hbalanced, List.countP_cons] at h
      dsimp only
      split
      · next hpushed =>
          rw [if_pos hpushed] at h
          rw [popSpan_eq_ok (by dsimp only; omega)]
          nofun
      · nofun

theorem endBalanced_eq_unexpectedCloser_iff {name : String} :
    (r.endBalanced tag).2 = .error (.unexpectedCloser name) ↔
      r.balanced = [] ∧ name = tag.typeName := by
  unfold endBalanced
  split
  · next hbalanced => simp [hbalanced, eq_comm]
  · next entry balanced hbalanced =>
      simp only [hbalanced, List.cons_ne_nil, false_and, iff_false]
      split
      · intro herror
        cases error_of_popSpan herror
      · nofun

theorem Counts.beginBalanced (h : r.Counts n) (tag : OpenTag) :
    (r.beginBalanced tag).Counts n := by
  unfold Regions.beginBalanced
  split
  · exact h
  · unfold Counts at h ⊢
    dsimp only
    split
    · next hspan => simpa [hspan] using h
    · next name hspan =>
        simp only [SpanStack.size, SpanStack.push, hspan, Option.isSome_some, List.countP_cons,
          List.length_cons, if_true] at h ⊢
        omega

/-! ## Nodes -/

theorem Counts.beginSpan (h : r.Counts n) (tag : OpenTag) :
    (r.beginSpan tag).Counts (n + if (tag.attributes.text? "span").isSome then 1 else 0) := by
  unfold Regions.beginSpan
  split
  · next hspan => simpa [hspan] using h
  · next name hspan =>
      simp only [Counts, SpanStack.size, SpanStack.push, hspan, Option.isSome_some, if_true,
        List.length_cons] at h ⊢
      omega

theorem enter_of_isBalancer (h : tag.isBalancer = true) (r : Regions) :
    r.enter tag =
      match r.endBalanced tag with
      | (r, .error e) => (r, .error e)
      | (r, .ok ()) => ((r.beginBalanced tag).beginSpan tag, .ok ()) := by
  rw [OpenTag.isBalancer] at h
  rw [enter, if_pos h]
  rcases r.endBalanced tag with ⟨r', error | ⟨⟩⟩ <;> rfl

theorem enter_of_not_isBalancer (h : tag.isBalancer = false) (r : Regions) :
    r.enter tag = ((r.beginBalanced tag).beginSpan tag, .ok ()) := by
  rw [OpenTag.isBalancer] at h
  rw [enter, if_neg (ne_true_of_eq_false h)]

/-- Entering a node adds its own span to those that are no construct's. -/
theorem Counts.enter (h : r.Counts n) (hentered : r.enter tag = (r', .ok ())) :
    r'.Counts (n + if (tag.attributes.text? "span").isSome then 1 else 0) := by
  cases hbalancer : tag.isBalancer with
  | false =>
      rw [enter_of_not_isBalancer hbalancer] at hentered
      cases hentered
      exact (h.beginBalanced tag).beginSpan tag
  | true =>
      rw [enter_of_isBalancer hbalancer] at hentered
      rcases hended : r.endBalanced tag with ⟨r₁, error | ⟨⟩⟩
      · rw [hended] at hentered
        cases hentered
      · rw [hended] at hentered
        cases hentered
        exact ((h.endBalanced hended).beginBalanced tag).beginSpan tag

theorem Counts.enter_ne_underflow (h : r.Counts (n + 1)) (tag : OpenTag) :
    (r.enter tag).2 ≠ .error .spanUnderflow := by
  cases hbalancer : tag.isBalancer with
  | false =>
      rw [enter_of_not_isBalancer hbalancer]
      nofun
  | true =>
      have hne := h.endBalanced_ne_underflow tag
      rw [enter_of_isBalancer hbalancer]
      rcases hended : r.endBalanced tag with ⟨r₁, error | ⟨⟩⟩
      · rw [hended] at hne
        exact hne
      · nofun

/-- A closer is unexpected exactly if no construct waits for one. -/
theorem enter_eq_unexpectedCloser_iff {name : String} :
    (r.enter tag).2 = .error (.unexpectedCloser name) ↔
      tag.isBalancer = true ∧ r.balanced = [] ∧ name = tag.typeName := by
  cases hbalancer : tag.isBalancer with
  | false =>
      rw [enter_of_not_isBalancer hbalancer]
      simp
  | true =>
      rw [enter_of_isBalancer hbalancer, ← endBalanced_eq_unexpectedCloser_iff]
      rcases r.endBalanced tag with ⟨r₁, error | ⟨⟩⟩ <;> simp

/-- Leaving a node takes away its own span. -/
theorem Counts.leave (hleft : r.leave tag = (r', .ok ()))
    (h : r.Counts (n + if (tag.attributes.text? "span").isSome then 1 else 0)) :
    r'.Counts n := by
  unfold Regions.leave at hleft
  unfold Counts at h ⊢
  split at hleft
  · next hspan =>
      obtain ⟨hsame, hsize⟩ := of_popSpan hleft
      rw [if_pos hspan] at h
      rw [hsame]
      omega
  · next hspan =>
      rw [if_neg hspan] at h
      cases hleft
      exact h

theorem Counts.leave_eq_ok
    (h : r.Counts (n + 1 + if (tag.attributes.text? "span").isSome then 1 else 0)) :
    (r.leave tag).2 = .ok () := by
  unfold Regions.leave
  split
  · next hspan =>
      rw [Counts, if_pos hspan] at h
      exact popSpan_eq_ok (by omega)
  · rfl

theorem error_of_leave {error : Error} (h : (r.leave tag).2 = .error error) :
    error = .spanUnderflow := by
  unfold leave at h
  split at h
  · exact error_of_popSpan h
  · cases h

end Regions

end Backtrack
