/-!
Character classes given as tables of code point ranges.  A class of the Unicode
Standard is a long table, so membership is decided by walking the ranges in
order and stopping as soon as the answer is known.
-/

namespace Backtrack
namespace Text

/-- Code point ranges with both ends included, in increasing order. -/
abbrev Ranges := List (Nat × Nat)

namespace Ranges

/-- Whether the code point `n` lies in one of the ranges.  The walk ends at the
first range above `n`, because the ranges increase. -/
def has : Ranges → Nat → Bool
  | [], _ => false
  | (lo, hi) :: rest, n => if n < lo then false else n ≤ hi || has rest n

/-- The ranges increase and do not overlap, which is what `has` relies on. -/
def Increasing : Ranges → Prop
  | [] => True
  | (lo, hi) :: rest => lo ≤ hi ∧ (∀ r ∈ rest.head?, hi < r.1) ∧ Increasing rest

instance decidableIncreasing : (ranges : Ranges) → Decidable ranges.Increasing
  | [] => .isTrue trivial
  | (lo, hi) :: rest =>
    have := decidableIncreasing rest
    inferInstanceAs (Decidable (lo ≤ hi ∧ (∀ r ∈ rest.head?, hi < r.1) ∧ Increasing rest))

/-- Every later range lies above the first, not only the next one. -/
theorem Increasing.lt_of_mem {lo hi : Nat} {rest : Ranges}
    (h : Increasing ((lo, hi) :: rest)) : ∀ r ∈ rest, hi < r.1 := by
  induction rest generalizing lo hi with
  | nil => simp
  | cons next rest ih =>
      obtain ⟨lo', hi'⟩ := next
      obtain ⟨_, hnext, hrest⟩ := h
      have hlt : hi < lo' := hnext (lo', hi') rfl
      intro r hr
      rcases List.mem_cons.mp hr with rfl | hr
      · exact hlt
      · have := ih hrest r hr
        have := hrest.1
        omega

/-- On increasing ranges the early stop loses nothing: `has` decides whether
some range contains the code point. -/
theorem has_eq_true_iff {ranges : Ranges} (h : Increasing ranges) (n : Nat) :
    ranges.has n = true ↔ ∃ r ∈ ranges, r.1 ≤ n ∧ n ≤ r.2 := by
  induction ranges with
  | nil => simp [has]
  | cons r rest ih =>
      obtain ⟨lo, hi⟩ := r
      have habove := h.lt_of_mem
      obtain ⟨hle, _, hrest⟩ := h
      unfold has
      by_cases hlo : n < lo
      · simp only [hlo, if_true, List.mem_cons, exists_eq_or_imp]
        constructor
        · intro hf
          cases hf
        · rintro (hr | ⟨r, hr, hr1, _⟩)
          · omega
          · have := habove r hr
            omega
      · simp only [hlo, if_false, Bool.or_eq_true, decide_eq_true_eq, ih hrest,
          List.mem_cons, exists_eq_or_imp]
        constructor
        · rintro (hr | hr)
          · exact Or.inl ⟨by omega, hr⟩
          · exact Or.inr hr
        · rintro (⟨_, hr⟩ | hr)
          · exact Or.inl hr
          · exact Or.inr hr

/-! ## Building -/

def clip? (within r : Nat × Nat) : Option (Nat × Nat) :=
  let part := (max within.1 r.1, min within.2 r.2)
  if part.1 ≤ part.2 then some part else none

/-- Add one range and join it with every range it overlaps or touches.  A range
whose ends are the wrong way round is empty and adds nothing. -/
def insert (lo hi : Nat) : Ranges → Ranges
  | [] => if lo ≤ hi then [(lo, hi)] else []
  | (lo', hi') :: rest =>
    if hi < lo then (lo', hi') :: rest
    else if hi + 1 < lo' then (lo, hi) :: (lo', hi') :: rest
    else if hi' + 1 < lo then (lo', hi') :: insert lo hi rest
    else insert (min lo lo') (max hi hi') rest

/-- A bound below everything stays below everything. -/
theorem lt_of_mem_insert {b lo hi : Nat} {ranges : Ranges} (hlo : b < lo)
    (h : ∀ r ∈ ranges, b < r.1) : ∀ r ∈ insert lo hi ranges, b < r.1 := by
  induction ranges generalizing lo hi with
  | nil =>
      intro r hr
      unfold insert at hr
      split at hr
      · rw [List.mem_singleton] at hr
        rw [hr]
        exact hlo
      · cases hr
  | cons r rest ih =>
      obtain ⟨lo', hi'⟩ := r
      have hlo' : b < lo' := h (lo', hi') (List.mem_cons_self ..)
      have hrest : ∀ r ∈ rest, b < r.1 := fun r hr => h r (List.mem_cons_of_mem _ hr)
      intro r hr
      unfold insert at hr
      split at hr
      · exact h r hr
      · split at hr
        · rcases List.mem_cons.mp hr with rfl | hr
          · exact hlo
          · exact h r hr
        · split at hr
          · rcases List.mem_cons.mp hr with rfl | hr
            · exact hlo'
            · exact ih hlo hrest r hr
          · exact ih (Nat.lt_min.mpr ⟨hlo, hlo'⟩) hrest r hr

theorem Increasing.insert {ranges : Ranges} (h : Increasing ranges) (lo hi : Nat) :
    Increasing (insert lo hi ranges) := by
  induction ranges generalizing lo hi with
  | nil =>
      unfold Ranges.insert
      split
      · next hle => exact ⟨hle, by simp, trivial⟩
      · trivial
  | cons r rest ih =>
      obtain ⟨lo', hi'⟩ := r
      have habove := h.lt_of_mem
      have hrest : Increasing rest := h.2.2
      unfold Ranges.insert
      split
      · exact h
      · next hle =>
        split
        · next hlt =>
          refine ⟨by omega, ?_, h⟩
          intro r hr
          cases hr
          show hi < lo'
          omega
        · split
          · next hgt =>
            refine ⟨h.1, ?_, ih hrest lo hi⟩
            intro r hr
            exact lt_of_mem_insert (by omega) habove r (List.mem_of_mem_head? hr)
          · exact ih hrest _ _

/-- The ranges between those given, from `start` up to the last code point. -/
def gaps (start : Nat) : Ranges → Ranges
  | [] => [(start, 0x10ffff)]
  | (lo, hi) :: rest => (if start < lo then [(start, lo - 1)] else []) ++ gaps (hi + 1) rest

end Ranges

end Text
end Backtrack
