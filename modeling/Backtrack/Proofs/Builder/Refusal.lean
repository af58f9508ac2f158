import Backtrack.Proofs.Builder.Snapshot

/-!
Requests that are refused.  A terminal may take a node off the path, the held value, or
the slot bound last before it is known to succeed.  None of this is ever lost.  The
shape of the tree leaves nothing that could fail after it, so a terminal is refused by
the innermost segment alone, and a refused request uses up a segment name at most.
-/

namespace Backtrack

theorem exists_of_map_eq_error {ε α β : Type} {f : α → β} {x : Except ε α} {e : ε}
    (h : x.map f = .error e) : x = .error e := by
  cases x with
  | error cause => exact congrArg Except.error (Except.error.inj h)
  | ok a => cases h

namespace Builder

/-- The innermost segment is a reference without a value. -/
def Awaits (b : Builder) : Prop :=
  ∃ segment rest, b.state.segments = segment :: rest ∧ segment.node = none

def lastBound? (b : Builder) : Option Reference := b.state.segments.head?.bind (·.lastBound)

variable {b : Builder} {saved : List BuildState}

theorem openTop?_eq_none_iff : b.state.openTop? = none ↔ b.node? = none := by
  unfold BuildState.openTop? node?
  cases b.state.segments <;> simp

theorem pendingTop?_eq_none_iff : b.state.pendingTop? = none ↔ ¬ b.Awaits := by
  constructor
  · rintro hnone ⟨segment, rest, hsegments, hnode⟩
    rw [BuildState.pendingTop?_eq_some_iff.mpr ⟨hsegments, hnode⟩] at hnone
    cases hnone
  · intro hnot
    cases htop : b.state.pendingTop? with
    | none => rfl
    | some top =>
        obtain ⟨segment, rest⟩ := top
        exact absurd ⟨segment, rest, BuildState.pendingTop?_eq_some_iff.mp htop⟩ hnot

theorem exists_lastBound_eq_none_iff :
    (∃ top, b.state.openTop? = some top ∧ top.1.lastBound = none) ↔
      b.node?.isSome ∧ b.lastBound? = none := by
  unfold BuildState.openTop? node? lastBound?
  cases b.state.segments with
  | nil => simp
  | cons segment rest => cases hnode : segment.node <;> simp [hnode]

/-! ## Terminals -/

theorem advance_eq_error_iff {t : Terminal} {e : Error} :
    (b.advance t).2 = .error e ↔
      ∃ state cause, b.state.apply ⟨b.nextId⟩ t = (state, .error cause) ∧ e = .build cause := by
  rw [advance_eq]
  rcases b.state.apply ⟨b.nextId⟩ t with ⟨state, cause | undo⟩
  · simp [eq_comm]
  · simp

theorem Mirrors.close_error_iff (h : b.Mirrors saved) {e : Error} :
    (b.advance .close).2 = .error e ↔ b.node? = none ∧ e = .build (.noOpenNode "close") := by
  rw [advance_eq_error_iff, ← openTop?_eq_none_iff]
  simp only [BuildState.apply, h.shaped.applyClose_error_iff]
  simp

theorem Mirrors.null_error_iff (h : b.Mirrors saved) {e : Error} :
    (b.advance .null).2 = .error e ↔ ¬ b.Awaits ∧ e = .build (.noPendingReference "null") := by
  rw [advance_eq_error_iff, ← pendingTop?_eq_none_iff]
  simp only [BuildState.apply, BuildState.applyNull, h.shaped.bindPending_error_iff .null]
  simp

theorem Mirrors.gap_error_iff (h : b.Mirrors saved) {e : Error} :
    (b.advance .gap).2 = .error e ↔ ¬ b.Awaits ∧ e = .build (.noPendingReference "gap") := by
  rw [advance_eq_error_iff, ← pendingTop?_eq_none_iff]
  simp only [BuildState.apply, BuildState.applyGap,
    h.shaped.bindPending_error_iff h.shaped.proper_held]
  simp

theorem Mirrors.shift_error_iff (h : b.Mirrors saved) {e : Error} :
    (b.advance .shift).2 = .error e ↔
      b.state.held.isSome ∧ e = .build .alreadyShifted ∨
        b.state.held = none ∧ b.node? = none ∧ e = .build (.noOpenNode "shift") ∨
        b.state.held = none ∧ b.node?.isSome ∧ b.lastBound? = none ∧
          e = .build .nothingToShift := by
  rw [advance_eq_error_iff, ← openTop?_eq_none_iff, ← and_assoc (a := b.node?.isSome = true),
    ← exists_lastBound_eq_none_iff]
  simp only [BuildState.apply, h.shaped.applyShift_error_iff]
  constructor
  · rintro ⟨_, cause, ⟨_, ⟨hheld, rfl⟩ | ⟨hheld, htop, rfl⟩ | ⟨hheld, htop, rfl⟩⟩, rfl⟩
    · exact .inl ⟨hheld, rfl⟩
    · exact .inr (.inl ⟨hheld, htop, rfl⟩)
    · exact .inr (.inr ⟨hheld, htop, rfl⟩)
  · rintro (⟨hheld, rfl⟩ | ⟨hheld, htop, rfl⟩ | ⟨hheld, htop, rfl⟩)
    · exact ⟨_, _, ⟨rfl, .inl ⟨hheld, rfl⟩⟩, rfl⟩
    · exact ⟨_, _, ⟨rfl, .inr (.inl ⟨hheld, htop, rfl⟩)⟩, rfl⟩
    · exact ⟨_, _, ⟨rfl, .inr (.inr ⟨hheld, htop, rfl⟩)⟩, rfl⟩

/-- A shift fails for no other reason than what it finds in the hand and at the
innermost segment. -/
theorem Mirrors.exists_shift_error_iff (h : b.Mirrors saved) :
    (∃ e, (b.advance .shift).2 = .error e) ↔
      b.state.held.isSome ∨ b.node? = none ∨ b.lastBound? = none := by
  simp only [h.shift_error_iff]
  cases hheld : b.state.held <;> cases hnode : b.node? <;> simp

/-! ## Requests -/

theorem nextId_le_nextIdAfter (b : Builder) (t : Terminal) : b.nextId ≤ b.nextIdAfter t := by
  unfold nextIdAfter
  split <;> omega

theorem bindAttribute_eq_error {key : String} {value : Value} {e : Error}
    (h : (b.bindAttribute key value).2 = .error e) : (b.bindAttribute key value).1 = b := by
  unfold bindAttribute at h ⊢
  split
  · rfl
  · next change hok =>
      rw [hok] at h
      cases h

/-- A request that is refused uses up a segment name at most. -/
theorem Mirrors.perform_error (h : b.Mirrors saved) {request : Request} {e : Error}
    (hrefused : (b.perform request).2 = .error e) :
    ∃ nextId, b.nextId ≤ nextId ∧ (b.perform request).1 = { b with nextId } := by
  cases request with
  | advance t =>
      have hadvance : b.advance t = ((b.advance t).1, .error e) :=
        Prod.ext rfl (exists_of_map_eq_error hrefused)
      exact ⟨b.nextIdAfter t, b.nextId_le_nextIdAfter t, h.advance_error hadvance⟩
  | write text => cases hrefused
  | bindAttribute key value =>
      exact ⟨b.nextId, Nat.le_refl _, bindAttribute_eq_error (exists_of_map_eq_error hrefused)⟩
  | branch =>
      have hbranch : b.branch.2 = .error e := exists_of_map_eq_error hrefused
      rw [h.branch.1] at hbranch
      cases hbranch
  | accept =>
      cases saved with
      | nil =>
          rw [perform, h.accept_root]
          exact ⟨b.nextId, Nat.le_refl _, rfl⟩
      | cons state saved =>
          have haccept : b.accept.2 = .error e := exists_of_map_eq_error hrefused
          rw [h.accept.1] at haccept
          cases haccept
  | reject =>
      cases saved with
      | nil =>
          rw [perform, h.reject_root]
          exact ⟨b.nextId, Nat.le_refl _, rfl⟩
      | cons state saved =>
          have hreject : b.reject.2 = .error e := exists_of_map_eq_error hrefused
          rw [h.reject.1] at hreject
          cases hreject

/-- Whatever was asked of a builder, refused requests included, a request that is refused
leaves the tree, the journals and the frame as they are.  Closing is refused only
without an open node, null and a gap only without a reference that waits, and a shift
only for a value held already, for the lack of an open node or of a slot bound last. -/
theorem refused_untouched (requests : List Request) :
    let b := start.after requests
    (∀ request e, (b.perform request).2 = .error e →
      ∃ nextId, b.nextId ≤ nextId ∧ (b.perform request).1 = { b with nextId }) ∧
    (∀ e, (b.advance .close).2 = .error e ↔
      b.node? = none ∧ e = .build (.noOpenNode "close")) ∧
    (∀ e, (b.advance .null).2 = .error e ↔
      ¬ b.Awaits ∧ e = .build (.noPendingReference "null")) ∧
    (∀ e, (b.advance .gap).2 = .error e ↔
      ¬ b.Awaits ∧ e = .build (.noPendingReference "gap")) ∧
    ((∃ e, (b.advance .shift).2 = .error e) ↔
      b.state.held.isSome ∨ b.node? = none ∨ b.lastBound? = none) := by
  intro b
  have h := (matches_start.after requests).mirrors
  exact ⟨fun _ _ => h.perform_error, fun _ => h.close_error_iff, fun _ => h.null_error_iff,
    fun _ => h.gap_error_iff, h.exists_shift_error_iff⟩

end Builder

end Backtrack
