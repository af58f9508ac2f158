import Backtrack.Proofs.Builder.Mirror
import Mathlib.Data.List.Forall2

/-!
Two builders side by side.  A relation between trees couples them if every change keeps it
and succeeds on both or fails on both for the same reason.  Builders are paired by such a
relation if their trees are related, and with them, frame by frame, the trees that rejecting
would bring back.  Then rejecting keeps the pairing like any other change.
-/

namespace Backtrack

namespace BuildState

/-- A relation between trees that every change keeps. -/
structure Coupled (S : BuildState → BuildState → Prop) : Prop where
  takesId : ∀ {s t}, S s t → ∀ x, s.takesId x = t.takesId x
  apply : ∀ {s t}, S s t → ∀ id x,
    (∃ s' t' undo, s.apply id x = (s', .ok undo) ∧ t.apply id x = (t', .ok undo) ∧
        S (s'.setLast x).1 (t'.setLast x).1) ∨
      ∃ error, (s.apply id x).2 = .error error ∧ (t.apply id x).2 = .error error
  write : ∀ {s t}, S s t → ∀ text, S (s.write text).1 (t.write text).1
  bindAttribute : ∀ {s t}, S s t → ∀ key value,
    (∃ change change', s.bindAttribute key value = .ok change ∧
        t.bindAttribute key value = .ok change' ∧ S change.1 change'.1) ∨
      ∃ error, s.bindAttribute key value = .error error ∧
        t.bindAttribute key value = .error error

end BuildState

namespace Builder

variable {S : BuildState → BuildState → Prop} {b c : Builder}

/-- What a builder could still come to: its state and, innermost first, the saved ones. -/
structure Paired (S : BuildState → BuildState → Prop) (b c : Builder) : Prop where
  nextId : b.nextId = c.nextId
  mirrors : ∃ saved saved', b.Mirrors saved ∧ c.Mirrors saved' ∧
    List.Forall₂ S (b.state :: saved) (c.state :: saved')

def Agreeing {α : Type} (T : Builder → Builder → Prop) (x y : Builder × Except Error α) : Prop :=
  x.2 = y.2 ∧ ∀ a, x.2 = .ok a → T x.1 y.1

theorem advance_of_apply_error {t : Terminal} {error : BuildError}
    (h : (b.state.apply ⟨b.nextId⟩ t).2 = .error error) :
    (b.advance t).2 = .error (.build error) := by
  rw [advance_eq]
  rcases happly : b.state.apply ⟨b.nextId⟩ t with ⟨s, result⟩
  rw [happly] at h
  cases h
  rfl

theorem paired_start (hstart : S {} {}) : start.Paired S start :=
  ⟨rfl, [], [], mirrors_start, mirrors_start, .cons hstart .nil⟩

namespace Paired

theorem state (h : b.Paired S c) : S b.state c.state := by
  obtain ⟨_, _, _, _, hstates⟩ := h.mirrors
  exact (List.forall₂_cons.mp hstates).1

theorem changed (h : b.Paired S c) {b' c' : Builder} (hnext : b'.nextId = c'.nextId)
    (hstate : S b'.state c'.state) (hb : ∀ saved, b.Mirrors saved → b'.Mirrors saved)
    (hc : ∀ saved, c.Mirrors saved → c'.Mirrors saved) : b'.Paired S c' := by
  obtain ⟨saved, saved', hmirrors, hmirrors', hstates⟩ := h.mirrors
  exact ⟨hnext, saved, saved', hb _ hmirrors, hc _ hmirrors',
    .cons hstate (List.forall₂_cons.mp hstates).2⟩

/-! ## Changes -/

theorem nextIdAfter_eq (h : b.Paired S c) (hS : BuildState.Coupled S) (t : Terminal) :
    b.nextIdAfter t = c.nextIdAfter t := by
  rw [nextIdAfter, nextIdAfter, hS.takesId h.state, h.nextId]

theorem advance (h : b.Paired S c) (hS : BuildState.Coupled S) (t : Terminal) :
    Agreeing (Paired S) (b.advance t) (c.advance t) := by
  rcases hS.apply h.state ⟨b.nextId⟩ t with
    ⟨s, s', undo, happly, happly', hrelated⟩ | ⟨error, hfails, hfails'⟩
  · rw [h.nextId] at happly'
    refine ⟨by rw [advance_eq, advance_eq, happly, happly'], fun _ _ => h.changed ?_ ?_
      (fun _ hmirrors => hmirrors.advance t) (fun _ hmirrors => hmirrors.advance t)⟩
    · simp [advance_eq, happly, happly', h.nextIdAfter_eq hS]
    · simpa [advance_eq, happly, happly'] using hrelated
  · rw [h.nextId] at hfails'
    rw [Agreeing, advance_of_apply_error hfails, advance_of_apply_error hfails']
    exact ⟨rfl, nofun⟩

theorem write (h : b.Paired S c) (hS : BuildState.Coupled S) (text : String) :
    Agreeing (Paired S) (b.write text) (c.write text) := by
  refine ⟨rfl, fun _ _ => h.changed ?_ ?_ (fun _ hmirrors => hmirrors.write text)
    (fun _ hmirrors => hmirrors.write text)⟩
  · simp [Builder.write, h.nextId]
  · simpa [Builder.write] using hS.write h.state text

theorem bindAttribute (h : b.Paired S c) (hS : BuildState.Coupled S) (key : String)
    (value : Value) :
    Agreeing (Paired S) (b.bindAttribute key value) (c.bindAttribute key value) := by
  rcases hS.bindAttribute h.state key value with
    ⟨change, change', hbind, hbind', hrelated⟩ | ⟨error, hbind, hbind'⟩
  · refine ⟨by simp [Builder.bindAttribute, hbind, hbind'], fun _ _ => h.changed ?_ ?_
      (fun _ hmirrors => hmirrors.bindAttribute key value)
      (fun _ hmirrors => hmirrors.bindAttribute key value)⟩
    · simp [Builder.bindAttribute, hbind, hbind', h.nextId]
    · simpa [Builder.bindAttribute, hbind, hbind'] using hrelated
  · simp only [Agreeing, Builder.bindAttribute, hbind, hbind']
    exact ⟨trivial, nofun⟩

/-! ## Frames -/

theorem branch (h : b.Paired S c) : Agreeing (Paired S) b.branch c.branch := by
  obtain ⟨saved, saved', hmirrors, hmirrors', hstates⟩ := h.mirrors
  obtain ⟨hok, hstate, hnext, hbranched⟩ := hmirrors.branch
  obtain ⟨hok', hstate', hnext', hbranched'⟩ := hmirrors'.branch
  refine ⟨hok.trans hok'.symm, fun _ _ => ⟨?_, _, _, hbranched, hbranched', ?_⟩⟩
  · rw [hnext, hnext', h.nextId]
  · rw [hstate, hstate']
    exact .cons h.state hstates

theorem accept (h : b.Paired S c) : Agreeing (Paired S) b.accept c.accept := by
  obtain ⟨saved, saved', hmirrors, hmirrors', hstates⟩ := h.mirrors
  obtain ⟨hstate, hsaved⟩ := List.forall₂_cons.mp hstates
  cases hsaved with
  | nil =>
      rw [hmirrors.accept_root, hmirrors'.accept_root]
      exact ⟨rfl, nofun⟩
  | cons hparent hsaved =>
      obtain ⟨hok, hkept, hnext, haccepted⟩ := hmirrors.accept
      obtain ⟨hok', hkept', hnext', haccepted'⟩ := hmirrors'.accept
      refine ⟨hok.trans hok'.symm, fun _ _ => ⟨?_, _, _, haccepted, haccepted', ?_⟩⟩
      · rw [hnext, hnext', h.nextId]
      · rw [hkept, hkept']
        exact .cons hstate hsaved

theorem reject (h : b.Paired S c) : Agreeing (Paired S) b.reject c.reject := by
  obtain ⟨saved, saved', hmirrors, hmirrors', hstates⟩ := h.mirrors
  obtain ⟨_, hsaved⟩ := List.forall₂_cons.mp hstates
  cases hsaved with
  | nil =>
      rw [hmirrors.reject_root, hmirrors'.reject_root]
      exact ⟨rfl, nofun⟩
  | cons hparent hsaved =>
      obtain ⟨hok, hback, hnext, hrejected⟩ := hmirrors.reject
      obtain ⟨hok', hback', hnext', hrejected'⟩ := hmirrors'.reject
      refine ⟨hok.trans hok'.symm, fun _ _ => ⟨?_, _, _, hrejected, hrejected', ?_⟩⟩
      · rw [hnext, hnext', h.nextId]
      · rw [hback, hback']
        exact .cons hparent hsaved

end Paired

end Builder

end Backtrack
