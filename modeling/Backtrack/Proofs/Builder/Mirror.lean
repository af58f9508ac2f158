import Backtrack.Builder.Basic
import Backtrack.Proofs.Builder.Undo
import Backtrack.Proofs.FrameStack

/-!
What a builder could take back.  The journal of every frame leads from the state
above it to the state the frame started from, so the journals of a builder stand
for a stack of saved states.  A branch saves a state, accepting drops the state
saved last, and rejecting returns to it.
-/

namespace Backtrack

/-- Each journal takes the state back to the next saved one.  Both lists are
innermost first. -/
def BuildState.Rewinds : BuildState → List Journal → List BuildState → Prop
  | _, [], [] => True
  | s, journal :: journals, s' :: saved =>
      s.revertAll journal.undos = .ok s' ∧ s'.Shaped ∧ Rewinds s' journals saved
  | _, _, _ => False

namespace Builder

/-- The journals of `b` stand for the states in `saved`. -/
structure Journaled (b : Builder) (saved : List BuildState) : Prop where
  valid : b.journal.Valid
  frame : b.frame = b.journal.topId
  /-- Nothing takes back what the root frame holds. -/
  base : b.journal.base.payload.undos = []
  rewinds : b.state.Rewinds b.journal.payloads saved

structure Mirrors (b : Builder) (saved : List BuildState) : Prop where
  journaled : b.Journaled saved
  shaped : b.state.Shaped

theorem mirrors_start : start.Mirrors [] where
  journaled := ⟨FrameStack.valid_ofRoot _, rfl, rfl, trivial⟩
  shaped := BuildState.shaped_empty

/-! ## One change -/

@[simp] theorem state_commit (b : Builder) (change : BuildState × Undo) :
    (b.commit change).state = change.1 := by
  unfold commit record
  split <;> rfl

@[simp] theorem nextId_commit (b : Builder) (change : BuildState × Undo) :
    (b.commit change).nextId = b.nextId := by
  unfold commit record
  split <;> rfl

theorem Journaled.saved_eq_nil_iff {b : Builder} {saved : List BuildState}
    (h : b.Journaled saved) : saved = [] ↔ b.journal.above = [] := by
  have hrewinds := h.rewinds
  rw [← FrameStack.payloads_eq_nil_iff]
  cases hpayloads : b.journal.payloads with
  | nil =>
      rw [hpayloads] at hrewinds
      cases saved with
      | nil => simp
      | cons s saved => exact absurd hrewinds (by simp [BuildState.Rewinds])
  | cons journal journals =>
      rw [hpayloads] at hrewinds
      cases saved with
      | nil => exact absurd hrewinds (by simp [BuildState.Rewinds])
      | cons s saved => simp

theorem Journaled.frame_eq_root_iff {b : Builder} {saved : List BuildState}
    (h : b.Journaled saved) : b.frame = .root ↔ saved = [] := by
  rw [h.frame, h.valid.topId_eq_root_iff, h.saved_eq_nil_iff]

/-- A change noted with its undo leaves what could be taken back as it was. -/
theorem Journaled.commit {b : Builder} {saved : List BuildState} {change : BuildState × Undo}
    (h : b.Journaled saved) (hrevert : change.1.revert change.2 = .ok b.state) :
    (b.commit change).Journaled saved := by
  have hrewinds := h.rewinds
  cases hpayloads : b.journal.payloads with
  | nil =>
      have hdepth : b.journal.depth = 0 := by
        simp [FrameStack.depth, FrameStack.payloads_eq_nil_iff.mp hpayloads]
      simp only [Builder.commit, record, hdepth, if_true]
      refine ⟨h.valid, h.frame, h.base, ?_⟩
      rw [hpayloads] at hrewinds ⊢
      cases saved with
      | nil => trivial
      | cons s saved => exact absurd hrewinds (by simp [BuildState.Rewinds])
  | cons journal journals =>
      have hdepth : b.journal.depth ≠ 0 := by
        intro hzero
        have hnil := FrameStack.payloads_eq_nil_iff.mpr (List.length_eq_zero_iff.mp hzero)
        rw [hpayloads] at hnil
        cases hnil
      simp only [Builder.commit, record, hdepth, if_false]
      refine ⟨?_, by simpa using h.frame, ?_, ?_⟩
      · exact h.valid.modify fun j => { undos := change.2 :: j.undos }
      · rw [FrameStack.base_payload_modify _ hpayloads]
        exact h.base
      · rw [FrameStack.payloads_modify _ hpayloads]
        rw [hpayloads] at hrewinds
        cases saved with
        | nil => exact absurd hrewinds (by simp [BuildState.Rewinds])
        | cons s saved =>
            obtain ⟨hback, hrest⟩ := hrewinds
            exact ⟨(BuildState.revertAll_cons hrevert).trans hback, hrest⟩

theorem Journaled.named {b : Builder} {saved : List BuildState} (h : b.Journaled saved)
    (nextId : Nat) : Journaled { b with nextId } saved :=
  ⟨h.valid, h.frame, h.base, h.rewinds⟩

def nextIdAfter (b : Builder) (t : Terminal) : Nat :=
  if b.state.takesId t then b.nextId + 1 else b.nextId

theorem advance_eq (b : Builder) (t : Terminal) :
    b.advance t =
      match b.state.apply ⟨b.nextId⟩ t with
      | (state, .error e) =>
          ({ b with state, nextId := b.nextIdAfter t }, .error (.build e))
      | (state, .ok undo) =>
          ((commit { b with nextId := b.nextIdAfter t } (state, undo)).commit (state.setLast t),
            .ok (.tag t)) := by
  have hnamed : (if b.state.takesId t then { b with nextId := b.nextId + 1 } else b) =
      { b with nextId := b.nextIdAfter t } := by
    unfold nextIdAfter
    split <;> rfl
  rcases happly : b.state.apply ⟨b.nextId⟩ t with ⟨state, e | undo⟩ <;>
    simp only [advance, hnamed, happly, state_commit]

/-- A terminal that fails uses up a name at most. -/
theorem Mirrors.advance_error {b b' : Builder} {saved : List BuildState} {t : Terminal}
    {e : Error} (h : b.Mirrors saved) (hadvance : b.advance t = (b', .error e)) :
    b' = { b with nextId := b.nextIdAfter t } := by
  rw [advance_eq] at hadvance
  split at hadvance
  · next state cause happly =>
      have hstate := h.shaped.apply_error happly
      cases hadvance
      rw [hstate]
  · cases hadvance

theorem advance_eq_ok {b b' : Builder} {t : Terminal} {answer : Emitted}
    (hadvance : b.advance t = (b', .ok answer)) :
    ∃ s undo, BuildState.Change ⟨b.nextId⟩ b.state t s undo ∧
      b' = (commit { b with nextId := b.nextIdAfter t } (s, undo)).commit (s.setLast t) := by
  rw [advance_eq] at hadvance
  split at hadvance
  · cases hadvance
  · next s undo happly =>
      cases hadvance
      exact ⟨s, undo, BuildState.change_of_apply happly, rfl⟩

theorem state_of_advance_eq_ok {b b' : Builder} {t : Terminal} {answer : Emitted}
    (hadvance : b.advance t = (b', .ok answer)) :
    ∃ s undo, BuildState.Change ⟨b.nextId⟩ b.state t s undo ∧
      b'.state = { s with last := some t } := by
  obtain ⟨s, undo, hchange, rfl⟩ := advance_eq_ok hadvance
  exact ⟨s, undo, hchange, by simp [BuildState.setLast]⟩

theorem Mirrors.advance {b : Builder} {saved : List BuildState} (h : b.Mirrors saved)
    (t : Terminal) : (b.advance t).1.Mirrors saved := by
  rcases hadvance : b.advance t with ⟨b', e | answer⟩
  · rw [h.advance_error hadvance]
    exact ⟨h.journaled.named _, h.shaped⟩
  · obtain ⟨s, undo, hchange, rfl⟩ := advance_eq_ok hadvance
    have hrevert := h.shaped.revert_of_change hchange
    have hjournaled : (commit { b with nextId := b.nextIdAfter t } (s, undo)).Journaled saved :=
      (h.journaled.named _).commit hrevert
    refine ⟨hjournaled.commit ?_, ?_⟩
    · rw [state_commit]
      exact BuildState.revert_setLast s t
    · rw [state_commit]
      exact h.shaped.of_change hchange

theorem Mirrors.write {b : Builder} {saved : List BuildState} (h : b.Mirrors saved)
    (text : String) : (b.write text).1.Mirrors saved := by
  refine ⟨h.journaled.commit (BuildState.revert_write b.state text), ?_⟩
  rw [Builder.write, state_commit]
  exact h.shaped.of_write text

theorem bindAttribute_eq_ok {b b' : Builder} {key : String} {value : Value} {answer : Emitted}
    (h : b.bindAttribute key value = (b', .ok answer)) :
    ∃ change, b.state.bindAttribute key value = .ok change ∧ b' = b.commit change := by
  unfold Builder.bindAttribute at h
  split at h
  · cases h
  · next change hok =>
      cases h
      exact ⟨change, hok, rfl⟩

theorem Mirrors.bindAttribute {b : Builder} {saved : List BuildState} (h : b.Mirrors saved)
    (key : String) (value : Value) : (b.bindAttribute key value).1.Mirrors saved := by
  unfold Builder.bindAttribute
  split
  · exact h
  · next change hok =>
      refine ⟨h.journaled.commit (BuildState.revert_bindAttribute hok), ?_⟩
      rw [state_commit]
      exact h.shaped.of_bindAttribute hok

/-! ## Frames -/

theorem Mirrors.branch {b : Builder} {saved : List BuildState} (h : b.Mirrors saved) :
    b.branch.2 = .ok () ∧ b.branch.1.state = b.state ∧ b.branch.1.nextId = b.nextId ∧
      b.branch.1.Mirrors (b.state :: saved) := by
  have hbranch := h.journaled.valid.branch_topId
  rw [← h.journaled.frame] at hbranch
  rw [Builder.branch, hbranch]
  refine ⟨rfl, rfl, rfl, ⟨h.journaled.valid.pushed _, ?_, ?_, ?_⟩, h.shaped⟩
  · simp [FrameStack.pushed, FrameStack.topId, FrameStack.top]
  · rw [(FrameStack.payloads_pushed _ _).2]
    exact h.journaled.base
  · rw [(FrameStack.payloads_pushed _ _).1]
    exact ⟨rfl, h.shaped, h.journaled.rewinds⟩

theorem Journaled.exists_above {b : Builder} {s : BuildState} {saved : List BuildState}
    (h : b.Journaled (s :: saved)) :
    ∃ frame rest, b.journal.above = frame :: rest ∧
      b.state.revertAll frame.payload.undos = .ok s ∧ s.Shaped ∧
      s.Rewinds (rest.map (·.payload)) saved := by
  have hrewinds := h.rewinds
  rw [FrameStack.payloads] at hrewinds
  cases habove : b.journal.above with
  | nil =>
      rw [habove] at hrewinds
      exact absurd hrewinds (by simp [BuildState.Rewinds])
  | cons frame rest =>
      rw [habove] at hrewinds
      exact ⟨frame, rest, rfl, hrewinds⟩

theorem Mirrors.accept {b : Builder} {s : BuildState} {saved : List BuildState}
    (h : b.Mirrors (s :: saved)) :
    b.accept.2 = .ok () ∧ b.accept.1.state = b.state ∧ b.accept.1.nextId = b.nextId ∧
      b.accept.1.Mirrors saved := by
  obtain ⟨frame, rest, habove, hback, _, hrewinds⟩ := h.journaled.exists_above
  have haccept := h.journaled.valid.accept_topId habove
  have hvalid := h.journaled.valid.below .accepted
  have hpayloads : (b.journal.below .accepted).payloads = rest.map (·.payload) := by
    rw [(FrameStack.payloads_below _ _).1, FrameStack.payloads, habove]
    rfl
  have hbase : (b.journal.below .accepted).base.payload.undos = [] := by
    rw [(FrameStack.payloads_below _ _).2]
    exact h.journaled.base
  rw [← h.journaled.frame] at haccept
  rw [Builder.accept, haccept]
  refine ⟨rfl, rfl, rfl, ?_, h.shaped⟩
  cases rest with
  | nil =>
      -- The root is on top again, and its journal is emptied.
      have hnil : (b.journal.below .accepted).above = [] :=
        FrameStack.payloads_eq_nil_iff.mp hpayloads
      have htop : (b.journal.below .accepted).topId = .root := hvalid.topId_eq_root_iff.mpr hnil
      have hmerged := FrameStack.payloads_modify_nil (Payload.merge · frame.payload) hpayloads
      have hdropped := FrameStack.payloads_modify_nil (fun _ => ({} : Journal)) hmerged.1
      simp only [htop, if_true]
      refine ⟨?_, by simp [htop], ?_, ?_⟩
      · exact (hvalid.modify (Payload.merge · frame.payload)).modify fun _ => {}
      · rw [hdropped.2]
      · rw [hdropped.1]
        cases saved with
        | nil => trivial
        | cons s' saved => exact absurd hrewinds (by simp [BuildState.Rewinds])
  | cons second rest =>
      have hne : (b.journal.below .accepted).topId ≠ .root := by
        intro hroot
        rw [hvalid.topId_eq_root_iff, ← FrameStack.payloads_eq_nil_iff, hpayloads] at hroot
        cases hroot
      simp only [hne, if_false]
      refine ⟨?_, by simp, ?_, ?_⟩
      · exact hvalid.modify (Payload.merge · frame.payload)
      · rw [FrameStack.base_payload_modify _ hpayloads]
        exact hbase
      · rw [FrameStack.payloads_modify _ hpayloads]
        cases saved with
        | nil => exact absurd hrewinds (by simp [BuildState.Rewinds])
        | cons s' saved =>
            obtain ⟨hback', hrest⟩ := hrewinds
            exact ⟨(BuildState.revertAll_append hback).trans hback', hrest⟩

theorem current_eq {b : Builder} {frame : Frame Journal} {rest : List (Frame Journal)}
    (h : b.journal.above = frame :: rest) : b.journal.current = frame.payload := by
  rw [FrameStack.current, FrameStack.top, h, List.headD_cons]

/-- Above the root frame rejecting drops the frame once its journal is taken back. -/
theorem Journaled.reject_eq {b : Builder} {s : BuildState} {saved : List BuildState}
    (h : b.Journaled saved) (hne : b.journal.above ≠ [])
    (hback : b.state.revertAll b.journal.current.undos = .ok s) :
    b.reject =
      ({ b with
          state := s
          journal := b.journal.below .rejected
          frame := (b.journal.below .rejected).topId }, .ok ()) := by
  have hreject := h.valid.reject_topId_modify hne fun _ => {}
  rw [← h.frame] at hreject
  simp only [Builder.reject, hreject, hback]

theorem Mirrors.reject {b : Builder} {s : BuildState} {saved : List BuildState}
    (h : b.Mirrors (s :: saved)) :
    b.reject.2 = .ok () ∧ b.reject.1.state = s ∧ b.reject.1.nextId = b.nextId ∧
      b.reject.1.Mirrors saved := by
  obtain ⟨frame, rest, habove, hback, hshaped, hrewinds⟩ := h.journaled.exists_above
  rw [← Builder.current_eq habove] at hback
  rw [h.journaled.reject_eq (by simp [habove]) hback]
  refine ⟨rfl, rfl, rfl, ⟨h.journaled.valid.below _, rfl, ?_, ?_⟩, hshaped⟩
  · rw [(FrameStack.payloads_below _ _).2]
    exact h.journaled.base
  · rw [(FrameStack.payloads_below _ _).1, FrameStack.payloads, habove]
    exact hrewinds

theorem Mirrors.accept_root {b : Builder} (h : b.Mirrors []) :
    b.accept = (b, .error .acceptedRoot) := by
  have hroot : b.frame = .root := h.journaled.frame_eq_root_iff.mpr rfl
  simp [Builder.accept, hroot, FrameStack.accept, Bind.bind, Except.bind, throw, throwThe,
    MonadExceptOf.throw]

theorem Mirrors.reject_root {b : Builder} (h : b.Mirrors []) :
    b.reject = (b, .error .rejectedRoot) := by
  have hroot : b.frame = .root := h.journaled.frame_eq_root_iff.mpr rfl
  have habove : b.journal.above = [] := h.journaled.saved_eq_nil_iff.mp rfl
  have hempty : b.journal.current = {} := by
    rw [FrameStack.current, FrameStack.top, habove, List.headD_nil]
    exact congrArg Journal.mk h.journaled.base
  have hsame : (b.journal.modify fun _ => {}) = b.journal := FrameStack.modify_eq_self hempty.symm
  have hrefused : b.journal.reject b.frame = .error .rejectedRoot := by
    rw [FrameStack.reject, if_pos hroot]
    rfl
  simp only [Builder.reject, hsame, hrefused]

/-! ## Journals that are not on top -/

theorem commit_journal_over {b : Builder} {outer : FrameStack Journal} {count : Nat}
    (h : b.journal.Over outer (count + 1)) (change : BuildState × Undo) :
    (b.commit change).journal.Over outer (count + 1) := by
  unfold commit record
  split
  · exact h
  · exact h.modify fun j => { undos := change.2 :: j.undos }

theorem advance_journal_over {b : Builder} {outer : FrameStack Journal} {count : Nat}
    (h : b.journal.Over outer (count + 1)) (t : Terminal) :
    (b.advance t).1.journal.Over outer (count + 1) := by
  rw [advance_eq]
  rcases b.state.apply ⟨b.nextId⟩ t with ⟨state, e | undo⟩
  · exact h
  · have hnamed : FrameStack.Over (Builder.journal { b with nextId := b.nextIdAfter t }) outer
        (count + 1) := h
    exact commit_journal_over (commit_journal_over hnamed (state, undo)) (state.setLast t)

theorem bindAttribute_journal_over {b : Builder} {outer : FrameStack Journal} {count : Nat}
    (h : b.journal.Over outer (count + 1)) (key : String) (value : Value) :
    (b.bindAttribute key value).1.journal.Over outer (count + 1) := by
  unfold bindAttribute
  split
  · exact h
  · next change _ => exact commit_journal_over h change

theorem Journaled.branch_journal {b : Builder} {saved : List BuildState} (h : b.Journaled saved) :
    b.branch.1.journal = b.journal.pushed {} := by
  have hbranch := h.valid.branch_topId
  rw [← h.frame] at hbranch
  rw [Builder.branch, hbranch]
  rfl

theorem Journaled.accept_journal_over {b : Builder} {saved : List BuildState}
    {outer : FrameStack Journal} {count : Nat} (h : b.Journaled saved)
    (hover : b.journal.Over outer (count + 2)) :
    b.accept.1.journal.Over outer (count + 1) := by
  obtain ⟨top, rest, habove⟩ : ∃ top rest, b.journal.above = top :: rest := by
    obtain ⟨_, inner, hlength, habove⟩ := hover
    cases inner with
    | nil => cases hlength
    | cons top inner => exact ⟨top, inner ++ outer.above, habove⟩
  have haccept := h.valid.accept_topId habove
  have hmerged := (hover.below .accepted).modify (Payload.merge · top.payload)
  rw [← h.frame] at haccept
  rw [Builder.accept, haccept]
  dsimp only
  split
  · exact hmerged.modify fun _ => {}
  · exact hmerged

theorem Journaled.reject_journal {b : Builder} {saved : List BuildState} (h : b.Journaled saved)
    (hne : saved ≠ []) : b.reject.1.journal = b.journal.below .rejected := by
  obtain ⟨s, rest, rfl⟩ := List.exists_cons_of_ne_nil hne
  obtain ⟨top, rest, habove, hback, _⟩ := h.exists_above
  rw [← Builder.current_eq habove] at hback
  rw [h.reject_eq (by simp [habove]) hback]

end Builder

end Backtrack
