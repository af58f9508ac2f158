import Backtrack.Proofs.Builder.Snapshot

/-!
Journals of an attempt that is accepted.  A builder in which an attempt runs has one
journal more than the builder that does the same without it.  Accepting the attempt
hands this journal to the frame below, and then both have the same journals, entry by
entry.  Outside of every frame nothing is journaled, and what is accepted there is
dropped.
-/

namespace Backtrack

namespace Journal

/-- The journals, innermost first, after more was changed, latest first.  Outside of
every frame nothing is noted. -/
def noted (undos : List Undo) : List Journal → List Journal
  | top :: next :: lower => { undos := undos ++ top.undos } :: next :: lower
  | journals => journals

def folded : List Journal → List Journal
  | _ :: [_] => [{}]
  | top :: next :: lower => Payload.merge next top :: lower
  | journals => journals

theorem noted_nil (journals : List Journal) : noted [] journals = journals := by
  unfold noted
  split <;> rfl

theorem noted_noted (later earlier : List Undo) (journals : List Journal) :
    noted later (noted earlier journals) = noted (later ++ earlier) journals := by
  match journals with
  | [] => rfl
  | [_] => rfl
  | top :: next :: lower => simp [noted]

/-- The second list has one journal more: that of an attempt `depth` frames below the
innermost.  In the first its changes belong to the frame below it. -/
inductive Absorbs : Nat → List Journal → List Journal → Prop
  | outside {own : Journal} : Absorbs 0 [{}] [own, {}]
  | inside {own saved next : Journal} {lower : List Journal} :
      Absorbs 0 (Payload.merge saved own :: next :: lower) (own :: saved :: next :: lower)
  | above {depth : Nat} {top : Journal} {journals journals' : List Journal} :
      Absorbs depth journals journals' → Absorbs (depth + 1) (top :: journals) (top :: journals')

variable {depth : Nat} {journals journals' : List Journal}

theorem Absorbs.ne_nil (h : Absorbs depth journals journals') :
    journals ≠ [] ∧ ∃ top next lower, journals' = top :: next :: lower := by
  induction h with
  | outside => exact ⟨by simp, _, _, _, rfl⟩
  | inside => exact ⟨by simp, _, _, _, rfl⟩
  | @above _ top _ _ _ ih =>
      obtain ⟨_, next, last, lower, rfl⟩ := ih
      exact ⟨by simp, top, next, last :: lower, rfl⟩

theorem Absorbs.noted (h : Absorbs depth journals journals') (undos : List Undo) :
    Absorbs depth (Journal.noted undos journals) (Journal.noted undos journals') := by
  cases h with
  | outside => exact .outside
  | @inside own saved next lower =>
      have hmerge : ({ undos := undos ++ (Payload.merge saved own : Journal).undos } : Journal) =
          Payload.merge saved { undos := undos ++ own.undos } :=
        congrArg Journal.mk (List.append_assoc undos own.undos saved.undos).symm
      rw [Journal.noted, Journal.noted, hmerge]
      exact .inside
  | above hlower =>
      obtain ⟨hne, next, last, lower', rfl⟩ := hlower.ne_nil
      obtain ⟨next', lower, rfl⟩ := List.exists_cons_of_ne_nil hne
      exact .above hlower

theorem Absorbs.folded (h : Absorbs (depth + 1) journals journals') :
    Absorbs depth (Journal.folded journals) (Journal.folded journals') := by
  cases h with
  | above hlower =>
      cases hlower with
      | outside => exact .outside
      | @inside own saved next lower =>
          rename_i top
          have hmerge : (Payload.merge (Payload.merge saved own) top : Journal) =
              Payload.merge saved (Payload.merge own top) :=
            congrArg Journal.mk (List.append_assoc top.undos own.undos saved.undos).symm
          rw [Journal.folded, Journal.folded, hmerge]
          · exact .inside
          · simp
          · simp
      | above hlower =>
          obtain ⟨hne, next, last, lower', rfl⟩ := hlower.ne_nil
          obtain ⟨next', lower, rfl⟩ := List.exists_cons_of_ne_nil hne
          exact .above hlower

theorem Absorbs.tail (h : Absorbs (depth + 1) journals journals') :
    Absorbs depth journals.tail journals'.tail := by
  cases h with
  | above hlower => exact hlower

theorem Absorbs.folded_eq (h : Absorbs 0 journals journals') :
    Journal.folded journals' = journals := by
  cases h with
  | outside => rfl
  | inside => rfl

theorem absorbs_fork {saved : Journal} {lower : List Journal} (h : lower = [] → saved.undos = []) :
    Absorbs 0 (saved :: lower) ({} :: saved :: lower) := by
  cases lower with
  | nil =>
      obtain ⟨undos⟩ := saved
      cases h rfl
      exact .outside
  | cons next lower => exact @Absorbs.inside {} saved next lower

end Journal

namespace Builder

open Journal (noted noted_nil noted_noted folded)

theorem carried_record (b : Builder) (undo : Undo) :
    (b.record undo).journal.carried = noted [undo] b.journal.carried := by
  unfold record
  cases habove : b.journal.above with
  | nil => simp [FrameStack.depth, habove, FrameStack.carried, FrameStack.live, noted]
  | cons frame rest =>
      rw [if_neg (by simp [FrameStack.depth, habove])]
      cases rest <;>
        simp [habove, FrameStack.carried, FrameStack.live, FrameStack.modify, noted]

theorem carried_commit (b : Builder) (change : BuildState × Undo) :
    (b.commit change).journal.carried = noted [change.2] b.journal.carried :=
  carried_record { b with state := change.1 } change.2

/-- Builders that build the same note the same. -/
def NotesAlike {α : Type} (change : Builder → Builder × Except Error α) : Prop :=
  ∀ b c : Builder, b.Agrees c → ∃ undos,
    (change b).1.journal.carried = noted undos b.journal.carried ∧
      (change c).1.journal.carried = noted undos c.journal.carried

theorem notesAlike_advance (t : Terminal) : NotesAlike (·.advance t) := by
  intro b c h
  simp only [advance_eq, h.state, h.nextId]
  rcases c.state.apply ⟨c.nextId⟩ t with ⟨state, e | undo⟩
  · exact ⟨[], (noted_nil _).symm, (noted_nil _).symm⟩
  · refine ⟨[(state.setLast t).2, undo], ?_, ?_⟩ <;>
      rw [carried_commit, carried_commit, noted_noted] <;> rfl

theorem notesAlike_write (text : String) : NotesAlike (·.write text) := by
  intro b c h
  refine ⟨[(c.state.write text).2], ?_, carried_commit c _⟩
  rw [← h.state]
  exact carried_commit b _

theorem notesAlike_bindAttribute (key : String) (value : Value) :
    NotesAlike (·.bindAttribute key value) := by
  intro b c h
  simp only [bindAttribute, h.state]
  cases c.state.bindAttribute key value with
  | error e => exact ⟨[], (noted_nil _).symm, (noted_nil _).symm⟩
  | ok change => exact ⟨[change.2], carried_commit b change, carried_commit c change⟩

variable {b : Builder} {saved : List BuildState}

theorem Journaled.carried_branch (h : b.Journaled saved) :
    b.branch.1.journal.carried = {} :: b.journal.carried := by
  rw [h.branch_journal, FrameStack.carried_pushed]

theorem Journaled.carried_reject (h : b.Journaled saved) (hne : saved ≠ []) :
    b.reject.1.journal.carried = b.journal.carried.tail := by
  have habove : b.journal.above ≠ [] := fun hnil => hne (h.saved_eq_nil_iff.mpr hnil)
  rw [h.reject_journal hne, FrameStack.carried_below _ habove]

theorem Journaled.carried_accept (h : b.Journaled saved) (hne : saved ≠ []) :
    b.accept.1.journal.carried = folded b.journal.carried := by
  have hnil : b.journal.above ≠ [] := fun hnil => hne (h.saved_eq_nil_iff.mpr hnil)
  obtain ⟨frame, rest, habove⟩ := List.exists_cons_of_ne_nil hnil
  have haccept := h.valid.accept_topId habove
  have hbelow := FrameStack.carried_below .accepted hnil
  have hroot := (h.valid.below .accepted).topId_eq_root_iff
  have hcarried : b.journal.carried =
      frame.payload :: (rest.map (·.payload) ++ [b.journal.base.payload]) := by
    simp [FrameStack.carried, FrameStack.live, habove]
  have habove' : (b.journal.below .accepted).above = [] ↔ rest = [] := by
    cases rest <;> simp [FrameStack.below, FrameStack.setStatus, habove]
  rw [hcarried, List.tail_cons] at hbelow
  rw [← h.frame] at haccept
  rw [Builder.accept, haccept, hcarried]
  dsimp only
  cases rest with
  | nil =>
      -- The root is on top again, and its journal is dropped.
      rw [if_pos (hroot.mpr (habove'.mpr rfl)), FrameStack.modify_modify,
        FrameStack.carried_modify _ hbelow]
      rfl
  | cons second rest =>
      rw [if_neg fun htop => List.cons_ne_nil _ _ (habove'.mp (hroot.mp htop)),
        FrameStack.carried_modify _ hbelow]
      cases rest <;> rfl

theorem Journaled.carried_root (h : b.Journaled saved) {journal : Journal}
    (hcarried : b.journal.carried = [journal]) : journal.undos = [] := by
  rw [FrameStack.carried_eq] at hcarried
  obtain ⟨_, hbase⟩ := List.append_eq_singleton_iff.mp hcarried |>.resolve_right (by simp)
  rw [← List.singleton_inj.mp hbase]
  exact h.base

end Builder

end Backtrack
