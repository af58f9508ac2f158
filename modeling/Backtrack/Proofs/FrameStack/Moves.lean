import Backtrack.Proofs.FrameStack
import Mathlib.Data.List.Nodup

/-!
Moves on the stack of attempts.  Live frames are named in the order in which they
were started, each on top of the one before.  Any frame can be named in a move: the
move is made if that frame is on top and, to retire it, is not the root; else it is
refused and changes nothing.  No name is given twice.
-/

namespace Backtrack

/-- The status of a frame while it is on top.  The root is never active. -/
def FrameId.topStatus (id : FrameId) : Status := if id = .root then .suspended else .active

namespace FrameStack

variable {α : Type}

/-! ## Live frames -/

def ids (s : FrameStack α) : List FrameId := s.live.map (·.info.id)

theorem live_eq_cons (s : FrameStack α) : ∃ below, s.live = s.top :: below := by
  cases habove : s.above with
  | nil => exact ⟨[], by simp [live, top, habove]⟩
  | cons frame rest => exact ⟨rest ++ [s.base], by simp [live, top, habove]⟩

theorem live_modify {s : FrameStack α} {frame : Frame α} {below : List (Frame α)}
    (h : s.live = frame :: below) (f : α → α) :
    (s.modify f).live = { frame with payload := f frame.payload } :: below := by
  cases habove : s.above <;> simp_all [live, modify]

theorem live_pushed {s : FrameStack α} {frame : Frame α} {below : List (Frame α)}
    (h : s.live = frame :: below) (payload : α) :
    (s.pushed payload).live = (s.pushed payload).top ::
      { frame with info := { frame.info with status := .suspended } } :: below := by
  cases habove : s.above <;> simp_all [live, pushed, setStatus, top]

theorem retired_modify (s : FrameStack α) (f : α → α) : (s.modify f).retired = s.retired := by
  unfold modify
  split <;> rfl

theorem retired_pushed (s : FrameStack α) (payload : α) :
    (s.pushed payload).retired = s.retired := by
  cases habove : s.above <;> simp [pushed, setStatus, habove]

theorem next_below (s : FrameStack α) (status : Status) : (s.below status).next = s.next := by
  cases habove : s.above with
  | nil => simp [below, habove]
  | cons frame rest => cases rest <;> simp [below, setStatus, habove]

/-! ## Names of live frames -/

theorem Stacked.pairwise {infos : List FrameInfo} (h : Stacked infos) :
    ((infos ++ [FrameInfo.root]).map (·.id.index)).Pairwise (· > ·) := by
  induction infos with
  | nil => simp
  | cons info rest ih =>
      obtain ⟨_, _, hlt, hrest⟩ := h
      have hpairwise := ih hrest
      have hhead : ∀ index ∈ (rest ++ [FrameInfo.root]).map (·.id.index),
          index ≤ (rest.headD .root).id.index := by
        cases rest with
        | nil => simp
        | cons second rest =>
            rw [List.cons_append, List.map_cons, List.pairwise_cons] at hpairwise
            intro index hindex
            rcases List.mem_cons.mp hindex with rfl | hindex
            · exact Nat.le_refl _
            · exact Nat.le_of_lt (hpairwise.1 index hindex)
      rw [List.cons_append, List.map_cons, List.pairwise_cons]
      exact ⟨fun index hindex => Nat.lt_of_le_of_lt (hhead index hindex) hlt, hpairwise⟩

theorem Valid.map_info_live {s : FrameStack α} (h : s.Valid) :
    s.live.map (·.info) = s.infos ++ [.root] := by
  rw [live, List.map_append, List.map_singleton, h.base, infos]

theorem Valid.nodup_ids {s : FrameStack α} (h : s.Valid) : s.ids.Nodup := by
  have hpairwise := h.stacked.pairwise
  rw [← h.map_info_live, List.map_map, List.pairwise_map] at hpairwise
  rw [ids, List.nodup_iff_pairwise_ne, List.pairwise_map]
  refine hpairwise.imp ?_
  intro frame other hlt heq
  simp only [Function.comp_apply, heq] at hlt
  exact Nat.lt_irrefl _ hlt

theorem Valid.info?_of_mem {s : FrameStack α} {frame : Frame α} (h : s.Valid)
    (hframe : frame ∈ s.live) : s.info? frame.info.id = some frame.info := by
  have hnodup := h.nodup_ids
  rw [info?]
  cases hfind : s.live.find? (fun other => other.info.id == frame.info.id) with
  | none =>
      rw [List.find?_eq_none] at hfind
      exact absurd (hfind frame hframe) (by simp)
  | some other =>
      have hid : other.info.id = frame.info.id := by simpa using List.find?_some hfind
      have hother := List.mem_of_find?_eq_some hfind
      rw [List.inj_on_of_nodup_map hnodup hother hframe hid]

theorem info?_of_notMem {s : FrameStack α} {id : FrameId}
    (h : id ∉ s.ids) : s.info? id = s.retired.filter fun info => info.id == id := by
  have hfind : s.live.find? (fun frame => frame.info.id == id) = none := by
    rw [List.find?_eq_none]
    intro frame hframe heq
    exact h (List.mem_map.mpr ⟨frame, hframe, by simpa using heq⟩)
  rw [info?, hfind]

theorem Valid.status_top {s : FrameStack α} (h : s.Valid) :
    s.top.info.status = s.topId.topStatus := by
  cases habove : s.above with
  | nil => simp [topId, top, habove, h.base, FrameId.topStatus, FrameInfo.root]
  | cons frame rest =>
      have hroot : s.topId ≠ .root := by simp [h.topId_eq_root_iff, habove]
      simp [FrameId.topStatus, hroot, top, habove, h.active frame rest habove]

theorem Valid.status_of_mem_below {s : FrameStack α} {frame other : Frame α}
    {below : List (Frame α)} (h : s.Valid) (hlive : s.live = frame :: below)
    (hother : other ∈ below) : other.info.status = .suspended := by
  cases habove : s.above with
  | nil =>
      simp only [live, habove, List.nil_append, List.cons.injEq] at hlive
      rw [← hlive.2] at hother
      cases hother
  | cons top rest =>
      simp only [live, habove, List.cons_append, List.cons.injEq] at hlive
      rw [← hlive.2] at hother
      rcases List.mem_append.mp hother with hrest | hbase
      · exact h.suspended other (by rwa [habove])
      · rw [List.mem_singleton.mp hbase, h.base]
        rfl

theorem Valid.isRetired_of_mem {s : FrameStack α} {frame : Frame α} (h : s.Valid)
    (hframe : frame ∈ s.live) : frame.info.status.isRetired = false := by
  obtain ⟨below, hlive⟩ := s.live_eq_cons
  rw [hlive] at hframe
  rcases List.mem_cons.mp hframe with rfl | hbelow
  · rw [h.status_top, FrameId.topStatus]
    split <;> rfl
  · rw [h.status_of_mem_below hlive hbelow]
    rfl

theorem Valid.live_below {s : FrameStack α} {frame parent : Frame α} {rest : List (Frame α)}
    (h : s.Valid) (hlive : s.live = frame :: parent :: rest) (status : Status) :
    (s.below status).live =
        { parent with info := { parent.info with status := parent.info.id.topStatus } } :: rest ∧
      (s.below status).retired = some { frame.info with status } := by
  have hstacked := h.stacked
  cases habove : s.above with
  | nil => simp [live, habove] at hlive
  | cons top above =>
      rw [infos, habove, List.map_cons] at hstacked
      cases above with
      | nil =>
          have hbase := h.base
          simp only [live, habove, List.cons_append, List.nil_append, List.cons.injEq] at hlive
          obtain ⟨rfl, rfl, rfl⟩ := hlive
          have hkept : { s.base.info with status := s.base.info.id.topStatus } = s.base.info := by
            rw [hbase]
            rfl
          simp [FrameStack.below, live, habove, hkept]
      | cons second above =>
          have hne : second.info.id ≠ .root := hstacked.2.2.2.id_ne_root
          simp only [live, habove, List.cons_append, List.cons.injEq] at hlive
          obtain ⟨rfl, rfl, rfl⟩ := hlive
          simp [FrameStack.below, live, setStatus, habove, FrameId.topStatus, hne]

theorem top_of_live {s : FrameStack α} {frame : Frame α} {below : List (Frame α)}
    (h : s.live = frame :: below) : s.top = frame := by
  obtain ⟨lower, hlive⟩ := s.live_eq_cons
  rw [h, List.cons.injEq] at hlive
  exact hlive.1.symm

theorem topId_of_live {s : FrameStack α} {frame : Frame α} {below : List (Frame α)}
    (h : s.live = frame :: below) : s.topId = frame.info.id :=
  congrArg (·.info.id) (top_of_live h)

theorem current_of_live {s : FrameStack α} {frame : Frame α} {below : List (Frame α)}
    (h : s.live = frame :: below) : s.current = frame.payload :=
  congrArg (·.payload) (top_of_live h)

theorem Valid.depth_top {s : FrameStack α} (h : s.Valid) : s.top.info.depth = s.depth := by
  cases habove : s.above with
  | nil =>
      rw [top, depth, habove, List.headD_nil, h.base]
      rfl
  | cons frame rest =>
      have hstacked := h.stacked
      rw [infos, habove, List.map_cons] at hstacked
      simpa [top, depth, habove] using hstacked.2.1

theorem Valid.parent_of_live {s : FrameStack α} {frame parent : Frame α} {rest : List (Frame α)}
    (h : s.Valid) (hlive : s.live = frame :: parent :: rest) :
    frame.info.parent = some parent.info.id := by
  have hstacked := h.stacked
  cases habove : s.above with
  | nil => simp [live, habove] at hlive
  | cons top above =>
      rw [infos, habove, List.map_cons] at hstacked
      cases above with
      | nil =>
          simp only [live, habove, List.cons_append, List.nil_append, List.cons.injEq] at hlive
          obtain ⟨rfl, rfl, rfl⟩ := hlive
          rw [hstacked.1, h.base]
          rfl
      | cons second above =>
          simp only [live, habove, List.cons_append, List.cons.injEq] at hlive
          obtain ⟨rfl, rfl, rfl⟩ := hlive
          exact hstacked.1

theorem Valid.exists_parent {s : FrameStack α} (h : s.Valid) (hroot : s.topId ≠ .root) :
    ∃ frame parent rest, s.live = frame :: parent :: rest := by
  cases habove : s.above with
  | nil => exact absurd (h.topId_eq_root_iff.mpr habove) hroot
  | cons frame above =>
      cases above with
      | nil => exact ⟨frame, s.base, [], by simp [live, habove]⟩
      | cons second above => exact ⟨frame, second, above ++ [s.base], by simp [live, habove]⟩

theorem above_of_live {s : FrameStack α} {frame parent : Frame α} {rest : List (Frame α)}
    (h : s.live = frame :: parent :: rest) : ∃ above, s.above = frame :: above := by
  cases habove : s.above with
  | nil => simp [live, habove] at h
  | cons top above =>
      simp only [live, habove, List.cons_append, List.cons.injEq] at h
      exact ⟨above, by rw [h.1]⟩

theorem ne_of_mem_below {s : FrameStack α} {frame other : Frame α} {below : List (Frame α)}
    (h : s.Valid) (hlive : s.live = frame :: below) (hother : other ∈ below) :
    other.info.id ≠ frame.info.id := by
  have hnodup := h.nodup_ids
  rw [ids, hlive] at hnodup
  intro heq
  exact (List.nodup_cons.mp hnodup).1 (List.mem_map.mpr ⟨other, hother, heq⟩)

/-! ## Moves -/

/-- What can be asked of a stack, with any name of a frame, and a change of what
the frame on top carries. -/
inductive Move (α : Type) where
  | branch (id : FrameId)
  | accept (id : FrameId)
  | reject (id : FrameId)
  | modify (f : α → α)

/-- A move that fails leaves the stack as it is. -/
def orKeep (s : FrameStack α) :
    Except Error (FrameStack α × FrameId) → FrameStack α × Except Error FrameId
  | .ok (s', id) => (s', .ok id)
  | .error e => (s, .error e)

def perform [Payload α] (s : FrameStack α) : Move α → FrameStack α × Except Error FrameId
  | .branch id => s.orKeep (s.branch id)
  | .accept id => s.orKeep (s.accept id)
  | .reject id => s.orKeep ((s.reject id).map fun rejected => (rejected.1, rejected.2.1))
  | .modify f => (s.modify f, .ok s.topId)

def after [Payload α] (s : FrameStack α) (moves : List (Move α)) : FrameStack α :=
  moves.foldl (fun s move => (s.perform move).1) s

def answers [Payload α] (s : FrameStack α) : List (Move α) → List (Except Error FrameId)
  | [] => []
  | move :: rest => (s.perform move).2 :: (s.perform move).1.answers rest

def Move.issued (move : Move α) (answer : Except Error FrameId) : List FrameId :=
  match move, answer with
  | .branch _, .ok id => [id]
  | _, _ => []

def issued [Payload α] (s : FrameStack α) : List (Move α) → List FrameId
  | [] => []
  | move :: rest => move.issued (s.perform move).2 ++ (s.perform move).1.issued rest

/-! ## When a move succeeds -/

/-- Why a move cannot be made while `top` is on top. -/
def Move.refusal? (top : FrameId) : Move α → Option Error
  | .branch id => if id = top then none else some (.notOnTop .branch)
  | .accept id =>
    if id = .root then some .acceptedRoot
    else if id = top then none else some (.notOnTop .accept)
  | .reject id =>
    if id = .root then some .rejectedRoot
    else if id = top then none else some (.notOnTop .reject)
  | .modify _ => none

def refusal? (s : FrameStack α) (move : Move α) : Option Error := move.refusal? s.topId

/-- The moves there are, each with why it cannot be made. -/
inductive Judged (s : FrameStack α) : Move α → Option Error → Prop
  | branch : s.Judged (.branch s.topId) none
  | branchElsewhere {id : FrameId} (hne : id ≠ s.topId) :
      s.Judged (.branch id) (some (.notOnTop .branch))
  | accept (hroot : s.topId ≠ .root) : s.Judged (.accept s.topId) none
  | acceptRoot : s.Judged (.accept .root) (some .acceptedRoot)
  | acceptElsewhere {id : FrameId} (hroot : id ≠ .root) (hne : id ≠ s.topId) :
      s.Judged (.accept id) (some (.notOnTop .accept))
  | reject (hroot : s.topId ≠ .root) : s.Judged (.reject s.topId) none
  | rejectRoot : s.Judged (.reject .root) (some .rejectedRoot)
  | rejectElsewhere {id : FrameId} (hroot : id ≠ .root) (hne : id ≠ s.topId) :
      s.Judged (.reject id) (some (.notOnTop .reject))
  | modify (f : α → α) : s.Judged (.modify f) none

theorem judged_refusal? (s : FrameStack α) (move : Move α) : s.Judged move (s.refusal? move) := by
  cases move with
  | branch id =>
      by_cases htop : id = s.topId
      · simpa [refusal?, Move.refusal?, htop] using Judged.branch
      · simpa [refusal?, Move.refusal?, htop] using Judged.branchElsewhere htop
  | accept id =>
      by_cases hroot : id = .root
      · simpa [refusal?, Move.refusal?, hroot] using Judged.acceptRoot
      · by_cases htop : id = s.topId
        · subst htop
          simpa [refusal?, Move.refusal?, hroot] using Judged.accept hroot
        · simpa [refusal?, Move.refusal?, hroot, htop] using Judged.acceptElsewhere hroot htop
  | reject id =>
      by_cases hroot : id = .root
      · simpa [refusal?, Move.refusal?, hroot] using Judged.rejectRoot
      · by_cases htop : id = s.topId
        · subst htop
          simpa [refusal?, Move.refusal?, hroot] using Judged.reject hroot
        · simpa [refusal?, Move.refusal?, hroot, htop] using Judged.rejectElsewhere hroot htop
  | modify f => exact Judged.modify f

theorem checkTop_of_ne {s : FrameStack α} {id : FrameId} (h : id ≠ s.topId)
    (action : FrameAction) : s.checkTop id action = .error (.notOnTop action) := by
  simp [checkTop, h]

theorem retire_of_ne {s : FrameStack α} {id : FrameId} (h : id ≠ s.topId)
    (action : FrameAction) (status : Status) :
    s.retire id action status = .error (.notOnTop action) := by
  rw [retire, checkTop_of_ne h]
  rfl

variable [Payload α]

/-- A move that is refused changes nothing. -/
theorem perform_of_refusal {s : FrameStack α} {move : Move α} {e : Error}
    (h : s.refusal? move = some e) : s.perform move = (s, .error e) := by
  have hjudged := s.judged_refusal? move
  rw [h] at hjudged
  cases hjudged with
  | branchElsewhere hne =>
      rw [perform, branch, checkTop_of_ne hne]
      rfl
  | acceptRoot => rfl
  | acceptElsewhere hroot hne =>
      rw [perform, accept, if_neg hroot, retire_of_ne hne]
      rfl
  | rejectRoot => rfl
  | rejectElsewhere hroot hne =>
      rw [perform, reject, if_neg hroot, retire_of_ne hne]
      rfl

theorem Valid.perform_branch {s : FrameStack α} (h : s.Valid) :
    s.perform (.branch s.topId) = (s.pushed (Payload.fork s.current), .ok ⟨s.next⟩) := by
  rw [perform, h.branch_topId]
  rfl

theorem Valid.perform_accept {s : FrameStack α} {frame parent : Frame α} {rest : List (Frame α)}
    (h : s.Valid) (hlive : s.live = frame :: parent :: rest) :
    s.perform (.accept s.topId) =
      ((s.below .accepted).modify (Payload.merge · frame.payload), .ok parent.info.id) := by
  obtain ⟨above, habove⟩ := above_of_live hlive
  rw [perform, h.accept_topId habove, topId_of_live (h.live_below hlive .accepted).1]
  rfl

theorem Valid.perform_reject {s : FrameStack α} {frame parent : Frame α} {rest : List (Frame α)}
    (h : s.Valid) (hlive : s.live = frame :: parent :: rest) :
    s.perform (.reject s.topId) = (s.below .rejected, .ok parent.info.id) := by
  obtain ⟨above, habove⟩ := above_of_live hlive
  rw [perform, h.reject_topId habove, topId_of_live (h.live_below hlive .rejected).1]
  rfl

/-- Every move keeps the order of the stack. -/
theorem Valid.perform {s : FrameStack α} (h : s.Valid) (move : Move α) :
    (s.perform move).1.Valid := by
  cases hrefusal : s.refusal? move with
  | some e =>
      rw [perform_of_refusal hrefusal]
      exact h
  | none =>
      have hjudged := s.judged_refusal? move
      rw [hrefusal] at hjudged
      cases hjudged with
      | branch =>
          rw [h.perform_branch]
          exact h.pushed _
      | accept hroot =>
          obtain ⟨frame, parent, rest, hlive⟩ := h.exists_parent hroot
          rw [h.perform_accept hlive]
          exact (h.below .accepted).modify (Payload.merge · frame.payload)
      | reject hroot =>
          obtain ⟨frame, parent, rest, hlive⟩ := h.exists_parent hroot
          rw [h.perform_reject hlive]
          exact h.below .rejected
      | modify f => exact h.modify f

/-! ## Fresh names -/

theorem Valid.issued_perform {s : FrameStack α} (h : s.Valid) (move : Move α) :
    (move.issued (s.perform move).2 = [] ∧ (s.perform move).1.next = s.next) ∨
      (move.issued (s.perform move).2 = [⟨s.next⟩] ∧
        (s.perform move).1.next = s.next + 1) := by
  cases hrefusal : s.refusal? move with
  | some e =>
      rw [perform_of_refusal hrefusal]
      cases move <;> exact Or.inl ⟨rfl, rfl⟩
  | none =>
      have hjudged := s.judged_refusal? move
      rw [hrefusal] at hjudged
      cases hjudged with
      | branch =>
          rw [h.perform_branch]
          exact Or.inr ⟨rfl, rfl⟩
      | accept hroot =>
          obtain ⟨frame, parent, rest, hlive⟩ := h.exists_parent hroot
          rw [h.perform_accept hlive]
          exact Or.inl ⟨rfl, by rw [next_modify, next_below]⟩
      | reject hroot =>
          obtain ⟨frame, parent, rest, hlive⟩ := h.exists_parent hroot
          rw [h.perform_reject hlive]
          exact Or.inl ⟨rfl, next_below s .rejected⟩
      | modify f => exact Or.inl ⟨rfl, next_modify s f⟩

/-- No name is given twice: each is later than all that were given before. -/
theorem Valid.issued {s : FrameStack α} (h : s.Valid) (moves : List (Move α)) :
    (∀ id ∈ s.issued moves, s.next ≤ id.index) ∧
      ((s.issued moves).map (·.index)).Pairwise (· < ·) := by
  induction moves generalizing s with
  | nil => simp [FrameStack.issued]
  | cons move rest ih =>
      obtain ⟨hlater, hpairwise⟩ := ih (h.perform move)
      rw [FrameStack.issued]
      rcases h.issued_perform move with ⟨hnone, hnext⟩ | ⟨hone, hnext⟩
      · rw [hnone, List.nil_append, ← hnext]
        exact ⟨hlater, hpairwise⟩
      · rw [hnext] at hlater
        rw [hone, List.singleton_append, List.forall_mem_cons, List.map_cons,
          List.pairwise_cons]
        refine ⟨⟨Nat.le_refl _, ?_⟩, ?_, hpairwise⟩
        · intro id hid
          exact Nat.le_of_succ_le (hlater id hid)
        · intro index hindex
          obtain ⟨id, hid, rfl⟩ := List.mem_map.mp hindex
          exact hlater id hid

end FrameStack

end Backtrack
