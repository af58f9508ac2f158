import Backtrack.FrameStack.Indexed
import Backtrack.Proofs.FrameStack.Chronicle

/-!
The stack as it is stored.  A stack in order is stored in two arrays that are aligned,
and there the names grow, so that halving finds the entry of every live frame.  Whatever
is asked of the arrays comes to what is asked of the stack: they give the same answers
and are the arrays of the stack that it leaves.  A move that is refused is refused before
anything is taken off.
-/

namespace Backtrack

namespace IndexedStack

/-! ## Looking up a name -/

def Increasing (live : Array FrameInfo) : Prop :=
  (live.toList.map (·.id.index)).Pairwise (· < ·)

theorem Increasing.lt {live : Array FrameInfo} (h : Increasing live) {i j : Nat}
    {lower upper : FrameInfo} (hlower : live[i]? = some lower) (hupper : live[j]? = some upper)
    (hlt : i < j) : lower.id.index < upper.id.index := by
  obtain ⟨hi, rfl⟩ := Array.getElem?_eq_some_iff.mp hlower
  obtain ⟨hj, rfl⟩ := Array.getElem?_eq_some_iff.mp hupper
  have hpair := List.pairwise_iff_getElem.mp h i j (by simpa using hi) (by simpa using hj) hlt
  simpa using hpair

/-- Halving keeps the entry in the range that is left. -/
theorem narrow_eq {live : Array FrameInfo} {base size i : Nat} {info : FrameInfo}
    (h : Increasing live) (hinfo : live[i]? = some info) (hlow : base ≤ i)
    (hhigh : i < base + size) (hbound : base + size ≤ live.size) :
    narrow live info.id base size = i := by
  fun_induction narrow live info.id base size with
  | case1 base size hsize => omega
  | case2 base size hsize half middle later ih =>
      have hmiddle : live[middle]? = some live[middle] := Array.getElem?_eq_getElem (by omega)
      have hlater : later = decide (info.id.index < live[middle].id.index) := by
        rw [show later = live[middle]?.any fun other => info.id.index < other.id.index from rfl,
          hmiddle, Option.any_some]
      cases hcase : later with
      | true =>
          -- The entry stands before the middle, as those from there on are named later.
          rw [hlater, decide_eq_true_eq] at hcase
          have hbefore : i < middle := by
            by_contra hnot
            rcases Nat.lt_or_eq_of_le (Nat.le_of_not_lt hnot) with hlt | heq
            · exact absurd (h.lt hmiddle hinfo hlt) (Nat.lt_asymm hcase)
            · subst heq
              rw [hmiddle, Option.some.injEq] at hinfo
              rw [hinfo] at hcase
              exact absurd hcase (Nat.lt_irrefl _)
          have hlater : later = true := by rw [hlater, decide_eq_true hcase]
          simp only [hlater, dite_true, if_true] at ih ⊢
          exact ih hlow (by omega) (by omega)
      | false =>
          rw [hlater, decide_eq_false_iff_not] at hcase
          have hafter : middle ≤ i := by
            by_contra hnot
            exact hcase (h.lt hinfo hmiddle (Nat.lt_of_not_le hnot))
          have hlater : later = false := by rw [hlater, decide_eq_false hcase]
          simp only [hlater, Bool.false_eq_true, dite_false, if_false] at ih ⊢
          exact ih hafter (by omega) (by omega)

theorem search?_of_getElem? {live : Array FrameInfo} {i : Nat} {info : FrameInfo}
    (h : Increasing live) (hinfo : live[i]? = some info) : search? live info.id = some i := by
  have hlt : i < live.size := (Array.getElem?_eq_some_iff.mp hinfo).1
  have hplace := narrow_eq h hinfo (Nat.zero_le i) (by omega) (Nat.le_of_eq (Nat.zero_add _))
  simp [search?, hplace, hinfo]

theorem search?_of_notMem {live : Array FrameInfo} {id : FrameId}
    (h : ∀ info ∈ live, info.id ≠ id) : search? live id = none := by
  rw [search?]
  simp only [ite_eq_right_iff, reduceCtorEq, imp_false]
  intro hany
  obtain ⟨info, hinfo, hid⟩ := (Option.any_eq_true _ _).mp hany
  exact h info (Array.mem_of_getElem? hinfo) (of_decide_eq_true hid)

end IndexedStack

/-! ## The arrays of a stack -/

namespace FrameStack

variable {α : Type}

def entries (s : FrameStack α) : List FrameInfo := (s.live.map (·.info)).reverse

/-- How the stack is stored. -/
def indexed (s : FrameStack α) : IndexedStack α where
  root := s.base.payload
  chain := s.payloads.reverse.toArray
  live := s.entries.toArray
  retired := s.retired
  next := s.next

theorem indexed_ofRoot (payload : α) : (ofRoot payload).indexed = .ofRoot payload := rfl

theorem indexed_cons (base frame : Frame α) (rest : List (Frame α)) (retired : Option FrameInfo)
    (next : Nat) :
    indexed ⟨base, frame :: rest, retired, next⟩ =
      { indexed ⟨base, rest, retired, next⟩ with
        chain := (indexed ⟨base, rest, retired, next⟩).chain.push frame.payload
        live := (indexed ⟨base, rest, retired, next⟩).live.push frame.info } := by
  simp [indexed, payloads, entries, live]

theorem back?_live_indexed (s : FrameStack α) : s.indexed.live.back? = some s.top.info := by
  obtain ⟨base, above, retired, next⟩ := s
  cases above with
  | nil => rfl
  | cons frame rest =>
      rw [indexed_cons, Array.back?_push]
      rfl

theorem top_indexed (s : FrameStack α) : s.indexed.top = s.topId := by
  rw [IndexedStack.top, back?_live_indexed]
  rfl

theorem depth_indexed (s : FrameStack α) : s.indexed.depth = s.depth := by
  simp [IndexedStack.depth, indexed, payloads, depth]

theorem current_indexed (s : FrameStack α) : s.indexed.current = s.current := by
  obtain ⟨base, above, retired, next⟩ := s
  cases above with
  | nil => rfl
  | cons frame rest =>
      rw [IndexedStack.current, indexed_cons, Array.back?_push]
      rfl

theorem modify_push {β : Type} (xs : Array β) (b : β) (f : β → β) :
    (xs.push b).modify ((xs.push b).size - 1) f = xs.push (f b) := by
  rw [Array.size_push, Nat.add_sub_cancel]
  refine Array.ext (by simp) ?_
  intro i hi hi'
  simp only [Array.size_push] at hi'
  simp only [Array.getElem_modify, Array.getElem_push]
  split <;> split <;> first | rfl | omega

theorem modify_indexed (s : FrameStack α) (f : α → α) :
    (s.modify f).indexed = s.indexed.modify f := by
  obtain ⟨base, above, retired, next⟩ := s
  cases above with
  | nil => rfl
  | cons frame rest =>
      rw [modify, indexed_cons, indexed_cons, IndexedStack.modify, Array.isEmpty_push,
        modify_push]
      rfl

theorem setStatus_indexed (s : FrameStack α) (status : Status) :
    (s.setStatus status).indexed = s.indexed.setStatus status := by
  obtain ⟨base, above, retired, next⟩ := s
  cases above with
  | nil => rfl
  | cons frame rest =>
      rw [setStatus, indexed_cons, indexed_cons, IndexedStack.setStatus, modify_push]

end FrameStack

/-! ## Alignment -/

namespace IndexedStack

variable {α : Type}

/-- Live frames are named in the order in which they were started, each on top of the
one before, and only the last of them can be active.  Every one but the root carries
something. -/
structure Aligned (s : IndexedStack α) : Prop where
  size : s.live.size = s.chain.size + 1
  root : s.live[0]? = some .root
  increasing : Increasing s.live
  depth : ∀ (i : Nat) (info : FrameInfo), s.live[i]? = some info → info.depth = i
  parent : ∀ (i : Nat) (lower info : FrameInfo), s.live[i]? = some lower →
    s.live[i + 1]? = some info → info.parent = some lower.id
  suspended : ∀ (i : Nat) (info : FrameInfo), s.live[i]? = some info →
    i + 1 < s.live.size → info.status = .suspended
  last : ∃ info, s.live.back? = some info ∧ info.id = s.top ∧ info.status = s.top.topStatus

end IndexedStack

namespace FrameStack

variable {α : Type}

theorem Valid.entries_eq {s : FrameStack α} (h : s.Valid) :
    s.entries = .root :: s.infos.reverse := by
  rw [entries, h.map_info_live, List.reverse_concat]

theorem Stacked.getElem? {infos : List FrameInfo} (h : Stacked infos) {i : Nat}
    {lower info : FrameInfo} (hlower : (FrameInfo.root :: infos.reverse)[i]? = some lower)
    (hinfo : infos.reverse[i]? = some info) :
    info.depth = i + 1 ∧ info.parent = some lower.id := by
  induction infos with
  | nil => cases hinfo
  | cons top rest ih =>
      obtain ⟨hparent, hdepth, _, hrest⟩ := h
      rw [List.reverse_cons] at hinfo hlower
      rcases Nat.lt_trichotomy i rest.length with hlt | rfl | hgt
      · rw [List.getElem?_append_left (by simpa using hlt)] at hinfo
        rw [← List.cons_append, List.getElem?_append_left (by simp; omega)] at hlower
        exact ih hrest hlower hinfo
      · -- The frame on top stands on the last frame before it.
        have htop : top = info := by simpa using hinfo
        have hlast : lower = rest.headD .root := by
          cases rest <;> simp_all
        rw [← htop, hlast]
        exact ⟨hdepth, hparent⟩
      · rw [List.getElem?_eq_none (by simp; omega)] at hinfo
        cases hinfo

theorem getElem?_live_indexed (s : FrameStack α) (i : Nat) :
    s.indexed.live[i]? = s.entries[i]? :=
  List.getElem?_toArray

theorem Valid.increasing {s : FrameStack α} (h : s.Valid) :
    IndexedStack.Increasing s.indexed.live := by
  rw [IndexedStack.Increasing, indexed, entries, h.map_info_live, List.map_reverse,
    List.pairwise_reverse]
  exact h.stacked.pairwise

theorem Valid.aligned {s : FrameStack α} (h : s.Valid) : s.indexed.Aligned where
  size := by simp [indexed, h.entries_eq, infos, payloads]
  root := by
    rw [getElem?_live_indexed, h.entries_eq]
    rfl
  increasing := h.increasing
  depth := by
    intro i info hinfo
    rw [getElem?_live_indexed, h.entries_eq] at hinfo
    cases i with
    | zero =>
        cases hinfo
        rfl
    | succ i =>
        rw [List.getElem?_cons_succ] at hinfo
        obtain ⟨lower, hlower⟩ : ∃ lower, (FrameInfo.root :: s.infos.reverse)[i]? = some lower := by
          have hlt := (List.getElem?_eq_some_iff.mp hinfo).1
          exact ⟨_, List.getElem?_eq_getElem (Nat.lt_succ_of_lt hlt)⟩
        exact (h.stacked.getElem? hlower hinfo).1
  parent := by
    intro i lower info hlower hinfo
    rw [getElem?_live_indexed, h.entries_eq] at hlower hinfo
    exact (h.stacked.getElem? hlower hinfo).2
  suspended := by
    intro i info hinfo hlt
    obtain ⟨below, hlive⟩ := s.live_eq_cons
    have hentries : s.entries = (below.map (·.info)).reverse ++ [s.top.info] := by
      rw [entries, hlive, List.map_cons, List.reverse_cons]
    rw [getElem?_live_indexed, hentries, List.getElem?_append_left] at hinfo
    · have hmem := List.mem_of_getElem? hinfo
      rw [List.mem_reverse] at hmem
      obtain ⟨frame, hframe, rfl⟩ := List.mem_map.mp hmem
      exact h.status_of_mem_below hlive hframe
    · simpa [indexed, hentries] using hlt
  last := ⟨s.top.info, s.back?_live_indexed, s.top_indexed.symm, by rw [top_indexed, h.status_top]⟩

/-! ## Questions -/

theorem mem_live_indexed {s : FrameStack α} {info : FrameInfo} :
    info ∈ s.indexed.live ↔ ∃ frame ∈ s.live, frame.info = info := by
  simp [indexed, entries]

/-- Halving finds what going through the frames finds. -/
theorem Valid.info?_indexed {s : FrameStack α} (h : s.Valid) (id : FrameId) :
    s.indexed.info? id = s.info? id := by
  by_cases hid : id ∈ s.ids
  · obtain ⟨frame, hframe, rfl⟩ := List.mem_map.mp hid
    have hmem : frame.info ∈ s.indexed.live := mem_live_indexed.mpr ⟨frame, hframe, rfl⟩
    obtain ⟨i, hi⟩ := Array.mem_iff_getElem?.mp hmem
    rw [h.info?_of_mem hframe, IndexedStack.info?,
      IndexedStack.search?_of_getElem? h.increasing hi]
    exact hi
  · have hnone : IndexedStack.search? s.indexed.live id = none := by
      refine IndexedStack.search?_of_notMem ?_
      rintro info hinfo rfl
      obtain ⟨frame, hframe, rfl⟩ := mem_live_indexed.mp hinfo
      exact hid (List.mem_map.mpr ⟨frame, hframe, rfl⟩)
    rw [info?_of_notMem hid, IndexedStack.info?, hnone]
    rfl

theorem Valid.checkTop_indexed {s : FrameStack α} (h : s.Valid) (id : FrameId)
    (action : FrameAction) : s.indexed.checkTop id action = s.checkTop id action := by
  rw [IndexedStack.checkTop, checkTop, IndexedStack.status?, h.info?_indexed, top_indexed,
    ← status?]
  cases s.status? id with
  | none => simp
  | some status => cases status <;> simp [Status.isRetired]

/-! ## Moves -/

theorem pushed_indexed (s : FrameStack α) (payload : α) :
    (s.pushed payload).indexed =
      { s.indexed.setStatus .suspended with
        chain := s.indexed.chain.push payload
        live := (s.indexed.setStatus .suspended).live.push
          { id := ⟨s.next⟩, status := .active, parent := some s.topId, depth := s.depth + 1 }
        next := s.next + 1 } := by
  rw [pushed, indexed_cons, ← setStatus_indexed]
  have hchain : (s.setStatus .suspended).indexed.chain = s.indexed.chain :=
    congrArg (·.reverse.toArray) (payloads_setStatus s .suspended).1
  rw [← hchain]
  rfl

theorem Valid.branch_indexed [Payload α] {s : FrameStack α} (h : s.Valid) (id : FrameId) :
    s.indexed.branch id =
      ((s.perform (.branch id)).1.indexed, (s.perform (.branch id)).2) := by
  by_cases htop : id = s.topId
  · subst htop
    rw [h.perform_branch, pushed_indexed, IndexedStack.branch, h.checkTop_indexed,
      h.checkTop_topId, current_indexed, ← depth_indexed]
    rfl
  · rw [IndexedStack.branch, h.checkTop_indexed, checkTop_of_ne htop, FrameStack.perform,
      FrameStack.branch, checkTop_of_ne htop]
    rfl

/-- On the root no frame but the root can be named, and that is refused. -/
theorem Valid.checkTop_of_above {s : FrameStack α} {id : FrameId} (h : s.Valid)
    (habove : s.above = []) (hroot : id ≠ .root) (action : FrameAction) :
    s.checkTop id action = .error (.notOnTop action) :=
  checkTop_of_ne (fun htop => hroot (htop.trans (h.topId_eq_root_iff.mpr habove))) action

/-- Whatever frame but the root is retired, both arrays have an entry to take off. -/
theorem Valid.retire_indexed {s : FrameStack α} (h : s.Valid) {id : FrameId}
    (hroot : id ≠ .root) (action : FrameAction) (status : Status) :
    s.indexed.retire id action status =
      match s.retire id action status with
      | .ok (s', parent, child) => (s'.indexed, .ok (child, parent))
      | .error e => (s.indexed, .error e) := by
  have hnone := fun habove => h.checkTop_of_above habove hroot action
  rw [IndexedStack.retire, FrameStack.retire, h.checkTop_indexed]
  cases hcheck : s.checkTop id action with
  | error e => rfl
  | ok u =>
      obtain ⟨base, above, retired, next⟩ := s
      cases above with
      | nil => cases hcheck.symm.trans (hnone rfl)
      | cons frame rest =>
          simp only [indexed_cons, Array.back?_push, Array.pop_push, Bind.bind, Except.bind, pure,
            Except.pure]
          rw [apply_ite FrameStack.indexed, setStatus_indexed]
          rfl

theorem Valid.accept_indexed [Payload α] {s : FrameStack α} (h : s.Valid) (id : FrameId) :
    s.indexed.accept id =
      ((s.perform (.accept id)).1.indexed, (s.perform (.accept id)).2) := by
  rw [IndexedStack.accept, FrameStack.perform, FrameStack.accept]
  by_cases hroot : id = .root
  · rw [if_pos hroot, if_pos hroot]
    rfl
  · rw [if_neg hroot, if_neg hroot]
    rw [h.retire_indexed hroot]
    cases s.retire id .accept .accepted with
    | error e => rfl
    | ok retired =>
        obtain ⟨s', parent, child⟩ := retired
        exact congrArg (·, Except.ok parent) (s'.modify_indexed (Payload.merge · child)).symm

theorem Valid.reject_indexed [Payload α] {s : FrameStack α} (h : s.Valid) (id : FrameId) :
    ((s.indexed.reject id).1, (s.indexed.reject id).2.map (·.1)) =
      ((s.perform (.reject id)).1.indexed, (s.perform (.reject id)).2) := by
  rw [IndexedStack.reject, FrameStack.perform, FrameStack.reject]
  by_cases hroot : id = .root
  · rw [if_pos hroot, if_pos hroot]
    rfl
  · rw [if_neg hroot, if_neg hroot]
    rw [h.retire_indexed hroot]
    cases s.retire id .reject .rejected with
    | error e => rfl
    | ok retired => rfl

end FrameStack

/-! ## Series of moves -/

namespace IndexedStack

variable {α : Type}

def perform [Payload α] (s : IndexedStack α) :
    FrameStack.Move α → IndexedStack α × Except Error FrameId
  | .branch id => s.branch id
  | .accept id => s.accept id
  | .reject id => ((s.reject id).1, (s.reject id).2.map (·.1))
  | .modify f => (s.modify f, .ok s.top)

def after [Payload α] (s : IndexedStack α) (moves : List (FrameStack.Move α)) : IndexedStack α :=
  moves.foldl (fun s move => (s.perform move).1) s

def answers [Payload α] (s : IndexedStack α) :
    List (FrameStack.Move α) → List (Except Error FrameId)
  | [] => []
  | move :: rest => (s.perform move).2 :: (s.perform move).1.answers rest

def issued [Payload α] (s : IndexedStack α) : List (FrameStack.Move α) → List FrameId
  | [] => []
  | move :: rest => move.issued (s.perform move).2 ++ (s.perform move).1.issued rest

def carried (s : IndexedStack α) : List α := s.root :: s.chain.toList

end IndexedStack

namespace FrameStack

variable {α : Type} [Payload α]

/-- The arrays keep to the stack over every move, made or refused. -/
theorem Valid.perform_indexed {s : FrameStack α} (h : s.Valid) (move : Move α) :
    s.indexed.perform move = ((s.perform move).1.indexed, (s.perform move).2) := by
  cases move with
  | branch id => exact h.branch_indexed id
  | accept id => exact h.accept_indexed id
  | reject id => exact h.reject_indexed id
  | modify f => rw [IndexedStack.perform, top_indexed, ← modify_indexed, FrameStack.perform]

theorem Valid.after_indexed {s : FrameStack α} (h : s.Valid) (moves : List (Move α)) :
    s.indexed.after moves = (s.after moves).indexed := by
  induction moves generalizing s with
  | nil => rfl
  | cons move rest ih =>
      rw [IndexedStack.after, List.foldl_cons, h.perform_indexed]
      exact ih (h.perform move)

theorem Valid.answers_indexed {s : FrameStack α} (h : s.Valid) (moves : List (Move α)) :
    s.indexed.answers moves = s.answers moves := by
  induction moves generalizing s with
  | nil => rfl
  | cons move rest ih =>
      rw [IndexedStack.answers, h.perform_indexed, ih (h.perform move), FrameStack.answers]

theorem Valid.issued_indexed {s : FrameStack α} (h : s.Valid) (moves : List (Move α)) :
    s.indexed.issued moves = s.issued moves := by
  induction moves generalizing s with
  | nil => rfl
  | cons move rest ih =>
      rw [IndexedStack.issued, h.perform_indexed, ih (h.perform move), FrameStack.issued]

end FrameStack

/-! ## The history of the arrays -/

namespace Chronicle

variable {α : Type}

/-- Live frames are recorded as they are stored, and each with what the frame below it
carries. -/
def Remembers (c : Chronicle α) (s : IndexedStack α) : Prop :=
  ∀ (i : Nat) (info : FrameInfo), s.live[i]? = some info →
    ∃ payload, s.carried[i]? = some payload ∧
      c.get? info.id = some ⟨info, payload, (s.carried.take i).getLast?⟩

theorem Recorded.of_getElem? {c : Chronicle α} {frames : List (Frame α)} {i : Nat}
    {frame : Frame α} (h : c.Recorded frames) (hframe : frames.reverse[i]? = some frame) :
    c.get? frame.info.id = some ⟨frame.info, frame.payload,
      ((frames.reverse.map (·.payload)).take i).getLast?⟩ := by
  induction frames with
  | nil => cases hframe
  | cons top below ih =>
      rw [List.reverse_cons] at hframe ⊢
      rcases Nat.lt_trichotomy i below.length with hlt | rfl | hgt
      · rw [List.getElem?_append_left (by simpa using hlt)] at hframe
        rw [List.map_append, List.take_append_of_le_length (by simp; omega)]
        exact ih h.2 hframe
      · have htop : top = frame := by simpa using hframe
        rw [← htop, h.1]
        simp [List.getLast?_reverse]
      · rw [List.getElem?_eq_none (by simp; omega)] at hframe
        cases hframe

theorem Recorded.remembers {c : Chronicle α} {s : FrameStack α} (h : c.Recorded s.live) :
    c.Remembers s.indexed := by
  intro i info hinfo
  have hcarried : s.indexed.carried = s.live.reverse.map (·.payload) := by
    simp [IndexedStack.carried, FrameStack.indexed, FrameStack.payloads, FrameStack.live]
  rw [FrameStack.getElem?_live_indexed, FrameStack.entries, ← List.map_reverse,
    List.getElem?_map, Option.map_eq_some_iff] at hinfo
  obtain ⟨frame, hframe, rfl⟩ := hinfo
  refine ⟨frame.payload, ?_, ?_⟩
  · rw [hcarried, List.getElem?_map, hframe, Option.map_some]
  · rw [hcarried]
    exact h.of_getElem? hframe

end Chronicle

namespace IndexedStack

variable {α : Type}

/-- The stack and a stack that forgets nothing cannot be told apart, whatever was asked of
them: the two arrays are aligned and in order, names are fresh, both answer alike, and a
move is made just when the frame it names is on top.  Of the frames ever started the stack
knows those that are live and the one retired last.  A live frame carries what it did when
the live frame above it was started. -/
theorem history_eq_chronicle [Payload α] (payload : α) (moves : List (FrameStack.Move α)) :
    let s := (ofRoot payload).after moves
    let c := (Chronicle.ofRoot payload).after moves
    s.Aligned ∧
      (ofRoot payload).answers moves = (Chronicle.ofRoot payload).answers moves ∧
      ((FrameId.root :: (ofRoot payload).issued moves).map (·.index)).Pairwise (· < ·) ∧
      (∀ id, (∃ info ∈ s.live, info.id = id) ↔
        ∃ r, c.get? id = some r ∧ r.info.status.isRetired = false) ∧
      (∀ id, s.status? id = (c.known? id).map (·.status) ∧
        s.parent? id = (c.known? id).bind (·.parent) ∧
        s.depth? id = (c.known? id).map (·.depth)) ∧
      (∀ move : FrameStack.Move α, match move.refusal? s.top with
        | some e => s.perform move = (s, .error e)
        | none => ∃ id, (s.perform move).2 = .ok id) ∧
      c.Remembers s := by
  intro s c
  have hstart := Chronicle.recounts_ofRoot payload
  let t := (FrameStack.ofRoot payload).after moves
  have h : c.Recounts t := hstart.after moves
  have hs : s = t.indexed := hstart.valid.after_indexed moves
  rw [hs, ← FrameStack.indexed_ofRoot, hstart.valid.answers_indexed, hstart.valid.issued_indexed]
  refine ⟨h.valid.aligned, (hstart.answers moves).symm, ?_, ?_, ?_, ?_, h.live.remembers⟩
  · obtain ⟨hlater, hpairwise⟩ := hstart.valid.issued moves
    rw [List.map_cons, List.pairwise_cons]
    refine ⟨?_, hpairwise⟩
    intro index hindex
    obtain ⟨id, hid, rfl⟩ := List.mem_map.mp hindex
    exact hlater id hid
  · intro id
    rw [← h.mem_ids_iff id, FrameStack.ids, List.mem_map]
    simp only [FrameStack.mem_live_indexed]
    constructor
    · rintro ⟨_, ⟨frame, hframe, rfl⟩, hid⟩
      exact ⟨frame, hframe, hid⟩
    · rintro ⟨frame, hframe, hid⟩
      exact ⟨frame.info, ⟨frame, hframe, rfl⟩, hid⟩
  · intro id
    rw [status?, parent?, depth?, h.valid.info?_indexed, h.info?_eq id]
    exact ⟨rfl, rfl, rfl⟩
  · intro move
    rw [FrameStack.top_indexed, h.valid.perform_indexed]
    split
    · next e hrefusal => rw [FrameStack.perform_of_refusal hrefusal]
    · next hrefusal => exact (h.follows hrefusal).success

end IndexedStack

end Backtrack
