import Backtrack.Proofs.FrameStack.Moves

/-!
The stack of attempts and its history.  A chronicle remembers every frame that was
ever started, with what it carries and with what the frame below carried when it
was started.  The stack keeps the live frames and the frame retired last, and no
series of moves tells it from the chronicle: both answer alike, what the stack
knows of a frame is what the chronicle knows, and a frame that is not on top
carries what it did when the frame above it was started.
-/

namespace Backtrack

/-- A frame as it is remembered. -/
structure Record (α : Type) where
  info : FrameInfo
  payload : α
  /-- What the frame below carried when this one was started. -/
  origin : Option α

structure Chronicle (α : Type) where
  /-- Every frame ever started, in the order of their names. -/
  records : List (Record α)
  /-- The latest frame that is not retired. -/
  top : FrameId := .root
  lastRetired : Option FrameId := none

namespace Chronicle

variable {α : Type}

def ofRoot (payload : α) : Chronicle α :=
  { records := [{ info := .root, payload, origin := none }] }

def get? (c : Chronicle α) (id : FrameId) : Option (Record α) := c.records[id.index]?

def onTop? (c : Chronicle α) (id : FrameId) : Option (Record α) :=
  if id = c.top then c.get? id else none

def amend (c : Chronicle α) (id : FrameId) (f : Record α → Record α) : Chronicle α :=
  { c with records := c.records.modify id.index f }

def suspend (c : Chronicle α) (id : FrameId) : Chronicle α :=
  c.amend id fun r => { r with info := { r.info with status := .suspended } }

/-- Write down a new frame above the one on top, whose record is `below`. -/
def start (c : Chronicle α) (below : Record α) (payload : α) : Chronicle α :=
  let id : FrameId := ⟨c.records.length⟩
  let info : FrameInfo :=
    { id, status := .active, parent := some c.top, depth := below.info.depth + 1 }
  { c.suspend c.top with
    records := (c.suspend c.top).records ++ [{ info, payload, origin := some below.payload }]
    top := id }

def resume (c : Chronicle α) (id : FrameId) (f : α → α) : Chronicle α :=
  { c.amend id fun r =>
      { r with info := { r.info with status := id.topStatus }, payload := f r.payload } with
    top := id }

def retire (c : Chronicle α) (status : Status) : Chronicle α :=
  { c.amend c.top fun r => { r with info := { r.info with status } } with
    lastRetired := some c.top }

def perform [Payload α] (c : Chronicle α) :
    FrameStack.Move α → Chronicle α × Except Error FrameId
  | .branch id =>
    match c.onTop? id with
    | none => (c, .error (.notOnTop .branch))
    | some r => (c.start r (Payload.fork r.payload), .ok ⟨c.records.length⟩)
  | .accept id =>
    if id = .root then (c, .error .acceptedRoot)
    else
      match c.onTop? id with
      | none => (c, .error (.notOnTop .accept))
      | some r =>
        let parent := r.info.parent.getD .root
        ((c.retire .accepted).resume parent (Payload.merge · r.payload), .ok parent)
  | .reject id =>
    if id = .root then (c, .error .rejectedRoot)
    else
      match c.onTop? id with
      | none => (c, .error (.notOnTop .reject))
      | some r =>
        let parent := r.info.parent.getD .root
        ((c.retire .rejected).resume parent fun payload => payload, .ok parent)
  | .modify f => (c.amend c.top fun r => { r with payload := f r.payload }, .ok c.top)

def after [Payload α] (c : Chronicle α) (moves : List (FrameStack.Move α)) : Chronicle α :=
  moves.foldl (fun c move => (c.perform move).1) c

def answers [Payload α] (c : Chronicle α) :
    List (FrameStack.Move α) → List (Except Error FrameId)
  | [] => []
  | move :: rest => (c.perform move).2 :: (c.perform move).1.answers rest

def known? (c : Chronicle α) (id : FrameId) : Option FrameInfo :=
  ((c.get? id).filter fun r =>
    !r.info.status.isRetired || decide (c.lastRetired = some id)).map (·.info)

end Chronicle

/-! ## What a chronicle says of a stack -/

namespace Chronicle

open FrameStack

variable {α : Type}

theorem get?_amend_self (c : Chronicle α) (id : FrameId) (f : Record α → Record α) :
    (c.amend id f).get? id = (c.get? id).map f := by
  simp [amend, get?]

theorem get?_amend_of_ne (c : Chronicle α) {id other : FrameId} (f : Record α → Record α)
    (h : other ≠ id) : (c.amend id f).get? other = c.get? other := by
  have hindex : id.index ≠ other.index := by
    intro heq
    cases id
    cases other
    exact h (congrArg FrameId.mk heq.symm)
  simp [amend, get?, hindex]

/-- Live frames, innermost first, are recorded as they are, and each with what the
frame below it carries. -/
def Recorded (c : Chronicle α) : List (Frame α) → Prop
  | [] => True
  | frame :: below =>
      c.get? frame.info.id =
          some ⟨frame.info, frame.payload, below.head?.map (·.payload)⟩ ∧
        c.Recorded below

theorem Recorded.of_get? {c c' : Chronicle α} {frames : List (Frame α)} (h : c.Recorded frames)
    (hsame : ∀ frame ∈ frames, c'.get? frame.info.id = c.get? frame.info.id) :
    c'.Recorded frames := by
  induction frames with
  | nil => trivial
  | cons frame below ih =>
      rw [List.forall_mem_cons] at hsame
      exact ⟨hsame.1.trans h.1, ih h.2 hsame.2⟩

theorem Recorded.of_mem {c : Chronicle α} {frames : List (Frame α)} {frame : Frame α}
    (h : c.Recorded frames) (hframe : frame ∈ frames) :
    ∃ r, c.get? frame.info.id = some r ∧ r.info = frame.info ∧ r.payload = frame.payload := by
  induction frames with
  | nil => cases hframe
  | cons top below ih =>
      rcases List.mem_cons.mp hframe with rfl | hbelow
      · exact ⟨_, h.1, rfl, rfl⟩
      · exact ih h.2 hbelow

/-- The stack holds of the chronicle what is live and what was retired last. -/
structure Recounts (c : Chronicle α) (s : FrameStack α) : Prop where
  valid : s.Valid
  count : c.records.length = s.next
  top : c.top = s.topId
  live : c.Recorded s.live
  named : ∀ id r, c.get? id = some r → r.info.id = id
  /-- Every frame that is not live was retired. -/
  others : ∀ id r, c.get? id = some r → id ∉ s.ids → r.info.status.isRetired = true
  retired : (c.lastRetired = none ∧ s.retired = none) ∨
    ∃ id r, c.lastRetired = some id ∧ c.get? id = some r ∧ id ∉ s.ids ∧ s.retired = some r.info

theorem recounts_ofRoot (payload : α) : (ofRoot payload).Recounts (.ofRoot payload) := by
  have hget : ∀ id r, (ofRoot payload).get? id = some r →
      id = .root ∧ r = ⟨.root, payload, none⟩ := by
    intro id r h
    simp only [get?, ofRoot, List.getElem?_singleton] at h
    split at h
    · next hindex =>
        cases id
        cases h
        exact ⟨congrArg FrameId.mk hindex, rfl⟩
    · cases h
  refine ⟨valid_ofRoot payload, rfl, rfl, ⟨rfl, trivial⟩, ?_, ?_, Or.inl ⟨rfl, rfl⟩⟩
  · intro id r h
    obtain ⟨rfl, rfl⟩ := hget id r h
    rfl
  · intro id r h hnot
    obtain ⟨rfl, rfl⟩ := hget id r h
    exact absurd (List.mem_singleton.mpr rfl) hnot

/-! ## Moves -/

theorem Recorded.exists_of_ids {c : Chronicle α} {s : FrameStack α} {id : FrameId}
    (h : c.Recorded s.live) (hid : id ∈ s.ids) :
    ∃ frame ∈ s.live, frame.info.id = id ∧
      ∃ r, c.get? id = some r ∧ r.info = frame.info ∧ r.payload = frame.payload := by
  obtain ⟨frame, hframe, rfl⟩ := List.mem_map.mp hid
  exact ⟨frame, hframe, rfl, h.of_mem hframe⟩

/-- A move keeps to the chronicle if it records what is live after it, retires what is
live no more, starts what is live now under a fresh name, and leaves the rest. -/
theorem Recounts.of_move {c c' : Chronicle α} {s s' : FrameStack α} (h : c.Recounts s)
    (hvalid : s'.Valid) (hcount : c'.records.length = s'.next) (htop : c'.top = s'.topId)
    (hlive : c'.Recorded s'.live)
    (hkept : ∀ id, id ∉ s.ids → id ∉ s'.ids → c'.get? id = c.get? id)
    (hgone : ∀ id ∈ s.ids, id ∉ s'.ids →
      ∃ r, c'.get? id = some r ∧ r.info.id = id ∧ r.info.status.isRetired = true)
    (hfresh : ∀ id ∈ s'.ids, id ∉ s.ids → c.get? id = none)
    (hretired : (c'.lastRetired = c.lastRetired ∧ s'.retired = s.retired) ∨
      ∃ id r, c'.lastRetired = some id ∧ c'.get? id = some r ∧ id ∉ s'.ids ∧
        s'.retired = some r.info) : c'.Recounts s' := by
  refine ⟨hvalid, hcount, htop, hlive, ?_, ?_, ?_⟩
  · intro id r hr
    by_cases hnow : id ∈ s'.ids
    · obtain ⟨frame, _, rfl, r', hr', hinfo, _⟩ := hlive.exists_of_ids hnow
      rw [hr, Option.some.injEq] at hr'
      rw [hr', hinfo]
    · by_cases hbefore : id ∈ s.ids
      · obtain ⟨r', hr', hid, _⟩ := hgone id hbefore hnow
        rw [hr, Option.some.injEq] at hr'
        rw [hr', hid]
      · exact h.named id r (hkept id hbefore hnow ▸ hr)
  · intro id r hr hnow
    by_cases hbefore : id ∈ s.ids
    · obtain ⟨r', hr', _, hstatus⟩ := hgone id hbefore hnow
      rw [hr, Option.some.injEq] at hr'
      rw [hr', hstatus]
    · exact h.others id r (hkept id hbefore hnow ▸ hr) hbefore
  · rcases hretired with ⟨hlast, hsame⟩ | hretired
    · rw [hlast, hsame]
      rcases h.retired with hnone | ⟨id, r, hid, hr, hbefore, hinfo⟩
      · exact Or.inl hnone
      · have hnow : id ∉ s'.ids := by
          intro hmem
          rw [hfresh id hmem hbefore] at hr
          cases hr
        exact Or.inr ⟨id, r, hid, (hkept id hbefore hnow).trans hr, hnow, hinfo⟩
    · exact Or.inr hretired

theorem Recounts.onTop? {c : Chronicle α} {s : FrameStack α} (h : c.Recounts s) :
    ∃ r, c.onTop? s.topId = some r ∧ r.info = s.top.info ∧ r.payload = s.current := by
  obtain ⟨below, hlive⟩ := s.live_eq_cons
  have hmem : s.top ∈ s.live := by simp [hlive]
  obtain ⟨r, hr, hinfo, hpayload⟩ := h.live.of_mem hmem
  refine ⟨r, ?_, hinfo, hpayload⟩
  rw [Chronicle.onTop?, h.top, if_pos rfl]
  exact hr

theorem Recounts.onTop?_of_ne {c : Chronicle α} {s : FrameStack α} {id : FrameId}
    (h : c.Recounts s) (hne : id ≠ s.topId) : c.onTop? id = none := by
  rw [Chronicle.onTop?, h.top, if_neg hne]

theorem Recounts.modify {c : Chronicle α} {s : FrameStack α} (h : c.Recounts s) (f : α → α) :
    (c.amend c.top fun r => { r with payload := f r.payload }).Recounts (s.modify f) := by
  obtain ⟨below, hlive⟩ := s.live_eq_cons
  have hlive' := live_modify hlive f
  have hids : (s.modify f).ids = s.ids := by
    rw [ids, ids, hlive', hlive, List.map_cons, List.map_cons]
  have hrecorded := h.live
  rw [hlive] at hrecorded
  have htop : c.top = s.top.info.id := h.top
  refine h.of_move (h.valid.modify f) ?_ ?_ ?_ ?_ ?_ ?_ (Or.inl ⟨rfl, retired_modify s f⟩)
  · rw [next_modify]
    simpa [amend] using h.count
  · rw [topId_modify]
    exact h.top
  · rw [hlive', htop]
    refine ⟨?_, hrecorded.2.of_get? ?_⟩
    · rw [get?_amend_self, hrecorded.1]
      rfl
    · intro frame hframe
      exact get?_amend_of_ne c _ (ne_of_mem_below h.valid hlive hframe)
  · intro id hbefore _
    refine get?_amend_of_ne c _ ?_
    rintro rfl
    rw [htop, ids, hlive] at hbefore
    exact hbefore List.mem_cons_self
  · intro id hbefore hnow
    exact absurd (hids ▸ hbefore) hnow
  · intro id hnow hbefore
    exact absurd (hids ▸ hnow) hbefore

theorem get?_start_self (c : Chronicle α) (below : Record α) (payload : α) :
    (c.start below payload).get? ⟨c.records.length⟩ =
      some ⟨⟨⟨c.records.length⟩, .active, some c.top, below.info.depth + 1⟩, payload,
        some below.payload⟩ := by
  simp [start, get?, suspend, amend]

theorem get?_start_of_ne (c : Chronicle α) (below : Record α) (payload : α) {id : FrameId}
    (h : id ≠ ⟨c.records.length⟩) :
    (c.start below payload).get? id = (c.suspend c.top).get? id := by
  have hindex : id.index ≠ c.records.length := fun heq => h (congrArg FrameId.mk heq)
  have hlength : (c.suspend c.top).records.length = c.records.length := by
    simp [suspend, amend]
  rw [start, get?, get?]
  rcases Nat.lt_or_gt_of_ne hindex with hlt | hgt
  · exact List.getElem?_append_left (hlength ▸ hlt)
  · have hnone : (c.suspend c.top).records[id.index]? = none := by
      rw [List.getElem?_eq_none_iff]
      omega
    rw [hnone, List.getElem?_eq_none_iff, List.length_append, List.length_singleton]
    omega

theorem get?_length (c : Chronicle α) : c.get? ⟨c.records.length⟩ = none := by
  simp [get?]

theorem Recounts.start {c : Chronicle α} {s : FrameStack α} {r : Record α} (h : c.Recounts s)
    (hinfo : r.info = s.top.info) (hpayload : r.payload = s.current) (payload : α) :
    (c.start r payload).Recounts (s.pushed payload) := by
  obtain ⟨below, hlive⟩ := s.live_eq_cons
  have hlive' := live_pushed hlive payload
  have hpushed : (s.pushed payload).top =
      ⟨⟨⟨c.records.length⟩, .active, some c.top, r.info.depth + 1⟩, payload⟩ := by
    rw [h.count, h.top, hinfo, h.valid.depth_top]
    rfl
  have hids : (s.pushed payload).ids = ⟨c.records.length⟩ :: s.ids := by
    rw [ids, ids, hlive', hlive, hpushed, List.map_cons, List.map_cons, List.map_cons]
  have hrecorded := h.live
  rw [hlive] at hrecorded
  have htop : c.top = s.top.info.id := h.top
  -- No live frame has the new name.
  have hold : ∀ id ∈ s.ids, id ≠ ⟨c.records.length⟩ := by
    rintro id hid rfl
    obtain ⟨_, _, _, r', hr', _⟩ := h.live.exists_of_ids hid
    rw [get?_length] at hr'
    cases hr'
  refine h.of_move (h.valid.pushed payload) ?_ ?_ ?_ ?_ ?_ ?_
    (Or.inl ⟨rfl, retired_pushed s payload⟩)
  · simp [Chronicle.start, suspend, amend, pushed, h.count]
  · rw [topId, hpushed]
    rfl
  · rw [hlive', hpushed]
    refine ⟨?_, ?_, hrecorded.2.of_get? ?_⟩
    · rw [get?_start_self, hpayload]
      rfl
    · have hne : s.top.info.id ≠ ⟨c.records.length⟩ := hold _ (by simp [ids, hlive])
      rw [get?_start_of_ne c r payload hne, suspend, htop, get?_amend_self, hrecorded.1]
      rfl
    · intro frame hframe
      have hne : frame.info.id ≠ ⟨c.records.length⟩ := by
        refine hold _ (List.mem_map.mpr ⟨frame, ?_, rfl⟩)
        rw [hlive]
        exact List.mem_cons_of_mem _ hframe
      rw [get?_start_of_ne c r payload hne, suspend, htop]
      exact get?_amend_of_ne c _ (ne_of_mem_below h.valid hlive hframe)
  · intro id hbefore hnow
    rw [hids, List.mem_cons, not_or] at hnow
    rw [get?_start_of_ne c r payload hnow.1, suspend]
    refine get?_amend_of_ne c _ ?_
    rintro rfl
    rw [htop, ids, hlive] at hbefore
    exact hbefore List.mem_cons_self
  · intro id hbefore hnow
    rw [hids] at hnow
    exact absurd (List.mem_cons_of_mem _ hbefore) hnow
  · intro id hnow hbefore
    rw [hids] at hnow
    rcases List.mem_cons.mp hnow with rfl | hmem
    · exact c.get?_length
    · exact absurd hmem hbefore

theorem get?_retire_top (c : Chronicle α) (status : Status) :
    (c.retire status).get? c.top =
      (c.get? c.top).map fun r => { r with info := { r.info with status } } :=
  get?_amend_self c c.top _

theorem get?_retire_of_ne (c : Chronicle α) (status : Status) {id : FrameId} (h : id ≠ c.top) :
    (c.retire status).get? id = c.get? id :=
  get?_amend_of_ne c _ h

theorem get?_resume_self (c : Chronicle α) (id : FrameId) (f : α → α) :
    (c.resume id f).get? id = (c.get? id).map fun r =>
      { r with info := { r.info with status := id.topStatus }, payload := f r.payload } :=
  get?_amend_self c id _

theorem get?_resume_of_ne (c : Chronicle α) {id other : FrameId} (f : α → α)
    (h : other ≠ id) : (c.resume id f).get? other = c.get? other :=
  get?_amend_of_ne c _ h

theorem Recounts.retire {c : Chronicle α} {s : FrameStack α} {frame parent : Frame α}
    {rest : List (Frame α)} (h : c.Recounts s) (hlive : s.live = frame :: parent :: rest)
    (status : Status) (hstatus : status.isRetired = true) (f : α → α) :
    ((c.retire status).resume parent.info.id f).Recounts ((s.below status).modify f) := by
  obtain ⟨hbelow, hretired⟩ := h.valid.live_below hlive status
  have hlive' := live_modify hbelow f
  have hids : ((s.below status).modify f).ids = (parent :: rest).map (·.info.id) := by
    rw [ids, hlive', List.map_cons, List.map_cons]
  have hrecorded := h.live
  rw [hlive] at hrecorded
  have htop : c.top = frame.info.id := h.top.trans (topId_of_live hlive)
  have hparent : ∀ other ∈ parent :: rest, other.info.id ≠ c.top := by
    intro other hother
    rw [htop]
    exact ne_of_mem_below h.valid hlive hother
  have hrest : ∀ other ∈ rest, other.info.id ≠ parent.info.id := by
    have hnodup := h.valid.nodup_ids
    rw [ids, hlive, List.map_cons, List.map_cons] at hnodup
    intro other hother heq
    exact (List.nodup_cons.mp (List.nodup_cons.mp hnodup).2).1
      (List.mem_map.mpr ⟨other, hother, heq⟩)
  -- What is written down of the frame that was on top.
  have hdropped : ((c.retire status).resume parent.info.id f).get? c.top =
      some ⟨{ frame.info with status }, frame.payload, some parent.payload⟩ := by
    rw [get?_resume_of_ne _ f (hparent parent List.mem_cons_self).symm, get?_retire_top, htop,
      hrecorded.1]
    rfl
  have hgone : c.top ∉ ((s.below status).modify f).ids := by
    rw [hids]
    intro hmem
    obtain ⟨other, hother, heq⟩ := List.mem_map.mp hmem
    exact hparent other hother heq
  refine h.of_move ((h.valid.below status).modify f) ?_ ?_ ?_ ?_ ?_ ?_
    (Or.inr ⟨c.top, _, rfl, hdropped, hgone, ?_⟩)
  · rw [next_modify, next_below]
    simpa [Chronicle.resume, Chronicle.retire, amend] using h.count
  · exact (topId_of_live hlive').symm
  · rw [hlive']
    refine ⟨?_, hrecorded.2.2.of_get? ?_⟩
    · rw [get?_resume_self, get?_retire_of_ne c status (hparent parent List.mem_cons_self),
        hrecorded.2.1]
      rfl
    · intro other hother
      rw [get?_resume_of_ne _ f (hrest other hother),
        get?_retire_of_ne c status (hparent other (List.mem_cons_of_mem _ hother))]
  · intro id hbefore _
    rw [ids, hlive, List.map_cons, List.map_cons, List.mem_cons, List.mem_cons, not_or,
      not_or] at hbefore
    rw [get?_resume_of_ne _ f hbefore.2.1, get?_retire_of_ne c status (htop ▸ hbefore.1)]
  · intro id hbefore hnow
    rw [ids, hlive, List.map_cons, List.mem_cons, ← htop] at hbefore
    rcases hbefore with rfl | hbefore
    · exact ⟨_, hdropped, htop.symm, hstatus⟩
    · exact absurd (hids ▸ hbefore) hnow
  · intro id hnow hbefore
    rw [hids] at hnow
    rw [ids, hlive] at hbefore
    exact absurd (List.mem_cons_of_mem _ hnow) hbefore
  · rw [retired_modify, hretired]

end Chronicle

namespace Chronicle

open FrameStack

variable {α : Type} [Payload α]

theorem Recounts.perform_of_refusal {c : Chronicle α} {s : FrameStack α} {move : Move α}
    {e : Error} (h : c.Recounts s) (hrefused : s.refusal? move = some e) :
    c.perform move = (c, .error e) := by
  have hjudged := s.judged_refusal? move
  rw [hrefused] at hjudged
  cases hjudged with
  | branchElsewhere hne => rw [Chronicle.perform, h.onTop?_of_ne hne]
  | acceptRoot => rfl
  | acceptElsewhere hroot hne => rw [Chronicle.perform, if_neg hroot, h.onTop?_of_ne hne]
  | rejectRoot => rfl
  | rejectElsewhere hroot hne => rw [Chronicle.perform, if_neg hroot, h.onTop?_of_ne hne]

/-- The chronicle makes the same move. -/
structure Follows (c : Chronicle α) (s : FrameStack α) (move : Move α) : Prop where
  recounts : (c.perform move).1.Recounts (s.perform move).1
  answer : (c.perform move).2 = (s.perform move).2
  success : ∃ id, (s.perform move).2 = .ok id

theorem Recounts.follows_branch {c : Chronicle α} {s : FrameStack α} (h : c.Recounts s) :
    c.Follows s (.branch s.topId) := by
  obtain ⟨r, hr, hinfo, hpayload⟩ := h.onTop?
  have hc : c.perform (.branch s.topId) =
      (c.start r (Payload.fork r.payload), .ok ⟨c.records.length⟩) := by
    rw [Chronicle.perform, hr]
  have hs := h.valid.perform_branch
  refine ⟨?_, ?_, ⟨_, congrArg Prod.snd hs⟩⟩
  · rw [hc, hs, hpayload]
    exact h.start hinfo hpayload _
  · rw [hc, hs, h.count]

theorem Recounts.follows_accept {c : Chronicle α} {s : FrameStack α} (h : c.Recounts s)
    (hroot : s.topId ≠ .root) : c.Follows s (.accept s.topId) := by
  obtain ⟨frame, parent, rest, hlive⟩ := h.valid.exists_parent hroot
  obtain ⟨r, hr, hinfo, hpayload⟩ := h.onTop?
  rw [top_of_live hlive] at hinfo
  rw [current_of_live hlive] at hpayload
  have hparent : r.info.parent = some parent.info.id := by
    rw [hinfo, h.valid.parent_of_live hlive]
  have hc : c.perform (.accept s.topId) =
      ((c.retire .accepted).resume parent.info.id (Payload.merge · frame.payload),
        .ok parent.info.id) := by
    rw [Chronicle.perform, if_neg hroot, hr]
    simp only [hparent, hpayload, Option.getD_some]
  have hs := h.valid.perform_accept hlive
  refine ⟨?_, ?_, ⟨_, congrArg Prod.snd hs⟩⟩
  · have hrecounts := h.retire hlive .accepted rfl (Payload.merge · frame.payload)
    rw [hc, hs]
    exact hrecounts
  · rw [hc, hs]

theorem Recounts.follows_reject {c : Chronicle α} {s : FrameStack α} (h : c.Recounts s)
    (hroot : s.topId ≠ .root) : c.Follows s (.reject s.topId) := by
  obtain ⟨frame, parent, rest, hlive⟩ := h.valid.exists_parent hroot
  obtain ⟨r, hr, hinfo, _⟩ := h.onTop?
  rw [top_of_live hlive] at hinfo
  have hparent : r.info.parent = some parent.info.id := by
    rw [hinfo, h.valid.parent_of_live hlive]
  have hc : c.perform (.reject s.topId) =
      ((c.retire .rejected).resume parent.info.id fun payload => payload,
        .ok parent.info.id) := by
    rw [Chronicle.perform, if_neg hroot, hr]
    simp only [hparent, Option.getD_some]
  have hs := h.valid.perform_reject hlive
  refine ⟨?_, ?_, ⟨_, congrArg Prod.snd hs⟩⟩
  · have hrecounts := h.retire hlive .rejected rfl fun payload => payload
    rw [modify_eq_self rfl] at hrecounts
    rw [hc, hs]
    exact hrecounts
  · rw [hc, hs]

theorem Recounts.follows {c : Chronicle α} {s : FrameStack α} {move : Move α}
    (h : c.Recounts s) (hallowed : s.refusal? move = none) : c.Follows s move := by
  have hjudged := s.judged_refusal? move
  rw [hallowed] at hjudged
  cases hjudged with
  | branch => exact h.follows_branch
  | accept hroot => exact h.follows_accept hroot
  | reject hroot => exact h.follows_reject hroot
  | modify f => exact ⟨h.modify f, congrArg Except.ok h.top, ⟨_, rfl⟩⟩

/-- Whatever is asked, the chronicle keeps to the stack and answers like it. -/
theorem Recounts.perform {c : Chronicle α} {s : FrameStack α} (h : c.Recounts s)
    (move : Move α) :
    (c.perform move).1.Recounts (s.perform move).1 ∧
      (c.perform move).2 = (s.perform move).2 := by
  cases hrefusal : s.refusal? move with
  | none => exact ⟨(h.follows hrefusal).recounts, (h.follows hrefusal).answer⟩
  | some e =>
      rw [h.perform_of_refusal hrefusal, FrameStack.perform_of_refusal hrefusal]
      exact ⟨h, rfl⟩

theorem Recounts.after {c : Chronicle α} {s : FrameStack α} (h : c.Recounts s)
    (moves : List (Move α)) : (c.after moves).Recounts (s.after moves) := by
  induction moves generalizing c s with
  | nil => exact h
  | cons move rest ih => exact ih (h.perform move).1

theorem Recounts.answers {c : Chronicle α} {s : FrameStack α} (h : c.Recounts s)
    (moves : List (Move α)) : c.answers moves = s.answers moves := by
  induction moves generalizing c s with
  | nil => rfl
  | cons move rest ih =>
      rw [Chronicle.answers, FrameStack.answers, (h.perform move).2, ih (h.perform move).1]

/-! ## What the stack knows -/

omit [Payload α] in
theorem Recounts.mem_ids_iff {c : Chronicle α} {s : FrameStack α} (h : c.Recounts s)
    (id : FrameId) :
    id ∈ s.ids ↔ ∃ r, c.get? id = some r ∧ r.info.status.isRetired = false := by
  constructor
  · intro hid
    obtain ⟨frame, hframe, _, r, hr, hinfo, _⟩ := h.live.exists_of_ids hid
    exact ⟨r, hr, by rw [hinfo, h.valid.isRetired_of_mem hframe]⟩
  · rintro ⟨r, hr, hstatus⟩
    by_contra hnot
    rw [h.others id r hr hnot] at hstatus
    cases hstatus

omit [Payload α] in
theorem known?_of_get? {c : Chronicle α} {id : FrameId} {r : Record α} (h : c.get? id = some r) :
    c.known? id =
      if r.info.status.isRetired = false ∨ c.lastRetired = some id then some r.info else none := by
  rw [known?, h, Option.filter_some]
  by_cases hretired : r.info.status.isRetired <;>
    by_cases hlast : c.lastRetired = some id <;> simp [hretired, hlast]

omit [Payload α] in
/-- The stack knows what the chronicle knows of the frames that are live and of the
one retired last, and no more. -/
theorem Recounts.info?_eq {c : Chronicle α} {s : FrameStack α} (h : c.Recounts s)
    (id : FrameId) : s.info? id = c.known? id := by
  by_cases hid : id ∈ s.ids
  · obtain ⟨frame, hframe, rfl, r, hr, hinfo, _⟩ := h.live.exists_of_ids hid
    have hstatus : r.info.status.isRetired = false := by rw [hinfo, h.valid.isRetired_of_mem hframe]
    rw [h.valid.info?_of_mem hframe, known?_of_get? hr, if_pos (Or.inl hstatus), hinfo]
  · -- Of the frames that are not live only the one retired last is known.
    have hforgotten : c.lastRetired ≠ some id → c.known? id = none := by
      intro hlast
      cases hget : c.get? id with
      | none => rw [known?, hget, Option.filter_none, Option.map_none]
      | some r => simp [known?_of_get? hget, h.others id r hget hid, hlast]
    rw [info?_of_notMem hid]
    rcases h.retired with ⟨hnone, hretired⟩ | ⟨last, r, hlast, hr, hnot, hretired⟩
    · rw [hretired, Option.filter_none, hforgotten (by simp [hnone])]
    · by_cases heq : last = id
      · subst heq
        simp [hretired, h.named last r hr, known?_of_get? hr, hlast]
      · rw [hforgotten (by simpa [hlast] using heq), hretired]
        simp [h.named last r hr, heq]

end Chronicle

end Backtrack
