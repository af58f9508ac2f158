import Backtrack.FrameStack

/-!
The order of the stack of attempts.  Every frame is named later than the frame it
stands on and knows it as its parent; the frame on top is active, unless it is
the root, and all others are suspended.  In such a stack the frame on top can
always be branched from, and be retired unless it is the root.
-/

namespace Backtrack

namespace FrameStack

variable {α : Type}

def infos (s : FrameStack α) : List FrameInfo := s.above.map (·.info)

def payloads (s : FrameStack α) : List α := s.above.map (·.payload)

/-- Each frame is named later than the one it stands on, which is its parent. -/
def Stacked : List FrameInfo → Prop
  | [] => True
  | info :: rest =>
      info.parent = some (rest.headD .root).id ∧ info.depth = rest.length + 1 ∧
        (rest.headD .root).id.index < info.id.index ∧ Stacked rest

structure Valid (s : FrameStack α) : Prop where
  base : s.base.info = .root
  stacked : Stacked s.infos
  active : ∀ frame rest, s.above = frame :: rest → frame.info.status = .active
  suspended : ∀ frame ∈ s.above.tail, frame.info.status = .suspended
  next : s.topId.index < s.next

/-- What is left after the frame on top was retired with `status`. -/
def below (s : FrameStack α) (status : Status) : FrameStack α :=
  match s.above with
  | [] => s
  | frame :: rest =>
      let s := { s with above := rest, retired := some { frame.info with status } }
      if rest.isEmpty then s else s.setStatus .active

def pushed (s : FrameStack α) (payload : α) : FrameStack α :=
  let info : FrameInfo :=
    { id := ⟨s.next⟩, status := .active, parent := some s.topId, depth := s.depth + 1 }
  { s.setStatus .suspended with
    above := { info, payload } :: (s.setStatus .suspended).above
    next := s.next + 1 }

theorem valid_ofRoot (payload : α) : (ofRoot payload).Valid where
  base := rfl
  stacked := trivial
  active := by simp [ofRoot]
  suspended := by simp [ofRoot]
  next := Nat.zero_lt_one

/-! ## Payloads -/

@[simp] theorem base_modify (s : FrameStack α) (f : α → α) :
    (s.modify f).base.info = s.base.info := by
  unfold modify
  split <;> rfl

@[simp] theorem infos_modify (s : FrameStack α) (f : α → α) :
    (s.modify f).infos = s.infos := by
  cases h : s.above <;> simp [modify, infos, h]

@[simp] theorem next_modify (s : FrameStack α) (f : α → α) : (s.modify f).next = s.next := by
  unfold modify
  split <;> rfl

@[simp] theorem topId_modify (s : FrameStack α) (f : α → α) : (s.modify f).topId = s.topId := by
  cases h : s.above <;> simp [modify, topId, top, h]

theorem modify_eq_self {s : FrameStack α} {f : α → α} (h : f s.current = s.current) :
    s.modify f = s := by
  obtain ⟨base, above, retired, next⟩ := s
  cases above with
  | nil =>
      simp only [current, top, List.headD_nil] at h
      simp [modify, h]
  | cons frame rest =>
      simp only [current, top, List.headD_cons] at h
      simp [modify, h]

theorem modify_const (s : FrameStack α) (f : α → α) :
    s.modify f = s.modify fun _ => f s.current := by
  cases h : s.above <;> simp [modify, current, top, h]

theorem modify_modify (s : FrameStack α) (f g : α → α) :
    (s.modify f).modify g = s.modify (fun a => g (f a)) := by
  cases h : s.above <;> simp [modify, h]

theorem Valid.modify {s : FrameStack α} (h : s.Valid) (f : α → α) : (s.modify f).Valid where
  base := by simpa using h.base
  stacked := by simpa using h.stacked
  active := by
    intro frame rest habove
    cases hs : s.above with
    | nil => simp [FrameStack.modify, hs] at habove
    | cons top below =>
        simp only [FrameStack.modify, hs, List.cons.injEq] at habove
        rw [← habove.1]
        exact h.active top below hs
  suspended := by
    intro frame hframe
    cases hs : s.above with
    | nil => simp [FrameStack.modify, hs] at hframe
    | cons top below =>
        exact h.suspended frame (by simpa [FrameStack.modify, hs] using hframe)
  next := by simpa using h.next

theorem payloads_eq_nil_iff {s : FrameStack α} : s.payloads = [] ↔ s.above = [] := by
  simp [payloads]

theorem payloads_modify {s : FrameStack α} {a : α} {rest : List α} (f : α → α)
    (h : s.payloads = a :: rest) : (s.modify f).payloads = f a :: rest := by
  cases hs : s.above with
  | nil => simp [payloads, hs] at h
  | cons top below =>
      simp only [payloads, hs, List.map_cons, List.cons.injEq] at h
      simp [modify, payloads, hs, h]

theorem payloads_modify_nil {s : FrameStack α} (f : α → α) (h : s.payloads = []) :
    (s.modify f).payloads = [] ∧ (s.modify f).base.payload = f s.base.payload := by
  rw [payloads_eq_nil_iff] at h
  simp [modify, payloads, h]

theorem base_payload_modify {s : FrameStack α} {a : α} {rest : List α} (f : α → α)
    (h : s.payloads = a :: rest) : (s.modify f).base.payload = s.base.payload := by
  cases hs : s.above with
  | nil => simp [payloads, hs] at h
  | cons top below => simp [modify, hs]

theorem payloads_setStatus (s : FrameStack α) (status : Status) :
    (s.setStatus status).payloads = s.payloads ∧
      (s.setStatus status).base.payload = s.base.payload := by
  cases hs : s.above <;> simp [setStatus, payloads, hs]

theorem payloads_pushed (s : FrameStack α) (payload : α) :
    (s.pushed payload).payloads = payload :: s.payloads ∧
      (s.pushed payload).base.payload = s.base.payload := by
  have h := payloads_setStatus s .suspended
  exact ⟨congrArg (payload :: ·) h.1, h.2⟩

theorem payloads_below (s : FrameStack α) (status : Status) :
    (s.below status).payloads = s.payloads.tail ∧
      (s.below status).base.payload = s.base.payload := by
  cases hs : s.above with
  | nil => simp [below, payloads, hs]
  | cons top rest =>
      cases rest <;> simp [below, setStatus, payloads, hs]

/-! ## All payloads, the root's last -/

def carried (s : FrameStack α) : List α := s.live.map (·.payload)

theorem carried_eq (s : FrameStack α) : s.carried = s.payloads ++ [s.base.payload] := by
  simp [carried, live, payloads]

theorem current_of_carried {s : FrameStack α} {a : α} {rest : List α}
    (h : s.carried = a :: rest) : s.current = a := by
  cases habove : s.above <;> simp_all [carried, live, current, top]

theorem top_eq_of_live {s t : FrameStack α} (h : s.live = t.live) : s.top = t.top := by
  have hhead : ∀ u : FrameStack α, u.live.head? = some u.top := by
    intro u
    cases habove : u.above <;> simp [live, top, habove]
  have heq := hhead s
  rw [h, hhead t, Option.some.injEq] at heq
  exact heq.symm

theorem topId_eq_of_live {s t : FrameStack α} (h : s.live = t.live) : s.topId = t.topId :=
  congrArg (·.info.id) (top_eq_of_live h)

theorem current_eq_of_live {s t : FrameStack α} (h : s.live = t.live) : s.current = t.current :=
  congrArg (·.payload) (top_eq_of_live h)

theorem carried_modify {s : FrameStack α} {a : α} {rest : List α} (f : α → α)
    (h : s.carried = a :: rest) : (s.modify f).carried = f a :: rest := by
  cases habove : s.above <;> simp_all [carried, live, modify]

theorem carried_pushed (s : FrameStack α) (payload : α) :
    (s.pushed payload).carried = payload :: s.carried := by
  obtain ⟨hpayloads, hbase⟩ := payloads_pushed s payload
  rw [carried_eq, carried_eq, hpayloads, hbase, List.cons_append]

theorem carried_below {s : FrameStack α} (status : Status) (h : s.above ≠ []) :
    (s.below status).carried = s.carried.tail := by
  obtain ⟨hpayloads, hbase⟩ := payloads_below s status
  have hne : s.payloads ≠ [] := fun hnil => h (payloads_eq_nil_iff.mp hnil)
  rw [carried_eq, carried_eq, hpayloads, hbase, List.tail_append_of_ne_nil hne]

/-! ## The frame on top -/

theorem Valid.topId_eq {s : FrameStack α} (h : s.Valid) :
    s.topId = (s.infos.headD .root).id := by
  cases habove : s.above <;> simp [topId, top, infos, habove, h.base]

theorem Stacked.id_ne_root {info : FrameInfo} {rest : List FrameInfo}
    (h : Stacked (info :: rest)) : info.id ≠ .root := by
  intro hroot
  have hlt := h.2.2.1
  rw [hroot] at hlt
  exact Nat.not_lt_zero _ hlt

theorem Valid.topId_eq_root_iff {s : FrameStack α} (h : s.Valid) :
    s.topId = .root ↔ s.above = [] := by
  cases habove : s.above with
  | nil => simp [topId, top, habove, h.base, FrameInfo.root]
  | cons frame rest =>
      have hstacked := h.stacked
      rw [infos, habove, List.map_cons] at hstacked
      simpa [topId, top, habove] using hstacked.id_ne_root

theorem info?_topId (s : FrameStack α) : s.info? s.topId = some s.top.info := by
  cases habove : s.above <;> simp [info?, live, topId, top, habove]

theorem Valid.checkTop_topId {s : FrameStack α} (h : s.Valid) (action : FrameAction) :
    s.checkTop s.topId action = .ok () := by
  have hlive : s.top.info.status.isRetired = false := by
    cases habove : s.above with
    | nil => simp [top, habove, h.base, FrameInfo.root, Status.isRetired]
    | cons frame rest => simp [top, habove, h.active frame rest habove, Status.isRetired]
  simp [checkTop, status?, info?_topId, hlive]

/-! ## Moves of the frame on top -/

theorem Valid.branch_topId [Payload α] {s : FrameStack α} (h : s.Valid) :
    s.branch s.topId = .ok (s.pushed (Payload.fork s.current), ⟨s.next⟩) := by
  have hnext : (s.setStatus .suspended).next = s.next := by
    cases habove : s.above <;> simp [setStatus, habove]
  simp [branch, h.checkTop_topId, pushed, hnext, Bind.bind, Except.bind, pure, Except.pure]

theorem Valid.retire_topId {s : FrameStack α} {frame : Frame α} {rest : List (Frame α)}
    (h : s.Valid) (habove : s.above = frame :: rest) (action : FrameAction) (status : Status) :
    s.retire s.topId action status =
      .ok (s.below status, (s.below status).topId, frame.payload) := by
  have hstacked := h.stacked
  rw [infos, habove, List.map_cons] at hstacked
  rw [retire, h.checkTop_topId]
  cases rest with
  | nil =>
      have hparent : frame.info.parent = some .root := hstacked.1
      have htop : s.base.info.id = .root := by
        rw [h.base]
        rfl
      simp [habove, below, hparent, topId, top, htop, Bind.bind, Except.bind, pure, Except.pure]
  | cons second rest =>
      have hparent : frame.info.parent = some second.info.id := hstacked.1
      have hne : second.info.id ≠ .root := hstacked.2.2.2.id_ne_root
      simp [habove, below, hparent, hne, setStatus, topId, top, Bind.bind, Except.bind, pure,
        Except.pure]

theorem Valid.accept_topId [Payload α] {s : FrameStack α} {frame : Frame α}
    {rest : List (Frame α)} (h : s.Valid) (habove : s.above = frame :: rest) :
    s.accept s.topId =
      .ok ((s.below .accepted).modify (Payload.merge · frame.payload),
        (s.below .accepted).topId) := by
  have hne : s.topId ≠ .root := by simp [h.topId_eq_root_iff, habove]
  simp [accept, hne, h.retire_topId habove, Bind.bind, Except.bind, pure, Except.pure]

theorem Valid.reject_topId {s : FrameStack α} {frame : Frame α} {rest : List (Frame α)}
    (h : s.Valid) (habove : s.above = frame :: rest) :
    s.reject s.topId = .ok (s.below .rejected, (s.below .rejected).topId, frame.payload) := by
  have hne : s.topId ≠ .root := by simp [h.topId_eq_root_iff, habove]
  simp [reject, hne, h.retire_topId habove]

theorem Valid.eq_of_branch [Payload α] {s s' : FrameStack α} {frame : FrameId} (h : s.Valid)
    (hok : s.branch s.topId = .ok (s', frame)) :
    s' = s.pushed (Payload.fork s.current) ∧ frame = s'.topId := by
  rw [h.branch_topId, Except.ok.injEq, Prod.mk.injEq] at hok
  obtain ⟨rfl, rfl⟩ := hok
  exact ⟨rfl, rfl⟩

theorem Valid.eq_of_accept [Payload α] {s s' : FrameStack α} {frame : FrameId} (h : s.Valid)
    (hne : s.above ≠ []) (hok : s.accept s.topId = .ok (s', frame)) :
    s' = (s.below .accepted).modify (Payload.merge · s.current) ∧
      frame = (s.below .accepted).topId := by
  obtain ⟨top, rest, habove⟩ := List.exists_cons_of_ne_nil hne
  have hcurrent : s.current = top.payload := by simp [current, FrameStack.top, habove]
  rw [h.accept_topId habove, Except.ok.injEq, Prod.mk.injEq, ← hcurrent] at hok
  obtain ⟨rfl, rfl⟩ := hok
  exact ⟨rfl, rfl⟩

theorem Valid.eq_of_reject {s s' : FrameStack α} {frame : FrameId} {dropped : α} (h : s.Valid)
    (hne : s.above ≠ []) (hok : s.reject s.topId = .ok (s', frame, dropped)) :
    s' = s.below .rejected ∧ frame = s'.topId ∧ dropped = s.current := by
  obtain ⟨top, rest, habove⟩ := List.exists_cons_of_ne_nil hne
  have hcurrent : s.current = top.payload := by simp [current, FrameStack.top, habove]
  rw [h.reject_topId habove, Except.ok.injEq, Prod.mk.injEq, Prod.mk.injEq, ← hcurrent] at hok
  obtain ⟨rfl, rfl, rfl⟩ := hok
  exact ⟨rfl, rfl, rfl⟩

theorem Valid.reject_topId_modify {s : FrameStack α} (h : s.Valid) (hne : s.above ≠ [])
    (f : α → α) :
    (s.modify f).reject s.topId =
      .ok (s.below .rejected, (s.below .rejected).topId, f s.current) := by
  obtain ⟨top, rest, habove⟩ := List.exists_cons_of_ne_nil hne
  have hmodify : (s.modify f).above = { top with payload := f top.payload } :: rest := by
    simp [FrameStack.modify, habove]
  have hbelow : (s.modify f).below .rejected = s.below .rejected := by
    simp [FrameStack.below, FrameStack.modify, habove]
  have hreject := (h.modify f).reject_topId hmodify
  rw [topId_modify, hbelow] at hreject
  rw [hreject]
  simp [current, FrameStack.top, habove]

theorem Valid.parent?_topId {s : FrameStack α} (h : s.Valid) (hne : s.above ≠ [])
    (status : Status) : s.parent? s.topId = some (s.below status).topId := by
  obtain ⟨top, rest, habove⟩ := List.exists_cons_of_ne_nil hne
  have hstacked := h.stacked
  rw [infos, habove, List.map_cons] at hstacked
  rw [parent?, info?_topId, Option.bind_some, FrameStack.top, habove, List.headD_cons,
    hstacked.1]
  cases rest with
  | nil => simp [below, habove, topId, FrameStack.top, h.base]
  | cons second rest => simp [below, habove, setStatus, topId, FrameStack.top]

/-! ## Moves keep the order -/

theorem Valid.pushed {s : FrameStack α} (h : s.Valid) (payload : α) :
    (s.pushed payload).Valid := by
  have hnext := h.next
  cases habove : s.above with
  | nil =>
      have htop : s.topId = .root := by simp [h.topId_eq_root_iff, habove]
      refine ⟨?_, ?_, ?_, ?_, ?_⟩
      · simp [FrameStack.pushed, setStatus, habove, h.base, FrameInfo.root]
      · refine ⟨?_, ?_, ?_, ?_⟩
        · simp [setStatus, habove, htop, FrameInfo.root]
        · simp [setStatus, habove, depth]
        · simpa [setStatus, habove, ← htop, FrameInfo.root] using hnext
        · simp [setStatus, habove, Stacked]
      · intro frame rest hcons
        simp only [FrameStack.pushed, List.cons.injEq] at hcons
        rw [← hcons.1]
      · simp [FrameStack.pushed, setStatus, habove]
      · simp [FrameStack.pushed, topId, top]
  | cons top rest =>
      have hstacked := h.stacked
      rw [infos, habove, List.map_cons] at hstacked
      have htop : s.topId = top.info.id := by simp [topId, FrameStack.top, habove]
      refine ⟨?_, ?_, ?_, ?_, ?_⟩
      · simp [FrameStack.pushed, setStatus, habove, h.base]
      · refine ⟨?_, ?_, ?_, ?_⟩
        · simp [setStatus, habove, htop]
        · simp [setStatus, habove, depth]
        · simpa [setStatus, habove, ← htop] using hnext
        · simpa [setStatus, habove, Stacked] using hstacked
      · intro frame below hcons
        simp only [FrameStack.pushed, List.cons.injEq] at hcons
        rw [← hcons.1]
      · intro frame hframe
        simp only [FrameStack.pushed, setStatus, habove, List.tail_cons, List.mem_cons] at hframe
        rcases hframe with rfl | hframe
        · rfl
        · exact h.suspended frame (by simpa [habove] using hframe)
      · simp [FrameStack.pushed, topId, FrameStack.top]

theorem Valid.below {s : FrameStack α} (h : s.Valid) (status : Status) :
    (s.below status).Valid := by
  cases habove : s.above with
  | nil => simpa [FrameStack.below, habove] using h
  | cons frame rest =>
      have hstacked := h.stacked
      rw [infos, habove, List.map_cons] at hstacked
      have hsuspended := h.suspended
      rw [habove, List.tail_cons] at hsuspended
      have hlt : ((rest.map Frame.info).headD .root).id.index < s.next := by
        have hnext := h.next
        rw [h.topId_eq, infos, habove] at hnext
        exact Nat.lt_trans hstacked.2.2.1 hnext
      cases rest with
      | nil =>
          exact { base := by simpa [FrameStack.below, habove] using h.base
                  stacked := by simp [FrameStack.below, infos, habove, Stacked]
                  active := by simp [FrameStack.below, habove]
                  suspended := by simp [FrameStack.below, habove]
                  next := by
                    simpa [FrameStack.below, habove, topId, FrameStack.top, h.base] using hlt }
      | cons second rest =>
          refine ⟨?_, ?_, ?_, ?_, ?_⟩
          · simpa [FrameStack.below, habove, setStatus] using h.base
          · simpa [FrameStack.below, infos, habove, setStatus, Stacked] using hstacked.2.2.2
          · intro top lower hcons
            simp only [FrameStack.below, habove, setStatus, List.isEmpty_cons, Bool.false_eq_true,
              if_false, List.cons.injEq] at hcons
            rw [← hcons.1]
          · intro lower hlower
            simp only [FrameStack.below, habove, setStatus, List.isEmpty_cons, Bool.false_eq_true,
              if_false, List.tail_cons] at hlower
            exact hsuspended lower (List.mem_cons_of_mem _ hlower)
          · simpa [FrameStack.below, habove, setStatus, topId, FrameStack.top] using hlt

/-! ## What lies below -/

/-- `s` stands on `outer` with `count` frames more. -/
def Over (s outer : FrameStack α) (count : Nat) : Prop :=
  s.base = outer.base ∧ ∃ inner, inner.length = count ∧ s.above = inner ++ outer.above

theorem over_pushed (s : FrameStack α) (payload : α) :
    (s.pushed payload).Over (s.setStatus .suspended) 1 :=
  ⟨rfl, [_], rfl, rfl⟩

theorem Over.modify {s outer : FrameStack α} {count : Nat} (h : s.Over outer (count + 1))
    (f : α → α) : (s.modify f).Over outer (count + 1) := by
  obtain ⟨hbase, inner, hlength, habove⟩ := h
  cases inner with
  | nil => cases hlength
  | cons top inner =>
      rw [List.cons_append] at habove
      refine ⟨by simpa [FrameStack.modify, habove] using hbase,
        { top with payload := f top.payload } :: inner, hlength, ?_⟩
      simp [FrameStack.modify, habove]

theorem Over.pushed {s outer : FrameStack α} {count : Nat} (h : s.Over outer (count + 1))
    (payload : α) : (s.pushed payload).Over outer (count + 2) := by
  obtain ⟨hbase, inner, hlength, habove⟩ := h
  cases inner with
  | nil => cases hlength
  | cons top inner =>
      rw [List.cons_append] at habove
      refine ⟨by simpa [FrameStack.pushed, setStatus, habove] using hbase,
        (s.pushed payload).top :: { top with info := { top.info with status := .suspended } } ::
          inner, by simpa using hlength, ?_⟩
      simp [FrameStack.pushed, FrameStack.top, setStatus, habove]

theorem Over.below {s outer : FrameStack α} {count : Nat} (h : s.Over outer (count + 2))
    (status : Status) : (s.below status).Over outer (count + 1) := by
  obtain ⟨hbase, inner, hlength, habove⟩ := h
  match inner, hlength with
  | top :: second :: inner, hlength =>
      rw [List.cons_append, List.cons_append] at habove
      refine ⟨by simpa [FrameStack.below, setStatus, habove] using hbase,
        { second with info := { second.info with status := .active } } :: inner,
        by simpa using hlength, ?_⟩
      simp [FrameStack.below, setStatus, habove]

theorem Over.below_eq {s outer : FrameStack α} (h : s.Over (outer.setStatus .suspended) 1)
    (houter : outer.Valid) (status : Status) :
    (s.below status).above = outer.above ∧ (s.below status).base = outer.base := by
  obtain ⟨hbase, inner, hlength, habove⟩ := h
  match inner, hlength with
  | [top], _ =>
      cases hcases : outer.above with
      | nil =>
          have hroot : (outer.setStatus .suspended).base = outer.base := by
            have hinfo := houter.base
            obtain ⟨⟨info, payload⟩, above, retired, next⟩ := outer
            cases hinfo
            cases hcases
            rfl
          have hnil : (outer.setStatus .suspended).above = [] := by simp [setStatus, hcases]
          rw [hnil] at habove
          rw [hroot] at hbase
          simpa [FrameStack.below, habove] using hbase
      | cons frame rest =>
          have hactive := houter.active frame rest hcases
          have hframe : { frame with info := { frame.info with status := .active } } = frame := by
            rw [← hactive]
          have hkept : (outer.setStatus .suspended).base = outer.base := by
            simp [setStatus, hcases]
          have hcons : (outer.setStatus .suspended).above =
              { frame with info := { frame.info with status := .suspended } } :: rest := by
            simp [setStatus, hcases]
          rw [hcons] at habove
          rw [hkept] at hbase
          simpa [FrameStack.below, setStatus, habove, hframe] using hbase

end FrameStack

end Backtrack
