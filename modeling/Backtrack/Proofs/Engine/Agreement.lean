import Backtrack.Proofs.Builder.Refusal
import Backtrack.Proofs.Engine.Accord
import Backtrack.Proofs.Engine.Guard
import Backtrack.Proofs.Engine.Lockstep
import Backtrack.Proofs.Engine.Rejection
import Mathlib.Data.List.Infix

/-!
Taking what was matched.  A test reads as far as its pattern may look, a literal only as
far as it is long, and each cuts what it read at the guard.  What the test matched lies
before that cut, so nothing of it is cut off again: taken as a literal, it is found where
it was matched, and the cursor goes to its end.
-/

namespace Backtrack

theorem Buffer.fill_of_reached {b : Buffer} {upto : Nat} (h : b.Reached upto) :
    b.fill upto = (b, true) := by
  obtain ⟨units, feed⟩ := b
  cases feed with
  | none => rfl
  | some feed =>
      have hsize : upto ≤ units.size := by
        rcases h with hsize | hexhausted
        · exact hsize
        · cases hexhausted
      obtain ⟨deliveries, staysOpen⟩ := feed
      show pull units staysOpen upto deliveries = _
      cases deliveries with
      | nil => rw [pull, if_pos hsize]
      | cons delivery rest => cases delivery <;> rw [pull, if_pos hsize]

/-- Looking no further than a word that was seen shows that word. -/
theorem Cursor.textAhead_of_isPrefix {c : Cursor} {b : Buffer} {n : Nat} {word : List Char}
    (h : word <+: c.textAhead b n) : c.textAhead b word.length = word := by
  rw [textAhead_eq, ahead_eq_take] at h ⊢
  split at h
  · next hholding =>
      rw [if_pos hholding, List.prefix_nil.mp h]
  · next hfree =>
      rw [if_neg hfree]
      exact (List.prefix_iff_eq_take.mp (h.trans (List.take_prefix _ _))).symm

namespace Job

variable {ω α β : Type}

theorem Runs.first {job : Job ω α} {f : α → Job ω β} {c : β} {b b' : Buffer}
    (h : (job.bind f).Runs b c b') : ∃ a b₁, job.Runs b a b₁ := by
  obtain ⟨a, b₁, hjob, _⟩ := runs_bind_iff.mp h
  exact ⟨a, b₁, hjob⟩

end Job

theorem Builder.advance_literal (b : Builder) (text : String) :
    (b.advance (.literal text)).2 =
      if b.node?.isSome then .ok (.tag (.literal text))
      else .error (.build (.noOpenNode "literal")) := by
  rw [advance_eq, BuildState.apply, BuildState.applyLiteral, BuildState.modifyNode,
    BuildState.requireOpen]
  cases hnode : b.node? with
  | none =>
      rw [openTop?_eq_none_iff.mpr hnode]
      rfl
  | some n =>
      obtain ⟨segment, rest, htop⟩ := openTop?_of_node? hnode
      rw [BuildState.openTop?_eq_some_iff.mpr htop]
      rfl

namespace Engine

/-! ## What was matched is not cut -/

/-- What lies before the cut is not cut again. -/
theorem cutAtGuard_of_isPrefix {guard : Option String} {text word : List Char}
    (h : word <+: cutAtGuard guard text) : cutAtGuard guard word = word := by
  cases guard with
  | none => rfl
  | some g =>
      by_cases hguard : g = ""
      · rw [hguard]
        rfl
      · refine cutAtGuard_eq_self hguard fun i hpos hi hstands => ?_
        have hcut : i < (cutAtGuard (some g) text).length := Nat.lt_of_lt_of_le hi h.length_le
        have hdrop := List.IsPrefix.drop (h.trans (cutAtGuard_isPrefix _ _)) i
        exact not_standsAt_of_lt_cutAtGuard hguard hpos hcut (hstands.trans hdrop)

/-- The text that a literal is tried on is the whole of a word that was searched. -/
theorem Scope.searched_literal {scope : Scope} {config : Config} {b : Buffer} {p : Pattern}
    {text : String} (h : text.toList <+: scope.searched config b p) :
    scope.searched config b (.literal text) = text.toList := by
  have hahead := Cursor.textAhead_of_isPrefix (h.trans (scope.searched_isPrefix config b p))
  rw [String.length_toList] at hahead
  show cutAtGuard _ (scope.cursor.textAhead b text.length) = _
  rw [hahead]
  exact cutAtGuard_of_isPrefix h

theorem matchStart?_literal (text : String) :
    (Pattern.literal text).matchStart? text.toList = some text.toList := by
  rw [Pattern.matchStart?, Pattern.matchLength?,
    if_pos (List.isPrefixOf_iff_prefix.mpr List.prefix_rfl), Option.map_some,
    ← String.length_toList, List.take_length]

variable {config : Config} {input b b' : Buffer} {e e' : Engine} {p : Pattern}
  {range : TokenRange}

theorem length_le_window {scope : Scope} {text : String}
    (h : text.toList <+: scope.searched config b p) :
    text.length ≤ p.lookahead.getD config.matchWindow := by
  have hlength := (h.trans (scope.searched_isPrefix config b p)).length_le
  rw [String.length_toList] at hlength
  exact Nat.le_trans hlength (Cursor.length_textAhead_le_count _ _ _)

theorem stop_le_size {scope : Scope} {text : String} (hoffset : scope.cursor.offset ≤ b.size)
    (h : text.toList <+: scope.searched config b p) :
    scope.cursor.offset + text.length ≤ b.size := by
  have hlength := Nat.le_trans h.length_le (scope.length_searched_le config b p)
  rw [String.length_toList] at hlength
  omega

/-! ## The literal -/

/-- What taking matched text comes to: the cursor goes to its end, unless there is no open
node for the text. -/
def taken (e : Engine) (range : TokenRange) : Except Error (Answer × Engine) :=
  if e.builder.node?.isSome then
    .ok (.output (.tag (.literal range.text)),
      e.moved (e.builder.advance (.literal range.text)).1
        { e.scope with cursor := { e.scope.cursor with offset := range.stop } })
  else .error (.build (.noOpenNode "literal"))

/-- The literal is found at the cursor, in `b`, as `range`. -/
structure Found (config : Config) (e : Engine) (range : TokenRange) (b : Buffer) : Prop where
  start : range.start = e.scope.cursor.offset
  stop : range.stop = range.start + range.text.length
  arrived : range.stop ≤ b.size
  passes : (matchAt config e.scope (.literal range.text) : Job Answer _).Runs b (some range) b

theorem Found.stop_eq (h : Found config e range b) :
    e.scope.cursor.offset + range.length = range.stop := by
  have hstop := h.stop
  rw [TokenRange.length, ← h.start]
  omega

theorem Found.executed (h : Found config e range b) (executed : Nat) :
    Found config { e with executed } range b :=
  ⟨h.start, h.stop, h.arrived, h.passes⟩

theorem Found.advanceCursor (h : Found config e range b) {b₁ : Buffer}
    (hawait : (Job.await (range.stop + 1) : Job Answer Buffer).Runs b b₁ b₁) :
    Yields (e.advanceCursor range.length : Exec Answer Engine) b
      (e.setCursor { e.scope.cursor with offset := range.stop }) b₁ := by
  have hstop := h.stop_eq
  have hsize : e.scope.cursor.offset + range.length ≤ b₁.size := by
    rw [hstop]
    exact Nat.le_trans h.arrived hawait.size_le
  have htry : e.scope.cursor.tryAdvance b₁ range.length =
      .ok { e.scope.cursor with offset := range.stop } := by
    rw [Cursor.tryAdvance_of_le hsize, hstop]
  have hadvance : (e.scope.cursor.advance range.length : Job Answer _).Runs b
      (.ok { e.scope.cursor with offset := range.stop }) b₁ := by
    rw [← hstop] at hawait
    refine Job.runs_bind_iff.mpr ⟨b₁, b₁, hawait, ?_⟩
    rw [htry]
    exact .done
  unfold Engine.advanceCursor
  refine yields_bind_iff.mpr ⟨_, b₁, yields_lift_iff.mpr hadvance, ?_⟩
  exact yields_bind_iff.mpr ⟨_, b₁, yields_mk_iff.mpr ⟨rfl, rfl⟩, yields_pure_iff.mpr ⟨rfl, rfl⟩⟩

theorem Found.runs_dispatch (h : Found config e range b) {b₁ : Buffer}
    (hawait : (Job.await (range.stop + 1) : Job Answer Buffer).Runs b b₁ b₁) :
    (dispatch config e (.advance (.literal range.text)) : Exec Answer _).run.Runs b
      (e.taken range) b₁ := by
  have hmatch := yields_lift_iff.mpr h.passes
  have hcursor := h.advanceCursor hawait
  have hbuilder := e.builder.advance_literal range.text
  rw [taken]
  by_cases hopen : e.builder.node?.isSome = true
  · rw [if_pos hopen] at hbuilder ⊢
    have hbuild := @yields_build Answer _ (e.setCursor { e.scope.cursor with offset := range.stop })
      (·.advance (.literal range.text)) _ _ (Prod.ext rfl hbuilder) b₁
    have hliteral : Yields (advance config e (.literal range.text) : Exec Answer _) b _ b₁ :=
      yields_bind_iff.mpr ⟨_, b, hmatch, yields_bind_iff.mpr ⟨_, b₁, hcursor, hbuild⟩⟩
    have hmoved := modifyScope_eq_moved e (e.builder.advance (.literal range.text)).1 fun s =>
      { s with cursor := { e.scope.cursor with offset := range.stop } }
    rw [← hmoved]
    exact yields_bind_iff.mpr ⟨_, b₁, hliteral, yields_pure_iff.mpr ⟨rfl, rfl⟩⟩
  · rw [if_neg hopen] at hbuilder ⊢
    have hbuild := @fails_build Answer _ (e.setCursor { e.scope.cursor with offset := range.stop })
      (·.advance (.literal range.text)) _ hbuilder b₁
    have hliteral : Fails (advance config e (.literal range.text) : Exec Answer _) b
        (.build (.noOpenNode "literal")) b₁ :=
      Yields.bind_fails hmatch (Yields.bind_fails hcursor hbuild)
    exact hliteral.bind _

/-- The literal is taken once the unit behind it has arrived or the input has ended. -/
theorem Found.runs_dispatch_iff (h : Found config e range b) {result : Except Error _}
    {b₁ : Buffer} :
    (dispatch config e (.advance (.literal range.text)) : Exec Answer _).run.Runs b result b₁ ↔
      (Job.await (range.stop + 1) : Job Answer Buffer).Runs b b₁ b₁ ∧ result = e.taken range := by
  constructor
  · intro hruns
    obtain ⟨_, _, hadvance⟩ := Job.Runs.first hruns
    obtain ⟨found, b₂, hmatch, hrest⟩ := Job.runs_bind_iff.mp hadvance
    obtain ⟨rfl, rfl⟩ := Job.Runs.unique (yields_lift_iff.mpr h.passes) hmatch
    obtain ⟨_, _, hcursor⟩ := Job.Runs.first hrest
    obtain ⟨_, _, hlift⟩ := Job.Runs.first hcursor
    obtain ⟨_, _, hmove⟩ := Job.Runs.first hlift
    obtain ⟨b₃, b₄, hawait⟩ := Job.Runs.first hmove
    obtain ⟨rfl, _⟩ := Job.reached_of_await hawait
    rw [h.stop_eq] at hawait
    obtain ⟨rfl, rfl⟩ := Job.Runs.unique (h.runs_dispatch hawait) hruns
    exact ⟨hawait, rfl⟩
  · rintro ⟨hawait, rfl⟩
    exact h.runs_dispatch hawait

theorem Reachable.found (hreach : Reachable config input e b)
    (hmatch : Yields (Engine.step config e (.test p) : Exec Answer _) b (.tokens range, e') b') :
    Found config e' range b' := by
  obtain ⟨hstart, hstop, hsearched⟩ := range_of_test hmatch
  obtain ⟨rfl, _, _⟩ := answer_of_test hmatch
  obtain ⟨levels, hinStep⟩ := hreach.exists_inStep
  have hoffset : e.scope.cursor.offset ≤ b'.size :=
    Nat.le_trans hinStep.here.2 (Job.Runs.size_le hmatch)
  have harrived := stop_le_size hoffset hsearched
  refine ⟨hstart, hstop, ?_, ?_⟩
  · rw [hstop, hstart]
    exact harrived
  · have hcounted := Nat.le_trans (Nat.mod_le _ UInt64.size) harrived
    have hpeek : (e.scope.cursor.peek range.text.length : Job Answer _).Runs b'
        (e.scope.cursor.textAhead b' range.text.length) b' :=
      .fill (Buffer.fill_of_reached (Or.inl hcounted)) .done
    have htext : cutAtGuard e.scope.regions.spans.guard
        (e.scope.cursor.textAhead b' range.text.length) = range.text.toList :=
      Scope.searched_literal hsearched
    have hrange : TokenRange.ofText range.text.toList e.scope.cursor.offset = range := by
      rw [TokenRange.ofText, String.ofList_toList, String.length_toList, ← hstart, ← hstop]
    refine Job.runs_bind_iff.mpr ⟨_, b', hpeek, ?_⟩
    refine Job.runs_done_iff.mpr ⟨?_, rfl⟩
    have hfound : ((Pattern.literal range.text).matchStart? range.text.toList).map
        (TokenRange.ofText · e.scope.cursor.offset) = some range := by
      rw [matchStart?_literal, Option.map_some, hrange]
    rw [← hfound, ← htext]
    rfl

/-- What a test that matched says, and what it comes to when the text is then taken. -/
structure Agrees (config : Config) (p : Pattern) (range : TokenRange) (e e' : Engine)
    (b b' : Buffer) : Prop where
  start : range.start = e.scope.cursor.offset
  stop : range.stop = range.start + range.text.length
  window : range.text.length ≤ p.lookahead.getD config.matchWindow
  spelled : (b.content.drop range.start).take range.text.length = Symbol.ofText range.text
  engine : e' = { e with executed := e.executed + 1 }
  content : b'.content = b.content
  /-- All that the literal looks at has arrived. -/
  found : (matchAt config e'.scope (.literal range.text) : Job Answer _).Runs b' (some range) b'
  dispatched : ∀ result b'',
    (dispatch config e' (.advance (.literal range.text)) : Exec Answer _).run.Runs b' result b'' ↔
      (Job.await (range.stop + 1) : Job Answer Buffer).Runs b' b'' b'' ∧
        result = e'.taken range
  /-- The limit is looked at before the instruction. -/
  stepped : ∀ result b'',
    (step config e' (.advance (.literal range.text)) : Exec Answer _).run.Runs b' result b'' ↔
      if e'.executed < config.maxInstructions then
        (Job.await (range.stop + 1) : Job Answer Buffer).Runs b' b'' b'' ∧
          result = taken { e' with executed := e'.executed + 1 } range
      else
        result = .error (.instructionLimitExceeded (e'.executed + 1) config.maxInstructions) ∧
          b'' = b'

/-- What a test matched can be taken as a literal, if only there is an open node for it. -/
theorem literal_agrees (hreach : Reachable config input e b)
    (hmatch : Yields (step config e (.test p) : Exec Answer _) b (.tokens range, e') b') :
    Agrees config p range e e' b b' := by
  have hfound := hreach.found hmatch
  obtain ⟨hstart, hstop, hsearched⟩ := range_of_test hmatch
  obtain ⟨hspelled, _⟩ :=
    Cursor.ofText_isPrefix_of_ahead
      ((hsearched.trans (e.scope.searched_isPrefix config b' p)).trans
        (Cursor.textAhead_isPrefix _ _ _))
  have hcontent : b'.content = b.content := Job.Runs.content_eq hmatch
  rw [hcontent] at hspelled
  refine ⟨hstart, hstop, length_le_window hsearched, ?_, (answer_of_test hmatch).1,
    hmatch.content_eq, hfound.passes, fun _ _ => hfound.runs_dispatch_iff, fun result b'' => ?_⟩
  · have htake := (List.prefix_iff_eq_take.mp hspelled).symm
    rwa [Symbol.ofText, List.length_map, String.length_toList, ← hstart] at htake
  · by_cases hlimit : e'.executed < config.maxInstructions
    · rw [if_pos hlimit, step_eq_dispatch hlimit]
      exact (hfound.executed _).runs_dispatch_iff
    · rw [if_neg hlimit, step_eq_throw (Nat.lt_succ_of_le (Nat.le_of_not_lt hlimit))]
      exact Job.runs_done_iff

/-- The letters before the brackets are taken as what they are. -/
theorem literal_agrees_bracketed : ∃ (e e' : Engine) (b b' : Buffer) (range : TokenRange),
    Reachable {} (.ofText "[[ab]]") e b ∧
      Yields (step {} e (.test lettersOrBrackets) : Exec Answer _) b (.tokens range, e') b' ∧
      range = { text := "ab", start := 2, stop := 4 } ∧
      Agrees {} lettersOrBrackets range e e' b b' := by
  have hfacts : (execute {} bracketed (start {}) (Buffer.fill (.ofText "[[ab]]") 1).1).map
      (fun reached => tested {} reached.1 reached.2 lettersOrBrackets) =
      some (some (.tokens { text := "ab", start := 2, stop := 4 })) := by decide +kernel
  obtain ⟨⟨e, b⟩, hexecute, htested⟩ := Option.map_eq_some_iff.mp hfacts
  obtain ⟨e', b', hyields⟩ := yields_of_tested htested
  have hreach : Reachable {} (.ofText "[[ab]]") e b := reachable_of_execute rfl hexecute
  exact ⟨e, e', b, b', _, hreach, hyields, rfl, literal_agrees hreach hyields⟩

end Engine

end Backtrack
