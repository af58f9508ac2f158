import Backtrack.Proofs.Engine.Reach

/-!
Matches under a guard.  The text that is read ends where the guard first stands in it
past its first character.  So a match reaches into no guard that was read to its end:
a guard that it does reach into ends behind the characters that were looked at.  A
literal looks at no more characters than it has itself, and is stopped only by a guard
that it spells out.
-/

namespace Backtrack

/-- The characters from the cursor to the next gap or to the end of the input. -/
def Cursor.stretch (c : Cursor) (units : List Symbol) : List Char :=
  ((units.drop c.offset).takeWhile (· != .gap)).filterMap Symbol.char?

def StandsAt (guard : String) (text : List Char) (i : Nat) : Prop :=
  guard.toList <+: text.drop i

instance (guard : String) (text : List Char) (i : Nat) : Decidable (StandsAt guard text i) :=
  inferInstanceAs (Decidable (guard.toList <+: text.drop i))

namespace Cursor

/-- Looking at `n` characters shows the first `n` of the stretch, and nothing while
holding. -/
theorem ahead_eq_take (c : Cursor) (units : List Symbol) (n : Nat) :
    c.ahead units n = if c.holding then [] else (c.stretch units).take n := by
  have htake : ∀ (l : List Symbol) (n : Nat),
      ((l.take n).takeWhile (· != .gap)).filterMap Symbol.char? =
        ((l.takeWhile (· != .gap)).filterMap Symbol.char?).take n := by
    intro l
    induction l with
    | nil => simp
    | cons symbol rest ih =>
        intro n
        cases n with
        | zero => simp
        | succ n =>
            cases symbol with
            | gap => simp
            | char x =>
                simpa [List.takeWhile_cons, Symbol.char?] using ih n
  rw [ahead, stretch, htake]

end Cursor

namespace Engine

/-! ## The text before a guard -/

theorem not_prefix_of_lt_before {guard text : List Char} {i : Nat}
    (h : i < (before guard text).length) : ¬ guard <+: text.drop i := by
  induction text generalizing i with
  | nil => simp [before] at h
  | cons c rest ih =>
      rw [before] at h
      split at h
      · cases h
      · next hnot =>
          cases i with
          | zero => exact fun hstands => hnot (List.isPrefixOf_iff_prefix.mpr hstands)
          | succ i => exact ih (Nat.lt_of_succ_lt_succ h)

theorem before_eq_self {guard text : List Char}
    (h : ∀ i, i < text.length → ¬ guard <+: text.drop i) : before guard text = text := by
  induction text with
  | nil => rfl
  | cons c rest ih =>
      have hnot : ¬ guard.isPrefixOf (c :: rest) = true := fun hstands =>
        h 0 (Nat.succ_pos _) (List.isPrefixOf_iff_prefix.mp hstands)
      rw [before, if_neg hnot, ih fun i hi => h (i + 1) (Nat.succ_lt_succ hi)]

theorem cutAtGuard_cons {guard : String} (hguard : guard ≠ "") (c : Char) (rest : List Char) :
    cutAtGuard (some guard) (c :: rest) = c :: before guard.toList rest := by
  cases hword : guard.toList with
  | nil => exact absurd (String.toList_eq_nil_iff.mp hword) hguard
  | cons g gs => simp [cutAtGuard, hword]

/-- No guard stands in the part that is left, past its first character. -/
theorem not_standsAt_of_lt_cutAtGuard {guard : String} {text : List Char} {i : Nat}
    (hguard : guard ≠ "") (hpos : 0 < i) (h : i < (cutAtGuard (some guard) text).length) :
    ¬ StandsAt guard text i := by
  obtain ⟨i, rfl⟩ := Nat.exists_eq_add_one.mpr hpos
  cases text with
  | nil =>
      have hnil := (cutAtGuard_isPrefix (some guard) []).length_le
      exact absurd (Nat.lt_of_lt_of_le h hnil) (Nat.not_lt_zero _)
  | cons c rest =>
      rw [cutAtGuard_cons hguard, List.length_cons] at h
      have hbefore : i < (before guard.toList rest).length := Nat.lt_of_succ_lt_succ h
      rw [StandsAt, List.drop_succ_cons]
      exact not_prefix_of_lt_before hbefore

theorem cutAtGuard_eq_self {guard : String} {text : List Char} (hguard : guard ≠ "")
    (h : ∀ i, 0 < i → i < text.length → ¬ StandsAt guard text i) :
    cutAtGuard (some guard) text = text := by
  cases text with
  | nil => exact List.prefix_nil.mp (cutAtGuard_isPrefix _ _)
  | cons c rest =>
      rw [cutAtGuard_cons hguard]
      congr 1
      exact before_eq_self fun i hi => h (i + 1) (Nat.succ_pos i) (Nat.succ_lt_succ hi)

/-! ## Matches -/

variable {config : Config} {e e' : Engine} {p : Pattern} {b b' : Buffer}

/-- A test consumes nothing, and answers what the pattern matches of the text that is
searched once it has arrived. -/
theorem answer_of_test {answer : Answer}
    (h : Yields (step config e (.test p) : Exec Answer _) b (answer, e') b') :
    e' = { e with executed := e.executed + 1 } ∧
      b'.Reached ((e.scope.cursor.offset + p.lookahead.getD config.matchWindow) % UInt64.size) ∧
      answer = ((p.matchStart? (e.scope.searched config b' p)).map
        (TokenRange.ofText · e.scope.cursor.offset)).elim .noMatch .tokens := by
  obtain ⟨_, hdispatch⟩ := yields_guard_iff.mp h
  obtain ⟨range, b₁, hmatch, hrest⟩ := yields_bind_iff.mp hdispatch
  obtain ⟨_, hreached, hrange⟩ := matchAt_eq_of_runs (yields_lift_iff.mp hmatch)
  rw [← show e.scope = Engine.scope { e with executed := e.executed + 1 } from rfl] at hrange
  cases range with
  | none =>
      obtain ⟨hpair, rfl⟩ := yields_pure_iff.mp hrest
      cases hpair
      exact ⟨rfl, hreached, by rw [← hrange]; rfl⟩
  | some range =>
      obtain ⟨hpair, rfl⟩ := yields_pure_iff.mp hrest
      cases hpair
      exact ⟨rfl, hreached, by rw [← hrange]; rfl⟩

/-- A match covers a start of the text that is searched. -/
theorem range_of_test {range : TokenRange}
    (h : Yields (step config e (.test p) : Exec Answer _) b (.tokens range, e') b') :
    range.start = e.scope.cursor.offset ∧ range.stop = range.start + range.text.length ∧
      range.text.toList <+: e.scope.searched config b' p := by
  obtain ⟨_, _, hanswer⟩ := answer_of_test h
  cases hfound : (p.matchStart? (e.scope.searched config b' p)).map
      (TokenRange.ofText · e.scope.cursor.offset) with
  | none =>
      rw [hfound] at hanswer
      cases hanswer
  | some found =>
      rw [hfound] at hanswer
      cases hanswer
      obtain ⟨hstart, hstop, hprefix⟩ := prefix_of_matchStart hfound
      exact ⟨hstart, hstart ▸ hstop, hprefix⟩

theorem length_le_searched {range : TokenRange}
    (h : Yields (step config e (.test p) : Exec Answer _) b (.tokens range, e') b') :
    range.length ≤ (e.scope.searched config b' p).length := by
  obtain ⟨_, hstop, hprefix⟩ := range_of_test h
  have hlength := hprefix.length_le
  rw [String.length_toList] at hlength
  rw [TokenRange.length, hstop, Nat.add_sub_cancel_left]
  exact hlength

/-- Where a match covers anything, all was there that the pattern may look at, if the end
of the window can be counted.  A literal that is matched is always there. -/
theorem textAhead_of_test {range : TokenRange}
    (hroom : p.lookahead = none → e.scope.cursor.offset + config.matchWindow < UInt64.size)
    (h : Yields (step config e (.test p) : Exec Answer _) b (.tokens range, e') b')
    (hpos : 0 < range.length) :
    e.scope.cursor.textAhead b' (p.lookahead.getD config.matchWindow) =
      e.scope.cursor.ahead b.content (p.lookahead.getD config.matchWindow) := by
  have hcontent : b'.content = b.content := Job.Runs.content_eq h
  rw [← hcontent]
  refine Cursor.textAhead_eq_ahead ?_
  obtain ⟨_, hreached, hanswer⟩ := answer_of_test h
  cases p with
  | regex source find =>
      have hcounted : e.scope.cursor.offset + config.matchWindow < UInt64.size := hroom rfl
      rw [Pattern.lookahead, Option.getD_none] at hreached ⊢
      rwa [Nat.mod_eq_of_lt hcounted] at hreached
  | literal text =>
      cases hfound : ((Pattern.literal text).matchStart?
          (e.scope.searched config b' (.literal text))).map
          (TokenRange.ofText · e.scope.cursor.offset) with
      | none =>
          rw [hfound] at hanswer
          cases hanswer
      | some found =>
          rw [hfound] at hanswer
          cases hanswer
          obtain ⟨hlength, harrived, _⟩ := literal_of_matchStart hfound
          refine Or.inl ?_
          rw [Pattern.lookahead, Option.getD_some]
          omega

/-- A match under a guard reaches into a guard past its first character only where the
guard ends behind the characters that were looked at.  So it reaches into none if it
leaves room for one there, which it always does for a guard of one character.  A regular
expression looks at its window, as long as the end of that can be counted. -/
theorem guard_behind_window {g : String} {range : TokenRange}
    (hguard : e.scope.regions.spans.guard = some g) (hne : g ≠ "")
    (hroom : p.lookahead = none → e.scope.cursor.offset + config.matchWindow < UInt64.size)
    (hmatch : Yields (step config e (.test p) : Exec Answer _) b (.tokens range, e') b') :
    let window := p.lookahead.getD config.matchWindow
    (∀ i, 0 < i → i < range.length → StandsAt g (e.scope.cursor.stretch b.content) i →
      window < i + g.length) ∧
    (range.length + g.length ≤ window + 1 ∨ g.length = 1 →
      ∀ i, 0 < i → i < range.length → ¬ StandsAt g (e.scope.cursor.stretch b.content) i) := by
  intro window
  have hlength := length_le_searched hmatch
  rw [Scope.searched, hguard] at hlength
  have hseen := Nat.le_trans hlength (cutAtGuard_isPrefix _ _).length_le
  have hreached : ∀ i, 0 < i → i < range.length →
      StandsAt g (e.scope.cursor.stretch b.content) i → window < i + g.length := by
    intro i hpos hi hstands
    have hahead := textAhead_of_test hroom hmatch (by omega)
    rw [hahead] at hlength hseen
    have hnot := not_standsAt_of_lt_cutAtGuard hne hpos (Nat.lt_of_lt_of_le hi hlength)
    refine Nat.lt_of_not_le fun hle => hnot ?_
    rw [Cursor.ahead_eq_take] at hseen ⊢
    split at hseen
    · exact absurd (Nat.lt_of_lt_of_le hi hseen) (Nat.not_lt_zero _)
    · next hfree =>
        rw [if_neg hfree, StandsAt, List.drop_take]
        exact List.prefix_take_iff.mpr ⟨hstands, by rw [String.length_toList]; omega⟩
  refine ⟨hreached, fun hleft i hpos hi hstands => ?_⟩
  have hbehind := hreached i hpos hi hstands
  have hwindow : range.length ≤ window :=
    Nat.le_trans hseen (Cursor.length_textAhead_le_count _ _ _)
  omega

def bracketed : List Instruction :=
  [.advance (.openNode (.typed "Root")), .advance (.reference { name := "opener" }),
    .advance (.openNode ((OpenTag.typed "Bracket").withAttribute "balanced" (.text "]]")
      |>.withAttribute "balancedSpan" (.text "Raw"))),
    .advance (.literal "[["), .advance .close]

def tested (config : Config) (e : Engine) (b : Buffer) (p : Pattern) : Option Answer :=
  match ((step config e (.test p) : Exec Answer _).run.poll b []).outcome with
  | .inl (.ok (answer, _)) => some answer
  | _ => none

theorem yields_of_tested {config : Config} {e : Engine} {b : Buffer} {p : Pattern}
    {answer : Answer} (h : tested config e b p = some answer) :
    ∃ e' b', Yields (step config e (.test p) : Exec Answer _) b (answer, e') b' := by
  unfold tested at h
  split at h
  · next answer' e' hpoll =>
      cases h
      have hruns := @Job.runs_of_poll Answer _ (step config e (.test p)).run b []
      exact ⟨e', _, hruns.1 _ hpoll⟩
  · cases h

def lettersOrBrackets : Pattern :=
  .ofExpr "[ab\\]]+" (.plus (.alt [.literal ['a'], .literal ['b'], .literal [']']]))

/-- The pattern could go on through the brackets, and stops before them. -/
theorem guard_behind_window_bracketed : ∃ (e e' : Engine) (b b' : Buffer) (range : TokenRange),
    Reachable {} (.ofText "[[ab]]") e b ∧ e.scope.regions.spans.guard = some "]]" ∧
      "]]" ≠ "" ∧
      Yields (step {} e (.test lettersOrBrackets) : Exec Answer _) b (.tokens range, e') b' ∧
      range = { text := "ab", start := 2, stop := 4 } ∧
      StandsAt "]]" (e.scope.cursor.stretch b.content) 2 ∧
      e.scope.cursor.offset + Config.matchWindow {} < UInt64.size ∧
      ∀ i, 0 < i → i < range.length →
        ¬ StandsAt "]]" (e.scope.cursor.stretch b.content) i := by
  have hfacts : (execute {} bracketed (start {}) (Buffer.fill (.ofText "[[ab]]") 1).1).map
      (fun reached =>
        let e := reached.1
        (e.scope.regions.spans.guard, tested {} e reached.2 lettersOrBrackets,
          e.scope.cursor.stretch reached.2.content)) =
      some (some "]]", some (.tokens { text := "ab", start := 2, stop := 4 }),
        ['a', 'b', ']', ']']) := by decide +kernel
  obtain ⟨⟨e, b⟩, hexecute, hreached⟩ := Option.map_eq_some_iff.mp hfacts
  simp only [Prod.mk.injEq] at hreached
  obtain ⟨hguard, htested, hstretch⟩ := hreached
  obtain ⟨e', b', hyields⟩ := yields_of_tested htested
  have hroom : e.scope.cursor.offset + Config.matchWindow {} < UInt64.size := by
    rw [← (range_of_test hyields).1]
    decide
  refine ⟨e, e', b, b', _, reachable_of_execute rfl hexecute, hguard, by decide, hyields, rfl,
    ?_, hroom, (guard_behind_window hguard (by decide) (fun _ => hroom) hyields).2
      (.inl (by decide))⟩
  rw [hstretch]
  decide

/-- A literal is tried on its own length of text only.  Where the brackets begin inside
of it and end behind it, they are not seen, and the match ends between them. -/
theorem not_before_guard_bracketSplit :
    ¬ ∀ (config : Config) (input b b' : Buffer) (e e' : Engine) (g : String) (p : Pattern)
      (range : TokenRange), Reachable config input e b →
      e.scope.regions.spans.guard = some g → g ≠ "" →
      Yields (step config e (.test p) : Exec Answer _) b (.tokens range, e') b' →
      ∀ i, 0 < i → i < range.length →
        ¬ StandsAt g (e.scope.cursor.stretch b.content) i := by
  intro hbefore
  have hfacts : (execute {} bracketed (start {}) (Buffer.fill (.ofText "[[a]]") 1).1).map
      (fun reached =>
        let e := reached.1
        (e.scope.regions.spans.guard, tested {} e reached.2 (.literal "a]"),
          e.scope.cursor.stretch reached.2.content)) =
      some (some "]]", some (.tokens { text := "a]", start := 2, stop := 4 }),
        ['a', ']', ']']) := by decide +kernel
  obtain ⟨⟨e, b⟩, hexecute, hreached⟩ := Option.map_eq_some_iff.mp hfacts
  simp only [Prod.mk.injEq] at hreached
  obtain ⟨hguard, htested, hstretch⟩ := hreached
  obtain ⟨e', b', hyields⟩ := yields_of_tested htested
  refine hbefore {} (.ofText "[[a]]") b b' e e' "]]" (.literal "a]") _
    (reachable_of_execute rfl hexecute) hguard (by decide) hyields 1 (by decide) (by decide) ?_
  rw [hstretch]
  decide

end Engine

end Backtrack
