import Backtrack.Text.Quoted
import Mathlib.Data.List.Basic

/-!
Quoted text can be read back.  Six characters are always written with a backslash and
a letter.  Which of the others are written by their code points may be chosen at will:
under any choice the quoted text tells where it ends and which text it stands for.
-/

namespace Backtrack

namespace Text

/-! ## Where a stretch of text ends -/

/-- The text does not go on with a character that passes the test. -/
def EndsRun (p : Char → Bool) (cs : List Char) : Prop := ∀ c, cs.head? = some c → p c = false

theorem endsRun_nil (p : Char → Bool) : EndsRun p [] := by
  intro c hc
  cases hc

theorem endsRun_cons {p : Char → Bool} {c : Char} (h : p c = false) (cs : List Char) :
    EndsRun p (c :: cs) := by
  intro d hd
  cases hd
  exact h

/-- Two runs that are followed by something else are told apart from what follows. -/
theorem append_inj_of_run {p : Char → Bool} {run run' tail tail' : List Char}
    (hrun : ∀ c ∈ run, p c = true) (hrun' : ∀ c ∈ run', p c = true) (htail : EndsRun p tail)
    (htail' : EndsRun p tail') (h : run ++ tail = run' ++ tail') : run = run' ∧ tail = tail' := by
  induction run generalizing run' with
  | nil =>
      cases run' with
      | nil => exact ⟨rfl, h⟩
      | cons c' rest' =>
          have hfirst : tail.head? = some c' := by simpa using congrArg List.head? h
          have hstop := htail c' hfirst
          simp [hrun' c' List.mem_cons_self] at hstop
  | cons c rest ih =>
      cases run' with
      | nil =>
          have hfirst : tail'.head? = some c := by simpa using (congrArg List.head? h).symm
          have hstop := htail' c hfirst
          simp [hrun c List.mem_cons_self] at hstop
      | cons c' rest' =>
          obtain ⟨rfl, hrest⟩ := List.cons.inj h
          have hends := ih (fun d hd => hrun d (List.mem_cons_of_mem _ hd))
            (fun d hd => hrun' d (List.mem_cons_of_mem _ hd)) hrest
          exact ⟨by rw [hends.1], hends.2⟩

/-! ## Code points -/

theorem digitChar_inj : ∀ m < 16, ∀ n < 16, Nat.digitChar m = Nat.digitChar n → m = n := by
  decide

theorem toDigits_inj {m n : Nat} (h : Nat.toDigits 16 m = Nat.toDigits 16 n) : m = n := by
  induction m using Nat.strongRecOn generalizing n with
  | ind m ih =>
      rw [Nat.toDigits_eq_if (by decide), Nat.toDigits_eq_if (b := 16) (n := n) (by decide)] at h
      by_cases hm : m < 16
      · by_cases hn : n < 16
        · rw [if_pos hm, if_pos hn] at h
          exact digitChar_inj m hm n hn (List.cons.inj h).1
        · rw [if_pos hm, if_neg hn] at h
          simpa using congrArg List.length h
      · by_cases hn : n < 16
        · rw [if_neg hm, if_pos hn] at h
          simpa using congrArg List.length h
        · rw [if_neg hm, if_neg hn] at h
          obtain ⟨hinit, hlast⟩ := List.append_inj' h rfl
          have hdiv : m / 16 = n / 16 := ih (m / 16) (by omega) hinit
          have hmod : m % 16 = n % 16 :=
            digitChar_inj _ (by omega) _ (by omega) (List.cons.inj hlast).1
          omega

theorem ne_brace_of_mem_toDigits {n : Nat} {c : Char} (h : c ∈ Nat.toDigits 16 n) :
    (c != '\x7d') = true := by
  induction n using Nat.strongRecOn with
  | ind n ih =>
      rw [Nat.toDigits_eq_if (by decide)] at h
      by_cases hn : n < 16
      · rw [if_pos hn, List.mem_singleton] at h
        rw [h, bne_iff_ne]
        exact Nat.digitChar_ne _ (by decide)
      · rw [if_neg hn, List.mem_append, List.mem_singleton] at h
        rcases h with h | h
        · exact ih (n / 16) (by omega) h
        · rw [h, bne_iff_ne]
          exact Nat.digitChar_ne _ (by decide)

/-! ## One character -/

/-- The characters that are written with a backslash and a letter. -/
def lettered : List Char := ['\x00', '\t', '\r', '\n', '"', '\\']

/-- The written form of a character inside quotes, when `hidden` says which characters
are written by their code points. -/
def escapeCharBy (hidden : Char → Bool) (c : Char) : List Char :=
  if c ∈ lettered then escapeChar c else if hidden c then escapeCode c else [c]

theorem escapeCharBy_isHidden (c : Char) : escapeCharBy isHidden c = escapeChar c := by
  unfold escapeCharBy
  by_cases h : c ∈ lettered
  · rw [if_pos h]
  · rw [if_neg h]
    simp only [lettered, List.mem_cons, List.not_mem_nil, or_false, not_or] at h
    simp [escapeChar, h]

def letterForms : List (Char × Char) :=
  [('0', '\x00'), ('t', '\t'), ('r', '\r'), ('n', '\n'), ('"', '"'), ('\\', '\\')]

/-- The forms that stand for a character, whatever the choice. -/
inductive Spells (c : Char) : List Char → Prop
  | letter {k : Char} : (k, c) ∈ letterForms → Spells c ['\\', k]
  | code : Spells c (escapeCode c)
  | plain : c ≠ '"' → c ≠ '\\' → Spells c [c]

theorem spells_escapeCharBy (hidden : Char → Bool) (c : Char) :
    Spells c (escapeCharBy hidden c) := by
  unfold escapeCharBy
  by_cases h : c ∈ lettered
  · rw [if_pos h]
    simp only [lettered, List.mem_cons, List.not_mem_nil, or_false] at h
    rcases h with rfl | rfl | rfl | rfl | rfl | rfl <;> exact .letter (by decide)
  · rw [if_neg h]
    by_cases hhidden : hidden c = true
    · rw [if_pos hhidden]
      exact .code
    · rw [if_neg hhidden]
      refine .plain ?_ ?_ <;> rintro rfl <;> exact h (by decide)

theorem Spells.head?_ne {c : Char} {form : List Char} (h : Spells c form) (tail : List Char) :
    (form ++ tail).head? ≠ some '"' := by
  cases h with
  | letter => simp
  | code => simp [escapeCode]
  | plain hquote => simpa using hquote

theorem letterForms_inj : ∀ a ∈ letterForms, ∀ b ∈ letterForms, a.1 = b.1 → a.2 = b.2 := by
  decide

theorem letterForms_ne : ∀ a ∈ letterForms, a.1 ≠ 'u' := by
  decide

/-- A form tells where it ends and which character it stands for. -/
theorem Spells.append_inj {c c' : Char} {form form' tail tail' : List Char} (h : Spells c form)
    (h' : Spells c' form') (heq : form ++ tail = form' ++ tail') : c = c' ∧ tail = tail' := by
  cases h with
  | @letter k hk =>
      cases h' with
      | @letter k' hk' =>
          simp only [List.cons_append, List.nil_append, List.cons.injEq, true_and] at heq
          exact ⟨letterForms_inj _ hk _ hk' heq.1, heq.2⟩
      | code =>
          simp only [escapeCode, List.cons_append, List.nil_append, List.cons.injEq,
            true_and] at heq
          exact absurd heq.1 (letterForms_ne _ hk)
      | plain _ hslash =>
          simp only [List.cons_append, List.nil_append, List.cons.injEq] at heq
          exact absurd heq.1.symm hslash
  | code =>
      cases h' with
      | @letter k' hk' =>
          simp only [escapeCode, List.cons_append, List.nil_append, List.cons.injEq,
            true_and] at heq
          exact absurd heq.1.symm (letterForms_ne _ hk')
      | code =>
          simp only [escapeCode, List.cons_append, List.nil_append, List.cons.injEq, true_and,
            List.append_assoc] at heq
          have hdigits := append_inj_of_run (fun _ => ne_brace_of_mem_toDigits)
            (fun _ => ne_brace_of_mem_toDigits) (endsRun_cons rfl tail) (endsRun_cons rfl tail') heq
          exact ⟨Char.toNat_inj.mp (toDigits_inj hdigits.1), (List.cons.inj hdigits.2).2⟩
      | plain _ hslash =>
          simp only [escapeCode, List.cons_append, List.nil_append, List.cons.injEq] at heq
          exact absurd heq.1.symm hslash
  | plain _ hslash =>
      cases h' with
      | letter =>
          simp only [List.cons_append, List.nil_append, List.cons.injEq] at heq
          exact absurd heq.1 hslash
      | code =>
          simp only [escapeCode, List.cons_append, List.nil_append, List.cons.injEq] at heq
          exact absurd heq.1 hslash
      | plain =>
          simp only [List.cons_append, List.nil_append, List.cons.injEq] at heq
          exact heq

/-! ## Quoted text -/

/-- A text between double quotes, when `hidden` says which characters are written by
their code points. -/
def quoteCharsBy (hidden : Char → Bool) (cs : List Char) : List Char :=
  '"' :: (cs.flatMap (escapeCharBy hidden) ++ ['"'])

theorem quoteCharsBy_isHidden (cs : List Char) : quoteCharsBy isHidden cs = quoteChars cs := by
  have hescape : escapeCharBy isHidden = escapeChar := funext escapeCharBy_isHidden
  rw [quoteCharsBy, quoteChars, hescape]
  rfl

theorem flatMap_escapeCharBy_inj {hidden : Char → Bool} {cs cs' tail tail' : List Char}
    (h : cs.flatMap (escapeCharBy hidden) ++ '"' :: tail =
      cs'.flatMap (escapeCharBy hidden) ++ '"' :: tail') : cs = cs' ∧ tail = tail' := by
  induction cs generalizing cs' with
  | nil =>
      cases cs' with
      | nil => exact ⟨rfl, (List.cons.inj h).2⟩
      | cons c' rest' =>
          rw [List.flatMap_cons, List.append_assoc] at h
          exact absurd (congrArg List.head? h).symm
            ((spells_escapeCharBy hidden c').head?_ne _)
  | cons c rest ih =>
      rw [List.flatMap_cons, List.append_assoc] at h
      cases cs' with
      | nil => exact absurd (congrArg List.head? h) ((spells_escapeCharBy hidden c).head?_ne _)
      | cons c' rest' =>
          rw [List.flatMap_cons, List.append_assoc] at h
          obtain ⟨rfl, hrest⟩ :=
            (spells_escapeCharBy hidden c).append_inj (spells_escapeCharBy hidden c') h
          obtain ⟨rfl, htail⟩ := ih hrest
          exact ⟨rfl, htail⟩

/-- A quoted text tells where it ends and which text it stands for. -/
theorem quoteCharsBy_append_inj {hidden : Char → Bool} {cs cs' tail tail' : List Char}
    (h : quoteCharsBy hidden cs ++ tail = quoteCharsBy hidden cs' ++ tail') :
    cs = cs' ∧ tail = tail' := by
  simp only [quoteCharsBy, List.cons_append, List.append_assoc, List.nil_append,
    List.cons.injEq, true_and] at h
  exact flatMap_escapeCharBy_inj h

end Text

end Backtrack
