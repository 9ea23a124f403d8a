import Mathlib.Logic.Basic
import TunnelKeeper.Toml.Quote
import TunnelKeeper.Toml.Writer

/-!
Strings of a TOML text are read back as they were written, in whichever of the four forms.
-/

namespace TunnelKeeper.Toml

/-! ### Characters -/

lemma ne_of_test {test : Char → Bool} {c d : Char} (holds : test c) (fails : test d = false) :
    c ≠ d := by
  rintro rfl
  rw [holds] at fails
  cases fails

/-- The string goes on behind a character. -/
def behind (c : Char) (read : Option (List Char × List Char)) : Option (List Char × List Char) :=
  read.map fun (cs, rest) => (c :: cs, rest)

@[simp]
lemma behind_some (c : Char) (cs rest : List Char) :
    behind c (some (cs, rest)) = some (c :: cs, rest) := rfl

lemma hexValue?_digitChar {n : Nat} (small : n < 16) :
    Json.hexValue? (Nat.digitChar n).toUpper = some n := by
  have all : ∀ n : Fin 16, Json.hexValue? (Nat.digitChar n).toUpper = some n.val := by decide
  exact all ⟨n, small⟩

lemma toNat_of_isControl {c : Char} (control : isControl c) : c.toNat < 128 := by
  unfold isControl at control
  simp only [Bool.or_eq_true, Bool.and_eq_true, decide_eq_true_eq] at control
  omega

lemma scalarValue?_control {c : Char} (control : isControl c) :
    (Json.hexFour? '0' '0' (Nat.digitChar (c.toNat / 16)).toUpper
      (Nat.digitChar (c.toNat % 16)).toUpper).bind scalarValue? = some c := by
  have small := toNat_of_isControl control
  have high := hexValue?_digitChar (show c.toNat / 16 < 16 by omega)
  have low := hexValue?_digitChar (show c.toNat % 16 < 16 by omega)
  have zero : Json.hexValue? '0' = some 0 := rfl
  have whole : c.toNat / 16 * 16 + c.toNat % 16 = c.toNat := by omega
  have scalar : scalarValue? c.toNat = some c := by
    unfold scalarValue?
    rw [if_pos (Or.inl (by omega)), Char.ofNat_toNat]
  simp [Json.hexFour?, high, low, zero, whole, scalar]

lemma plain_of_not_control {c : Char} (free : isControl c = false) : isPlain c ∨ c = '\n' := by
  unfold isControl at free
  unfold isPlain
  simp only [Bool.or_eq_false_iff, Bool.and_eq_false_iff, decide_eq_false_iff_not, not_not] at free
  simp only [Bool.or_eq_true, Bool.and_eq_true, decide_eq_true_eq]
  obtain ⟨(low | rfl) | rfl, rubout⟩ := free
  · exact .inl (.inr ⟨by omega, rubout⟩)
  · exact .inl (.inl rfl)
  · exact .inr rfl

/-- How a character stands for itself, or behind a backslash. -/
inductive Escaped (c : Char) : List Char → Prop where
  | letter {e : Char} (means : unescape? e = some c) : Escaped c ['\\', e]
  | number (control : isControl c) : Escaped c ['\\', 'u', '0', '0',
      (Nat.digitChar (c.toNat / 16)).toUpper, (Nat.digitChar (c.toNat % 16)).toUpper]
  | plain (free : isControl c = false) (slash : c ≠ '\\') : Escaped c [c]

lemma escaped_escape (c : Char) : Escaped c (escape c) := by
  unfold escape
  split
  · next eq => exact .letter (by rw [eq]; rfl)
  split
  · next eq => exact .letter (by rw [eq]; rfl)
  split
  · next eq => exact .letter (by rw [eq]; rfl)
  split
  · next eq => exact .letter (by rw [eq]; rfl)
  split
  · next eq => exact .letter (by rw [eq]; rfl)
  split
  · next control => exact .number control
  · next slash free => exact .plain (Bool.eq_false_iff.2 free) slash

lemma escaped_escapeLine (c : Char) : Escaped c (escapeLine c) := by
  unfold escapeLine
  split
  · next eq => exact .letter (by rw [eq]; rfl)
  split
  · next eq => exact .letter (by rw [eq]; rfl)
  · exact escaped_escape c

/-! ### On one line -/

/-- On one line neither a quote nor a line end may stand for itself. -/
lemma basicChars_escaped {c : Char} {written : List Char} (escaped : Escaped c written)
    (other : written = [c] → c ≠ '"' ∧ c ≠ '\n') (rest : List Char) :
    basicChars (written ++ rest) = behind c (basicChars rest) := by
  cases escaped with
  | letter means =>
    rw [List.cons_append, List.cons_append, List.nil_append, basicChars, means]
    · cases basicChars rest <;> rfl
    · rintro _ _ _ _ _ rfl
      cases means
    · rintro _ _ _ _ _ _ _ _ _ rfl
      cases means
  | number control =>
    obtain ⟨n, hex, scalar⟩ := Option.bind_eq_some_iff.1 (scalarValue?_control control)
    simp only [List.cons_append, List.nil_append]
    rw [basicChars, hex]
    simp only [Option.bind_eq_bind, Option.bind_some, scalar]
    cases basicChars rest <;> rfl
  | plain free slash =>
    obtain ⟨quote, line⟩ := other rfl
    have plain := (plain_of_not_control free).resolve_right line
    rw [List.singleton_append, basicChars, if_pos (by simp [plain, slash])]
    · cases basicChars rest <;> rfl
    · exact quote
    · exact fun _ _ _ _ _ eq => absurd eq slash
    · exact fun _ _ _ _ _ _ _ _ _ eq => absurd eq slash
    · exact fun _ _ eq => absurd eq slash

lemma basicChars_escapeLine (c : Char) (rest : List Char) :
    basicChars (escapeLine c ++ rest) = behind c (basicChars rest) := by
  refine basicChars_escaped (escaped_escapeLine c) (fun alone => ⟨?_, ?_⟩) rest
  · rintro rfl
    cases alone
  · rintro rfl
    cases alone

/-- A basic string on one line can hold any text. -/
lemma basicChars_flatMap (cs rest : List Char) :
    basicChars (cs.flatMap escapeLine ++ '"' :: rest) = some (cs, rest) := by
  induction cs with
  | nil => rfl
  | cons c cs ih =>
    rw [List.flatMap_cons, List.append_assoc, basicChars_escapeLine, ih, behind_some]

lemma literalChars_append {cs : List Char} (plain : ∀ c ∈ cs, isPlain c ∧ c ≠ '\'')
    (rest : List Char) : literalChars (cs ++ '\'' :: rest) = some (cs, rest) := by
  induction cs with
  | nil => rfl
  | cons c cs ih =>
    obtain ⟨⟨here, quote⟩, plain⟩ := List.forall_mem_cons.1 plain
    rw [List.cons_append, literalChars, if_pos here, ih plain]
    · rfl
    · exact quote

/-! ### On several lines -/

/-- On several lines a quote may stand for itself, if no two more follow. -/
lemma multiBasicChars_escaped {c : Char} {written rest : List Char} (escaped : Escaped c written)
    (apart : written = ['"'] → ∀ more, rest ≠ '"' :: '"' :: more) :
    multiBasicChars .none (written ++ rest) = behind c (multiBasicChars .none rest) := by
  cases escaped with
  | @letter e means =>
    rw [List.cons_append, List.cons_append, List.nil_append, multiBasicChars]
    · have ended : e ≠ '\n' := by
        rintro rfl
        cases means
      have joined : isSpace e = false := by
        rw [Bool.eq_false_iff]
        intro space
        simp only [isSpace, Bool.or_eq_true, decide_eq_true_eq] at space
        rcases space with rfl | rfl <;> cases means
      rw [if_neg ended, joined, means]
      cases multiBasicChars .none rest <;> rfl
    · rintro _ _ _ _ _ rfl
      cases means
    · rintro _ _ _ _ _ _ _ _ _ rfl
      cases means
    · rintro _ rfl
      cases means
    · nofun
  | number control =>
    obtain ⟨n, hex, scalar⟩ := Option.bind_eq_some_iff.1 (scalarValue?_control control)
    simp only [List.cons_append, List.nil_append]
    rw [multiBasicChars, hex]
    · simp only [Option.bind_eq_bind, Option.bind_some, scalar]
      cases multiBasicChars .none rest <;> rfl
    · nofun
  | plain free slash =>
    have quotes : ∀ more, c = '"' → rest ≠ '"' :: '"' :: more :=
      fun more quote => apart (by rw [quote]) more
    have kept : (isPlain c && decide (c ≠ '\\') || decide (c = '\n')) = true := by
      rcases plain_of_not_control free with plain | line
      · simp [plain, slash]
      · simp [line]
    rw [List.singleton_append, multiBasicChars, if_pos kept]
    · cases multiBasicChars .none rest <;> rfl
    · exact fun more quote eq => quotes _ quote eq
    · exact fun more quote eq => quotes _ quote eq
    · exact fun more quote eq => quotes _ quote eq
    · exact fun _ _ _ _ _ eq => absurd eq slash
    · exact fun _ _ _ _ _ _ _ _ _ eq => absurd eq slash
    · exact fun _ eq => absurd eq slash
    · exact fun _ _ eq => absurd eq slash
    · rintro _ rfl
      cases free
    all_goals nofun

lemma head_escape {c : Char} (quote : c ≠ '"') (rest more : List Char) :
    escape c ++ rest ≠ '"' :: more := by
  have escaped := escaped_escape c
  generalize escape c = written at escaped
  cases escaped with
  | letter means => simp
  | number control => simp
  | plain free slash => simp [quote]

lemma multiBasicChars_escape {c : Char} (quote : c ≠ '"') (rest : List Char) :
    multiBasicChars .none (escape c ++ rest) = behind c (multiBasicChars .none rest) := by
  refine multiBasicChars_escaped (escaped_escape c) fun alone more => ?_
  have begun := head_escape quote [] []
  rw [alone] at begun
  exact absurd rfl begun

/-- The text behind a run of quotes that may not go on is not a quote. -/
lemma head_escapeLines {c : Char} {cs : List Char} {run : Nat} (other : c ≠ '"' ∨ run = 2)
    (rest more : List Char) : escapeLines (c :: cs) run ++ rest ≠ '"' :: more := by
  rw [escapeLines]
  split
  · next quote =>
    rw [if_pos (other.resolve_left fun ne => ne quote)]
    simp
  · next quote =>
    rw [List.append_assoc]
    exact head_escape quote _ more

/-- Three quotes in a row stand only at the end. -/
lemma quotes_escapeLines (cs : List Char) {run : Nat} (few : run < 2) (rest : List Char) :
    cs = [] ∨ run = 0 ∧ cs = ['"'] ∨
      ∀ more, escapeLines cs (run + 1) ++ rest ≠ '"' :: '"' :: more := by
  cases cs with
  | nil => exact .inl rfl
  | cons c cs =>
    by_cases other : c ≠ '"' ∨ run + 1 = 2
    · exact .inr (.inr fun more => head_escapeLines other rest _)
    · rw [not_or, not_not] at other
      obtain ⟨rfl, first⟩ := other
      obtain rfl : run = 0 := by omega
      cases cs with
      | nil => exact .inr (.inl ⟨rfl, rfl⟩)
      | cons d ds =>
        refine .inr (.inr fun more eq => ?_)
        rw [escapeLines, if_pos rfl, if_neg (by decide), List.cons_append] at eq
        exact head_escapeLines (.inr rfl) rest more (List.cons.inj eq).2

/-- A basic string on several lines can hold any text, with up to two quotes directly before the
closing ones. -/
lemma multiBasicChars_escapeLines (cs : List Char) (run : Nat) (few : run ≤ 2) (rest : List Char) :
    multiBasicChars .none (escapeLines cs run ++ '"' :: '"' :: '"' :: '\n' :: rest) =
      some (cs, '\n' :: rest) := by
  induction cs generalizing run with
  | nil => rfl
  | cons c cs ih =>
    rw [escapeLines]
    split
    · next quote =>
      subst quote
      split
      · -- the third quote of a run is escaped
        have escaped : Escaped '"' ['\\', '"'] := .letter rfl
        refine (multiBasicChars_escaped escaped nofun).trans ?_
        change behind '"' (multiBasicChars .none (escapeLines cs 0 ++ _)) = _
        rw [ih 0 (by omega), behind_some]
      · next more =>
        have few : run < 2 := by omega
        rcases quotes_escapeLines cs few ('"' :: '"' :: '"' :: '\n' :: rest) with
          rfl | ⟨rfl, rfl⟩ | apart
        · rfl
        · rfl
        · have itself : Escaped '"' ['"'] := .plain rfl (by decide)
          refine (multiBasicChars_escaped itself fun _ => apart).trans ?_
          rw [ih (run + 1) (by omega), behind_some]
    · next quote =>
      rw [List.append_assoc, multiBasicChars_escape quote, ih 0 (by omega), behind_some]

/-! ### Literal strings on several lines -/

lemma longestRun_mono (c : Char) (cs : List Char) {run run' : Nat} (le : run ≤ run') :
    longestRun c cs run ≤ longestRun c cs run' := by
  induction cs generalizing run run' with
  | nil => exact le
  | cons d cs ih =>
    rw [longestRun, longestRun]
    split
    · exact ih (Nat.succ_le_succ le)
    · omega

lemma le_longestRun (c : Char) (cs : List Char) (run : Nat) : run ≤ longestRun c cs run := by
  induction cs generalizing run with
  | nil => exact Nat.le_refl run
  | cons d cs ih =>
    rw [longestRun]
    split
    · exact Nat.le_of_succ_le (ih (run + 1))
    · omega

lemma longestRun_cons_le (c d : Char) (cs : List Char) :
    longestRun c cs 0 ≤ longestRun c (d :: cs) 0 := by
  rw [longestRun]
  split
  · exact longestRun_mono c cs (Nat.zero_le _)
  · omega

lemma quotes_of_longestRun (cs : List Char) (few : longestRun '\'' ('\'' :: cs) 0 ≤ 2)
    (rest : List Char) : cs = [] ∨ cs = ['\''] ∨
      ∀ more, cs ++ rest ≠ '\'' :: '\'' :: more := by
  match cs with
  | [] => exact .inl rfl
  | [c] =>
    by_cases eq : c = '\''
    · exact .inr (.inl (by rw [eq]))
    · exact .inr (.inr fun more alike => eq (List.cons.inj alike).1)
  | c :: d :: ds =>
    refine .inr (.inr fun more eq => ?_)
    have second := (List.cons.inj eq).2
    obtain rfl := (List.cons.inj eq).1
    obtain rfl := (List.cons.inj second).1
    simp only [longestRun, if_true] at few
    have three := le_longestRun '\'' ds (0 + 1 + 1 + 1)
    omega

lemma multiLiteralChars_plain {c : Char} (free : isControl c = false) {rest : List Char}
    (quotes : ∀ more, c = '\'' → rest ≠ '\'' :: '\'' :: more) :
    multiLiteralChars (c :: rest) = behind c (multiLiteralChars rest) := by
  have kept : (isPlain c || decide (c = '\n')) = true := by
    simpa using plain_of_not_control free
  rw [multiLiteralChars, if_pos kept]
  · cases multiLiteralChars rest <;> rfl
  · exact fun more quote eq => quotes _ quote eq
  · exact fun more quote eq => quotes _ quote eq
  · exact fun more quote eq => quotes _ quote eq
  · rintro _ rfl
    cases free

/-- A literal string on several lines holds characters that need no escape, unless three quotes
stand in a row. -/
lemma multiLiteralChars_append {cs : List Char} (free : ∀ c ∈ cs, isControl c = false)
    (few : longestRun '\'' cs 0 ≤ 2) (rest : List Char) :
    multiLiteralChars (cs ++ '\'' :: '\'' :: '\'' :: '\n' :: rest) = some (cs, '\n' :: rest) := by
  induction cs with
  | nil => rfl
  | cons c cs ih =>
    obtain ⟨here, free⟩ := List.forall_mem_cons.1 free
    have ih := ih free (Nat.le_trans (longestRun_cons_le _ _ _) few)
    by_cases quote : c = '\''
    · subst quote
      rcases quotes_of_longestRun cs few ('\'' :: '\'' :: '\'' :: '\n' :: rest) with
        rfl | rfl | apart
      · rfl
      · rfl
      · rw [List.cons_append, multiLiteralChars_plain here fun more _ => apart more, ih,
          behind_some]
    · rw [List.cons_append, multiLiteralChars_plain here fun _ eq => absurd eq quote, ih,
        behind_some]

/-! ### All forms -/

lemma not_control_of_any {cs : List Char} (free : ¬ cs.any isControl = true) :
    ∀ c ∈ cs, isControl c = false := by
  simpa using free

lemma plain_of_literal {cs : List Char} (form : quoteForm cs = .literal) :
    ∀ c ∈ cs, isPlain c ∧ c ≠ '\'' := by
  have apt : ¬ cs.any isControl = true ∧ '\'' ∉ cs ∧ '\n' ∉ cs := by
    unfold quoteForm at form
    grind
  intro c mem
  have plain := plain_of_not_control (not_control_of_any apt.1 c mem)
  exact ⟨plain.resolve_right fun eq => apt.2.2 (eq ▸ mem), fun eq => apt.2.1 (eq ▸ mem)⟩

lemma few_of_multiLiteral {cs : List Char} (form : quoteForm cs = .multiLiteral) :
    (∀ c ∈ cs, isControl c = false) ∧ longestRun '\'' cs 0 ≤ 2 := by
  have apt : ¬ cs.any isControl = true ∧ longestRun '\'' cs 0 ≤ 2 := by
    unfold quoteForm at form
    grind
  exact ⟨not_control_of_any apt.1, apt.2⟩

lemma dropNewline_line (cs : List Char) : dropNewline ('\n' :: cs) = cs := rfl

lemma dropNewline_other {c : Char} (line : c ≠ '\n') (ret : c ≠ '\x0d') (cs : List Char) :
    dropNewline (c :: cs) = c :: cs := by
  unfold dropNewline
  rw [newline?]
  · rfl
  · rintro _ ⟨⟩
    exact line rfl
  · rintro _ ⟨⟩
    exact ret rfl

/-- What is written behind the opening quotes has no line end in front, unless the text has. -/
lemma dropNewline_escapeLines {cs : List Char} (lines : '\n' ∉ cs) (rest : List Char) :
    dropNewline (escapeLines cs 0 ++ '"' :: rest) = escapeLines cs 0 ++ '"' :: rest := by
  cases cs with
  | nil => exact dropNewline_other (by decide) (by decide) _
  | cons c cs =>
    rw [escapeLines]
    split
    · exact dropNewline_other (by decide) (by decide) _
    · have line : c ≠ '\n' := fun eq => lines (eq ▸ List.mem_cons_self)
      have escaped := escaped_escape c
      generalize escape c = written at escaped
      cases escaped with
      | letter means => exact dropNewline_other (by decide) (by decide) _
      | number control => exact dropNewline_other (by decide) (by decide) _
      | plain free slash =>
        refine dropNewline_other line ?_ _
        rintro rfl
        cases free

lemma dropNewline_append {cs : List Char} (free : ∀ c ∈ cs, isControl c = false)
    (lines : '\n' ∉ cs) (rest : List Char) :
    dropNewline (cs ++ '\'' :: rest) = cs ++ '\'' :: rest := by
  cases cs with
  | nil => exact dropNewline_other (by decide) (by decide) _
  | cons c cs =>
    have line : c ≠ '\n' := fun eq => lines (eq ▸ List.mem_cons_self)
    refine dropNewline_other line ?_ _
    rintro rfl
    cases free _ List.mem_cons_self

lemma head_escapeLine (c : Char) (rest more : List Char) :
    escapeLine c ++ rest ≠ '"' :: more := by
  unfold escapeLine
  split
  · simp
  split
  · simp
  · next quote _ => exact head_escape quote rest more

lemma quote_basic (cs rest : List Char) :
    quote ('"' :: cs.flatMap escapeLine ++ '"' :: '\n' :: rest) = some (cs, '\n' :: rest) := by
  have single : ∀ more, cs.flatMap escapeLine ++ '"' :: '\n' :: rest ≠ '"' :: '"' :: more := by
    intro more
    cases cs with
    | nil => simp
    | cons c cs =>
      rw [List.flatMap_cons, List.append_assoc]
      exact head_escapeLine c _ _
  rw [List.cons_append, quote, basicChars_flatMap]
  exact single

lemma quote_literal {cs : List Char} (plain : ∀ c ∈ cs, isPlain c ∧ c ≠ '\'') (rest : List Char) :
    quote ('\'' :: cs ++ '\'' :: '\n' :: rest) = some (cs, '\n' :: rest) := by
  have single : ∀ more, cs ++ '\'' :: '\n' :: rest ≠ '\'' :: '\'' :: more := by
    intro more
    cases cs with
    | nil => simp
    | cons c cs => exact fun eq => (plain c List.mem_cons_self).2 (List.cons.inj eq).1
  rw [List.cons_append, quote, literalChars_append plain]
  exact single

/-- A string is read back as it was written, up to the end of its line. -/
lemma quote_quoteChars (cs rest : List Char) :
    quote (quoteChars cs ++ '\n' :: rest) = some (cs, '\n' :: rest) := by
  unfold quoteChars
  cases form : quoteForm cs with
  | basic => simpa using quote_basic cs rest
  | literal => simpa using quote_literal (plain_of_literal form) rest
  | multiBasic =>
    have inside := multiBasicChars_escapeLines cs 0 (by omega) rest
    by_cases lines : '\n' ∈ cs
    · simpa [lines, quote, dropNewline_line] using inside
    · simpa [lines, quote, dropNewline_escapeLines] using inside
  | multiLiteral =>
    obtain ⟨free, few⟩ := few_of_multiLiteral form
    have inside := multiLiteralChars_append free few rest
    by_cases lines : '\n' ∈ cs
    · simpa [lines, quote, dropNewline_line] using inside
    · simpa [lines, quote, dropNewline_append free lines] using inside

end TunnelKeeper.Toml
