import TunnelKeeper.Proofs.Toml.Strings
import TunnelKeeper.Toml.Reader

/-!
Whole numbers and strings, as they are written behind a key, are read back as the same values.
Nothing else of a TOML text begins like a whole number and ends with the line.
-/

namespace TunnelKeeper.Toml

/-! ### Digits -/

lemma moreDigits_append {ds : List Char} (digits : ∀ c ∈ ds, c.isDigit) (rest : List Char) :
    moreDigits Char.isDigit (ds ++ '\n' :: rest) = some (ds, '\n' :: rest) := by
  induction ds with
  | nil => rw [List.nil_append, moreDigits, if_neg (by decide)] <;> simp
  | cons d ds ih =>
    obtain ⟨digit, digits⟩ := List.forall_mem_cons.1 digits
    have blank := ne_of_test digit (show '_'.isDigit = false from rfl)
    rw [List.cons_append, moreDigits, if_pos digit, ih digits]
    · rfl
    · exact fun _ _ eq => absurd eq blank
    · exact fun eq => absurd eq blank

lemma head_toDigits {n : Nat} (pos : 0 < n) : (Nat.toDigits 10 n).head? ≠ some '0' := by
  induction n using Nat.strongRecOn with
  | ind n ih =>
    rw [Nat.toDigits_eq_if (by omega)]
    split
    · next small =>
      have nonzero : ∀ n : Fin 10, 0 < n.val → Nat.digitChar n.val ≠ '0' := by decide
      simpa using nonzero ⟨n, small⟩ pos
    · next large =>
      have above := ih (n / 10) (by omega) (by omega)
      cases eq : Nat.toDigits 10 (n / 10) with
      | nil => exact absurd eq Nat.toDigits_ne_nil
      | cons d ds =>
        rw [eq] at above
        exact above

/-- The digits of a number begin with a digit, and with a zero only if that is all. -/
lemma toDigits_cons (n : Nat) : ∃ d ds, Nat.toDigits 10 n = d :: ds ∧ d.isDigit ∧
    (∀ c ∈ ds, c.isDigit) ∧ (d = '0' → ds = []) := by
  have digits : ∀ c ∈ Nat.toDigits 10 n, c.isDigit := fun c mem =>
    Nat.isDigit_of_mem_toDigits (by omega) (by omega) mem
  have head : 0 < n → (Nat.toDigits 10 n).head? ≠ some '0' := head_toDigits
  have zero : n = 0 → Nat.toDigits 10 n = ['0'] := by
    rintro rfl
    exact Nat.toDigits_zero 10
  cases eq : Nat.toDigits 10 n with
  | nil => exact absurd eq Nat.toDigits_ne_nil
  | cons d ds =>
    rw [eq] at digits head zero
    obtain ⟨digit, digits⟩ := List.forall_mem_cons.1 digits
    refine ⟨d, ds, rfl, digit, digits, ?_⟩
    rintro rfl
    rcases Nat.eq_zero_or_pos n with none | pos
    · exact (List.cons.inj (zero none)).2
    · exact absurd rfl (head pos)

lemma digitsValue_eq {ds : List Char} (digits : ∀ c ∈ ds, c.isDigit) :
    digitsValue 10 ds = Nat.ofDigitChars 10 ds 0 := by
  unfold digitsValue
  generalize 0 = n
  induction ds generalizing n with
  | nil => rw [Nat.ofDigitChars_nil, List.foldl_nil]
  | cons d ds ih =>
    obtain ⟨digit, digits⟩ := List.forall_mem_cons.1 digits
    have value : digitValue d = d.toNat - '0'.toNat := if_pos digit
    rw [List.foldl_cons, Nat.ofDigitChars_cons, ih digits, value, Nat.mul_comm]

lemma digitsValue_toDigits (n : Nat) : digitsValue 10 (Nat.toDigits 10 n) = n := by
  rw [digitsValue_eq fun c mem => Nat.isDigit_of_mem_toDigits (by omega) (by omega) mem,
    Nat.ofDigitChars_ten_toDigits]

/-! ### Whole numbers -/

/-- How a whole number is written: its digits, behind a minus if it is below zero. -/
lemma toList_toString {i : Int} (least : -Int.pow 2 63 ≤ i) :
    (∃ n : Nat, i = n ∧ (toString i).toList = Nat.toDigits 10 n) ∨
    ∃ n : Nat, i = -(n : Int) ∧ 0 < n ∧ n ≤ Nat.pow 2 63 ∧
      (toString i).toList = '-' :: Nat.toDigits 10 n := by
  cases i with
  | ofNat n => exact .inl ⟨n, rfl, Nat.toList_repr⟩
  | negSucc n =>
    have small : n + 1 ≤ Nat.pow 2 63 := by
      have le : -Int.pow 2 63 ≤ -((n + 1 : Nat) : Int) := least
      exact Int.ofNat_le.1 (Int.neg_le_neg_iff.1 le)
    refine .inr ⟨n + 1, rfl, Nat.succ_pos n, small, ?_⟩
    change ("-" ++ Nat.repr (n + 1)).toList = _
    rw [String.toList_append, Nat.toList_repr]
    rfl

lemma wholeDigits_toDigits (n : Nat) (rest : List Char) :
    wholeDigits (Nat.toDigits 10 n ++ '\n' :: rest) = some (Nat.toDigits 10 n, '\n' :: rest) := by
  obtain ⟨d, ds, eq, digit, digits, zero⟩ := toDigits_cons n
  rw [eq, List.cons_append]
  by_cases first : d = '0'
  · rw [first, zero first]
    rfl
  · rw [wholeDigits, digitRun, if_pos digit, moreDigits_append digits]
    · rfl
    · exact fun _ eq => absurd (List.cons.inj eq).1 first

lemma decimal_toDigits (negative : Bool) (n : Nat) (rest : List Char) :
    decimal negative (Nat.toDigits 10 n ++ '\n' :: rest) =
      (integer? negative n).map (·, '\n' :: rest) := by
  have ended : exponent? ('\n' :: rest) = some (none, '\n' :: rest) := by
    rw [exponent?, if_neg (by decide)]
  simp only [decimal, wholeDigits_toDigits, Option.bind_eq_bind, Option.bind_some]
  split
  · next point =>
    exact absurd (List.cons.inj point).1 (by decide)
  · simp only [ended, Option.bind_some, digitsValue_toDigits]
    cases integer? negative n <;> rfl

lemma special_digit {c : Char} (digit : c.isDigit) (negative : Bool) (rest : List Char) :
    special negative (c :: rest) = none := by
  unfold special
  split
  · next eq => exact absurd (List.cons.inj eq).1 (ne_of_test digit rfl)
  · next eq => exact absurd (List.cons.inj eq).1 (ne_of_test digit rfl)
  · rfl

lemma sign_digit {c : Char} (digit : c.isDigit) (rest : List Char) :
    sign (c :: rest) = (false, c :: rest) := by
  unfold sign
  split
  · next eq => exact absurd (List.cons.inj eq).1 (ne_of_test digit rfl)
  · next eq => exact absurd (List.cons.inj eq).1 (ne_of_test digit rfl)
  · rfl

lemma number_toDigits (n : Nat) (rest : List Char) :
    number (Nat.toDigits 10 n ++ '\n' :: rest) = (integer? false n).map (·, '\n' :: rest) := by
  have whole := decimal_toDigits false n rest
  obtain ⟨d, ds, eq, digit, digits, zero⟩ := toDigits_cons n
  rw [eq] at whole ⊢
  -- a zero that marks another base is not the whole number
  have unmarked : ∀ c more, c ≠ '\n' → d :: (ds ++ '\n' :: rest) ≠ '0' :: c :: more := by
    rintro c more other alike
    obtain ⟨first, behind⟩ := List.cons.inj alike
    rw [zero first] at behind
    exact other (List.cons.inj behind).1.symm
  rw [List.cons_append] at whole ⊢
  rw [number, sign_digit digit]
  · simp only [special_digit digit, Option.none_or, whole]
  · exact fun more => unmarked 'x' more (by decide)
  · exact fun more => unmarked 'o' more (by decide)
  · exact fun more => unmarked 'b' more (by decide)

lemma number_minus_toDigits (n : Nat) (rest : List Char) :
    number ('-' :: (Nat.toDigits 10 n ++ '\n' :: rest)) =
      (integer? true n).map (·, '\n' :: rest) := by
  have whole := decimal_toDigits true n rest
  obtain ⟨d, ds, eq, digit, -, -⟩ := toDigits_cons n
  rw [eq, List.cons_append] at whole ⊢
  rw [number, sign]
  · simp only [special_digit digit, Option.none_or, whole]
  all_goals simp

/-! ### Dates and times -/

/-- Digits up to the end of the line. -/
def AtDigits (cs : List Char) : Prop :=
  ∃ ds rest, (∀ c ∈ ds, c.isDigit) ∧ cs = ds ++ '\n' :: rest

lemma twoDigits_atDigits {least most n : Nat} {cs rest : List Char} (numeral : AtDigits cs)
    (read : twoDigits least most cs = some (n, rest)) : AtDigits rest := by
  obtain ⟨ds, line, digits, rfl⟩ := numeral
  match ds with
  | [] =>
    cases line with
    | nil => simp [twoDigits] at read
    | cons c line => simp [twoDigits] at read
  | [d] => simp [twoDigits] at read
  | d :: e :: ds =>
    simp only [List.cons_append, twoDigits] at read
    split at read
    · obtain ⟨rfl, rfl⟩ := Prod.mk.inj (Option.some.inj read)
      exact ⟨ds, line, fun c mem => digits c (by simp [mem]), rfl⟩
    · cases read

lemma exactly_atDigits {c : Char} {cs : List Char} (numeral : AtDigits cs)
    (other : c.isDigit = false) (line : c ≠ '\n') : exactly c cs = none := by
  obtain ⟨ds, rest, digits, rfl⟩ := numeral
  cases ds with
  | nil => exact if_neg line.symm
  | cons d ds => exact if_neg (ne_of_test (digits d List.mem_cons_self) other)

lemma skipDate_atDigits {cs : List Char} (numeral : AtDigits cs) : skipDate cs = none := by
  unfold skipDate
  cases century : twoDigits 0 99 cs with
  | none => rfl
  | some found =>
    have numeral := twoDigits_atDigits numeral century
    simp only [Option.bind_eq_bind, Option.bind_some]
    cases year : twoDigits 0 99 found.2 with
    | none => rfl
    | some found =>
      have numeral := twoDigits_atDigits numeral year
      rw [Option.bind_some, exactly_atDigits numeral (by decide) (by decide)]
      rfl

lemma skipTime_atDigits {cs : List Char} (numeral : AtDigits cs) : skipTime cs = none := by
  unfold skipTime
  cases hour : twoDigits 0 23 cs with
  | none => rfl
  | some found =>
    have numeral := twoDigits_atDigits numeral hour
    simp only [Option.bind_eq_bind, Option.bind_some]
    rw [exactly_atDigits numeral (by decide) (by decide)]
    rfl

lemma moment_atDigits {cs : List Char} (numeral : AtDigits cs) : moment cs = none := by
  unfold moment
  rw [skipDate_atDigits numeral, skipTime_atDigits numeral]
  rfl

lemma moment_minus (cs : List Char) : moment ('-' :: cs) = none := by
  cases cs with
  | nil => rfl
  | cons c cs => simp [moment, skipDate, skipTime, twoDigits]

/-! ### Values -/

/-- A text that stands behind a key up to the end of its line, and the value that is read there. -/
def Denotes (text : List Char) (v : Value) : Prop :=
  ∀ rest, value (depthLimit - 1) (skipSpaces (text ++ '\n' :: rest)) = some (v, '\n' :: rest)

lemma skipSpaces_other {c : Char} (other : isSpace c = false) (cs : List Char) :
    skipSpaces (c :: cs) = c :: cs := by
  unfold skipSpaces
  rw [List.dropWhile_cons_of_neg]
  simpa using other

lemma quoteChars_cons (cs : List Char) :
    ∃ c more, quoteChars cs = c :: more ∧ (c = '"' ∨ c = '\'') := by
  unfold quoteChars
  cases quoteForm cs with
  | basic => exact ⟨_, _, rfl, .inl rfl⟩
  | literal => exact ⟨_, _, rfl, .inr rfl⟩
  | multiBasic =>
    split
    · exact ⟨_, _, rfl, .inl rfl⟩
    · exact ⟨_, _, rfl, .inl rfl⟩
  | multiLiteral =>
    split
    · exact ⟨_, _, rfl, .inr rfl⟩
    · exact ⟨_, _, rfl, .inr rfl⟩

lemma denotes_quoteChars (cs : List Char) : Denotes (quoteChars cs) (.text (String.ofList cs)) := by
  intro rest
  have read := quote_quoteChars cs rest
  obtain ⟨c, more, eq, mark⟩ := quoteChars_cons cs
  have word : isSpace c = false := by
    rcases mark with rfl | rfl <;> rfl
  rw [eq, List.cons_append] at read ⊢
  rw [skipSpaces_other word]
  unfold value
  rw [if_pos mark, read]
  rfl

/-- A digit or a minus begins no value but a number, a date or a time. -/
lemma value_numeral {c : Char} (numeral : c.isDigit ∨ c = '-') (depth : Nat) (rest : List Char) :
    value depth (c :: rest) = (moment (c :: rest)).or (number (c :: rest)) := by
  have other : ∀ d : Char, d.isDigit = false → d ≠ '-' → c ≠ d := by
    rintro d letter minus rfl
    rcases numeral with digit | rfl
    · rw [letter] at digit
      cases digit
    · exact minus rfl
  unfold value
  rw [if_neg (not_or.2 ⟨other _ rfl (by decide), other _ rfl (by decide)⟩),
    if_neg (other _ rfl (by decide)), if_neg (other _ rfl (by decide))]
  split
  · exact absurd rfl (other _ rfl (by decide))
  · exact absurd rfl (other _ rfl (by decide))
  · rfl

lemma denotes_integer {i : Int} (least : -Int.pow 2 63 ≤ i) (most : i < Int.pow 2 63) :
    Denotes (toString i).toList (.integer i) := by
  intro rest
  rcases toList_toString least with ⟨n, rfl, written⟩ | ⟨n, rfl, -, small, written⟩
  · have small : n < Nat.pow 2 63 := Int.ofNat_lt.1 most
    have read := number_toDigits n rest
    obtain ⟨d, ds, eq, digit, digits, -⟩ := toDigits_cons n
    have numeral : AtDigits (d :: (ds ++ '\n' :: rest)) :=
      ⟨d :: ds, rest, List.forall_mem_cons.2 ⟨digit, digits⟩, rfl⟩
    have word : isSpace d = false := by
      have blank := ne_of_test digit (show ' '.isDigit = false from rfl)
      have tab := ne_of_test digit (show '\t'.isDigit = false from rfl)
      simp [isSpace, blank, tab]
    rw [written, eq, List.cons_append, skipSpaces_other word, value_numeral (.inl digit),
      moment_atDigits numeral, Option.none_or]
    rw [eq, List.cons_append] at read
    rw [read, integer?, if_neg (by decide), if_pos small]
    rfl
  · rw [written, List.cons_append, skipSpaces_other rfl, value_numeral (.inr rfl), moment_minus,
      Option.none_or, number_minus_toDigits, integer?, if_pos rfl, if_pos small]
    rfl

end TunnelKeeper.Toml
