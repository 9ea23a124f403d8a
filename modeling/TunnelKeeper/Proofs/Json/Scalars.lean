import TunnelKeeper.Json.Decode
import TunnelKeeper.Json.Writer
import TunnelKeeper.Proofs.Timestamps

/-!
Strings, whole numbers and timestamps of a JSON text are read back as they were written, wherever a
value may end behind them.
-/

namespace TunnelKeeper.Json

open Record (Scalar ScalarShape IntRange)
open Toml (bind_eq_ok)

/-! ### The cursor -/

namespace Cursor

@[simp]
lemma rest_past (here : Cursor) (c : Char) (rest : List Char) : (here.past c rest).rest = rest := by
  unfold past
  split <;> rfl

section

variable {here : Cursor} {c : Char} {rest : List Char} (front : here.rest = c :: rest)
include front

lemma rest_next : here.next.rest = rest := by
  rw [next, front, rest_past]

lemma skipSpace_eq (solid : isSpace c = false) : here.skipSpace = here := by
  rw [skipSpace, skipWhile, front, skipFrom, solid]
  rfl

end

lemma rest_skipWhile (p : Char → Bool) (here : Cursor) :
    (here.skipWhile p).rest = here.rest.dropWhile p := by
  unfold skipWhile
  generalize front : here.rest = cs
  induction cs generalizing here with
  | nil => exact front
  | cons c cs ih =>
    rw [skipFrom, List.dropWhile_cons]
    split
    · exact ih _ (rest_past ..)
    · exact front

end Cursor

/-- A value may end here: at the end of the text, or before a comma or a closing brace. -/
def Ended (rest : List Char) : Prop := ∀ c ∈ rest.head?, c = ',' ∨ c = '}'

/-- The reader takes the value from the text, if a value may end behind it, and leaves the rest. -/
def Takes {α : Type} (read : Cursor → Reader (α × Cursor)) (text : List Char) (value : α) : Prop :=
  ∀ (here : Cursor) (rest : List Char), here.rest = text ++ rest → Ended rest →
    ∃ after, read here = .ok (value, after) ∧ after.rest = rest

/-! ### Strings -/

lemma hexValue?_digitChar {n : Nat} (small : n < 16) : hexValue? (Nat.digitChar n) = some n := by
  have all : ∀ n : Fin 16, hexValue? (Nat.digitChar n) = some n.val := by decide
  exact all ⟨n, small⟩

lemma hexFour?_control {c : Char} (control : c.toNat < 0x20) :
    hexFour? '0' '0' (Nat.digitChar (c.toNat / 16)) (Nat.digitChar (c.toNat % 16)) =
      some c.toNat := by
  have high := hexValue?_digitChar (show c.toNat / 16 < 16 by omega)
  have low := hexValue?_digitChar (show c.toNat % 16 < 16 by omega)
  have zero : hexValue? '0' = some 0 := rfl
  have whole : c.toNat / 16 * 16 + c.toNat % 16 = c.toNat := by omega
  simp [hexFour?, high, low, zero, whole]

lemma unit_control {c : Char} (control : c.toNat < 0x20) :
    unit none c.toNat = .ok (none, [c]) := by
  have trail : isTrailSurrogate c.toNat = false := by
    simp only [isTrailSurrogate, Bool.and_eq_false_iff, decide_eq_false_iff_not]
    omega
  have lead : isLeadSurrogate c.toNat = false := by
    simp only [isLeadSurrogate, Bool.and_eq_false_iff, decide_eq_false_iff_not]
    omega
  simp only [unit, trail, lead, Char.ofNat_toNat]
  rfl

/-- How a character stands for itself, or behind a backslash. -/
inductive Escaped (c : Char) : List Char → Prop where
  | letter {e : Char} (means : unescape? e = some c) : Escaped c ['\\', e]
  | number (control : c.toNat < 0x20) : Escaped c ['\\', 'u', '0', '0',
      Nat.digitChar (c.toNat / 16), Nat.digitChar (c.toNat % 16)]
  | plain (free : ¬ c.toNat < 0x20) (slash : c ≠ '\\') (quote : c ≠ '"') : Escaped c [c]

lemma escaped_escape (c : Char) : Escaped c (escape c) := by
  unfold escape
  split
  · next mark => exact .letter (if_pos (mark.imp_right .inl))
  next mark =>
    obtain ⟨quote, slash⟩ := not_or.1 mark
    split
    · next eq => exact .letter (by rw [eq]; rfl)
    split
    · next eq => exact .letter (by rw [eq]; rfl)
    split
    · next eq => exact .letter (by rw [eq]; rfl)
    split
    · next eq => exact .letter (by rw [eq]; rfl)
    split
    · next eq => exact .letter (by rw [eq]; rfl)
    split
    · next control => exact .number control
    · next free => exact .plain free slash quote

lemma readChars_escaped {c : Char} {written : List Char} (escaped : Escaped c written)
    (rest : List Char) (here : Cursor) (done : List Char) :
    ∃ after,
      readChars (written ++ rest) none here done = readChars rest none after (c :: done) := by
  cases escaped with
  | @letter e means =>
    refine ⟨(here.past '\\' (e :: rest)).past e rest, ?_⟩
    rw [List.cons_append, List.cons_append, List.nil_append, readChars, means]
    · rintro _ _ _ _ _ rfl
      cases means
    · rintro rfl
      cases means
  | number control =>
    refine ⟨here.pastUnit rest, ?_⟩
    simp only [List.cons_append, List.nil_append]
    rw [readChars, hexFour?_control control]
    simp only [unit_control control]
    rfl
  | plain free slash quote =>
    refine ⟨here.past c rest, ?_⟩
    rw [List.singleton_append, readChars, if_neg free]
    · exact fun _ _ _ _ _ eq => absurd eq slash
    · exact fun _ eq => absurd eq slash
    · exact fun _ _ eq => absurd eq slash
    · exact fun eq => absurd eq slash
    · exact quote

lemma readChars_flatMap (cs rest : List Char) (here : Cursor) (done : List Char) :
    ∃ after, readChars (cs.flatMap escape ++ '"' :: rest) none here done =
      .ok (done.reverse ++ cs, after) ∧ after.rest = rest := by
  induction cs generalizing here done with
  | nil => exact ⟨here.past '"' rest, by simp [readChars], Cursor.rest_past ..⟩
  | cons c cs ih =>
    obtain ⟨next, step⟩ := readChars_escaped (escaped_escape c)
      (cs.flatMap escape ++ '"' :: rest) here done
    obtain ⟨after, read, left⟩ := ih next (c :: done)
    refine ⟨after, ?_, left⟩
    rw [List.flatMap_cons, List.append_assoc, step, read, List.reverse_cons, List.append_assoc,
      List.singleton_append]

lemma toList_text (s : String) :
    (text s).toList = '"' :: (s.toList.flatMap escape ++ ['"']) := String.toList_ofList

/-- A string is read back, whatever characters it holds. -/
lemma textBody_text (s : String) {here : Cursor} {rest : List Char}
    (front : here.rest = (text s).toList ++ rest) :
    ∃ after, textBody here.next = .ok (s, after) ∧ after.rest = rest := by
  rw [toList_text, List.cons_append, List.append_assoc, List.singleton_append] at front
  obtain ⟨after, read, left⟩ := readChars_flatMap s.toList rest here.next []
  refine ⟨after, bind_eq_ok.2 ⟨(s.toList, after), ?_, ?_⟩, left⟩
  · rw [Cursor.rest_next front, read]
    rfl
  · simp only [String.ofList_toList]
    rfl

lemma takes_text (expected s : String) : Takes (readText expected) (text s).toList s := by
  intro here rest front _
  obtain ⟨after, read, left⟩ := textBody_text s front
  refine ⟨after, ?_, left⟩
  rw [toList_text, List.cons_append] at front
  have start : here.skipSpace = here := Cursor.skipSpace_eq front rfl
  unfold readText
  simp only [start, front, List.head?_cons]
  exact read

/-! ### Whole numbers -/

section Numeral

variable {here : Cursor} {rest : List Char} {n : Nat}

lemma Ended.ne {c : Char} (ended : Ended rest) (comma : c ≠ ',') (brace : c ≠ '}') :
    rest.head? ≠ some c := by
  intro eq
  rcases ended c eq with rfl | rfl
  · exact comma rfl
  · exact brace rfl

lemma takeWhile_toDigits (ended : Ended rest) :
    (Nat.toDigits 10 n ++ rest).takeWhile Char.isDigit = Nat.toDigits 10 n ∧
      (Nat.toDigits 10 n ++ rest).dropWhile Char.isDigit = rest := by
  have digits : ∀ c ∈ Nat.toDigits 10 n, c.isDigit := fun _ => Rfc3339.isDigit_of_mem_toDigits
  rw [List.takeWhile_append_of_pos digits, List.dropWhile_append_of_pos digits]
  cases rest with
  | nil => exact ⟨List.append_nil _, rfl⟩
  | cons c rest =>
    have other : ¬ c.isDigit := by
      rcases ended c rfl with rfl | rfl <;> decide
    rw [List.takeWhile_cons_of_neg other, List.dropWhile_cons_of_neg other]
    exact ⟨List.append_nil _, rfl⟩

/-- The digits of a number have no zero in front, so they are read up to the end of the value. -/
lemma wholeDigits_toDigits (front : here.rest = Nat.toDigits 10 n ++ rest) (ended : Ended rest) :
    ∃ after, wholeDigits here = .ok (Nat.toDigits 10 n, after) ∧ after.rest = rest := by
  obtain ⟨run, left⟩ := takeWhile_toDigits (n := n) ended
  obtain ⟨d, ds, eq, -, -, zero⟩ := Toml.toDigits_cons n
  refine ⟨here.skipWhile Char.isDigit, ?_, ?_⟩
  · refine bind_eq_ok.2 ⟨(Nat.toDigits 10 n, here.skipWhile Char.isDigit), ?_, ?_⟩
    · unfold digits
      rw [front, run, eq]
    · dsimp only
      rw [if_neg]
      simp only [eq, List.head?_cons, Option.some.injEq, Bool.and_eq_true, decide_eq_true_eq,
        not_and]
      rintro long rfl
      rw [zero rfl] at long
      exact long rfl
  · rw [Cursor.rest_skipWhile, front, left]

lemma numeralBody_toDigits (negative : Bool) (front : here.rest = Nat.toDigits 10 n ++ rest)
    (ended : Ended rest) :
    ∃ after, numeralBody negative here =
      .ok ({ negative := negative, whole := Nat.toDigits 10 n }, after) ∧ after.rest = rest := by
  obtain ⟨after, whole, left⟩ := wholeDigits_toDigits front ended
  refine ⟨after, ?_, left⟩
  have point : fractionDigits after = .ok ([], after) :=
    if_neg (left ▸ ended.ne (by decide) (by decide))
  have mark : exponentDigits after = .ok ((false, []), after) :=
    if_neg (not_or.2 ⟨left ▸ ended.ne (by decide) (by decide),
      left ▸ ended.ne (by decide) (by decide)⟩)
  refine bind_eq_ok.2 ⟨_, whole, bind_eq_ok.2 ⟨_, point, bind_eq_ok.2 ⟨_, mark, ?_⟩⟩⟩
  simp only [decide_true]
  rfl

lemma value?_toDigits (fits : n < Nat.pow 2 64) :
    Numeral.value? { negative := false, whole := Nat.toDigits 10 n } =
      some (.integer n) := by
  have size : decimalValue (Nat.toDigits 10 n) = n := Rfc3339.digitsValue_toDigits n
  unfold Numeral.value?
  dsimp only
  rw [size, if_pos (by simpa using fits)]

lemma value?_minus_toDigits (pos : 0 < n) (fits : n ≤ Nat.pow 2 63) :
    Numeral.value? { negative := true, whole := Nat.toDigits 10 n } =
      some (.integer (-(n : Int))) := by
  have size : decimalValue (Nat.toDigits 10 n) = n := Rfc3339.digitsValue_toDigits n
  unfold Numeral.value?
  dsimp only
  rw [size, if_neg (by simp), if_pos (by simpa using ⟨pos, fits⟩)]

lemma number_toDigits (fits : n < Nat.pow 2 64) (front : here.rest = Nat.toDigits 10 n ++ rest)
    (ended : Ended rest) :
    ∃ after, number here = .ok (.integer n, after) ∧ after.rest = rest := by
  obtain ⟨after, body, left⟩ := numeralBody_toDigits false front ended
  obtain ⟨d, ds, eq, digit, -, -⟩ := Toml.toDigits_cons n
  have plain : numeral here = numeralBody false here := by
    rw [eq, List.cons_append] at front
    refine if_neg ?_
    rw [front, List.head?_cons]
    exact fun minus => Toml.ne_of_test digit rfl (Option.some.inj minus)
  refine ⟨after, bind_eq_ok.2 ⟨_, plain.trans body, ?_⟩, left⟩
  simp only [value?_toDigits fits]
  rfl

lemma number_minus_toDigits (pos : 0 < n) (fits : n ≤ Nat.pow 2 63)
    (front : here.rest = '-' :: (Nat.toDigits 10 n ++ rest)) (ended : Ended rest) :
    ∃ after, number here = .ok (.integer (-(n : Int)), after) ∧ after.rest = rest := by
  obtain ⟨after, body, left⟩ := numeralBody_toDigits true (here.rest_next front) ended
  have signed : numeral here = numeralBody true here.next := if_pos (by rw [front]; rfl)
  refine ⟨after, bind_eq_ok.2 ⟨_, signed.trans body, ?_⟩, left⟩
  simp only [value?_minus_toDigits pos fits]
  rfl

lemma readInteger_number {range : IntRange} {i : Int} {c : Char} {more : List Char}
    {after : Cursor} (front : here.rest = c :: more) (numeral : c = '-' ∨ c.isDigit)
    (read : number here = .ok (.integer i, after)) (inside : range.Holds i) :
    readInteger range here = .ok (i, after) := by
  have solid : Cursor.isSpace c = false := by
    rcases numeral with rfl | digit
    · rfl
    · have other (d : Char) (letter : d.isDigit = false) : c ≠ d := Toml.ne_of_test digit letter
      simp [Cursor.isSpace, other _ (show ' '.isDigit = false from rfl),
        other _ (show '\n'.isDigit = false from rfl), other _ (show '\t'.isDigit = false from rfl),
        other _ (show '\r'.isDigit = false from rfl)]
  have start : here.skipSpace = here := Cursor.skipSpace_eq front solid
  unfold readInteger
  simp only [start, front]
  rw [if_pos (by simpa using numeral)]
  refine bind_eq_ok.2 ⟨_, read, ?_⟩
  simp only [IntRange.check, if_pos inside]
  rfl

end Numeral

/-- A whole number of the range is read back, if 64 bits hold it. -/
lemma takes_integer {range : IntRange} {i : Int} (inside : range.Holds i)
    (least : -Int.pow 2 63 ≤ i) (most : i < Int.pow 2 64) :
    Takes (readInteger range) (toString i).toList i := by
  intro here rest front ended
  rcases Toml.toList_toString least with ⟨n, rfl, written⟩ | ⟨n, rfl, pos, fits, written⟩
  · have fits : n < Nat.pow 2 64 := Int.ofNat_lt.1 most
    rw [written] at front
    obtain ⟨after, read, left⟩ := number_toDigits fits front ended
    obtain ⟨d, ds, eq, digit, -, -⟩ := Toml.toDigits_cons n
    rw [eq, List.cons_append] at front
    exact ⟨after, readInteger_number front (.inr digit) read inside, left⟩
  · rw [written, List.cons_append] at front
    obtain ⟨after, read, left⟩ := number_minus_toDigits pos fits front ended
    exact ⟨after, readInteger_number front (.inl rfl) read inside, left⟩

/-! ### Scalars -/

/-- Whole numbers of the shape are read exactly: 64 bits hold them, with a sign or without. -/
def Legible : ScalarShape → Prop
  | .integer range => -Int.pow 2 63 ≤ range.least ∧ range.most < Int.pow 2 64
  | _ => True

/-- A reader that goes on with the value takes it from the same text. -/
lemma Takes.bind {α β : Type} {read : Cursor → Reader (α × Cursor)} {text : List Char} {a : α}
    {b : β} {more : α × Cursor → Reader (β × Cursor)} (takes : Takes read text a)
    (goes : ∀ after, more (a, after) = .ok (b, after)) :
    Takes (fun here => read here >>= more) text b := by
  intro here rest front ended
  obtain ⟨after, ok, left⟩ := takes here rest front ended
  exact ⟨after, bind_eq_ok.2 ⟨(a, after), ok, goes after⟩, left⟩

lemma word_append (cs : List Char) {rest : List Char} {here : Cursor}
    (front : here.rest = cs ++ rest) : ∃ after, word cs here = .ok after ∧ after.rest = rest := by
  induction cs generalizing here with
  | nil => exact ⟨here, rfl, front⟩
  | cons c cs ih =>
    obtain ⟨after, read, left⟩ := ih (here.rest_next front)
    refine ⟨after, ?_, left⟩
    rw [List.cons_append] at front
    rw [word, front]
    exact (if_pos rfl).trans read

lemma takes_null : Takes (readScalar .optionalText) "null".toList .none := by
  intro here rest front _
  have front : here.rest = ['n', 'u', 'l', 'l'] ++ rest := front
  have start : here.skipSpace = here := Cursor.skipSpace_eq front rfl
  obtain ⟨after, read, left⟩ := word_append _ front
  refine ⟨after, ?_, left⟩
  unfold readScalar
  simp only [start]
  rw [if_pos (by rw [front]; rfl)]
  exact bind_eq_ok.2 ⟨after, read, rfl⟩

lemma takes_someText (s : String) :
    Takes (readScalar .optionalText) (text s).toList (.text s) := by
  intro here rest front ended
  obtain ⟨after, read, left⟩ := takes_text ScalarShape.optionalText.expected s here rest front ended
  refine ⟨after, ?_, left⟩
  rw [toList_text, List.cons_append] at front
  have start : here.skipSpace = here := Cursor.skipSpace_eq front rfl
  unfold readScalar
  simp only [start]
  have other : here.rest.head? ≠ some 'n' := by
    rw [front, List.head?_cons]
    exact fun eq => absurd (Option.some.inj eq) (by decide)
  rw [if_neg other]
  exact bind_eq_ok.2 ⟨(s, after), read, rfl⟩

lemma takes_scalar {shape : ScalarShape} {s : Scalar} (legible : Legible shape)
    (fits : shape.Fits s) : Takes (readScalar shape) (scalarText s).toList s := by
  cases shape with
  | text =>
    cases s with
    | text s => exact (takes_text _ s).bind fun _ => rfl
    | _ => cases fits
  | optionalText =>
    cases s with
    | none => exact takes_null
    | text s => exact takes_someText s
    | _ => cases fits
  | integer range =>
    cases s with
    | integer i =>
      obtain ⟨least, most⟩ := legible
      have inside : range.Holds i := fits
      have takes := takes_integer inside (Int.le_trans least inside.1)
        (Int.lt_of_le_of_lt inside.2 most)
      exact takes.bind fun _ => rfl
    | _ => cases fits
  | timestamp =>
    cases s with
    | timestamp t =>
      refine (takes_text _ t.text).bind fun _ => ?_
      simp only [Instant.parse_text fits.1 fits.2]
      rfl
    | _ => cases fits

/-! ### What is read -/

lemma wrongType_ne_ok {α : Type} {expected : String} {here : Cursor} {found : α × Cursor} :
    wrongType expected here ≠ .ok found := by
  intro ok
  unfold wrongType at ok
  dsimp only at ok
  split at ok
  · cases ok
  split at ok
  · obtain ⟨_, -, ok⟩ := bind_eq_ok.1 ok
    cases ok
  split at ok
  · obtain ⟨_, -, ok⟩ := bind_eq_ok.1 ok
    cases ok
  split at ok
  · obtain ⟨_, -, ok⟩ := bind_eq_ok.1 ok
    cases ok
  split at ok
  · obtain ⟨_, -, ok⟩ := bind_eq_ok.1 ok
    cases ok
  split at ok
  · obtain ⟨_, -, ok⟩ := bind_eq_ok.1 ok
    cases ok
  split at ok
  · cases ok
  split at ok
  · cases ok
  · cases ok

lemma holds_of_readInteger {range : IntRange} {here after : Cursor} {i : Int}
    (ok : readInteger range here = .ok (i, after)) : range.Holds i := by
  unfold readInteger at ok
  dsimp only at ok
  split at ok
  · cases ok
  · split at ok
    · obtain ⟨⟨n, place⟩, -, ok⟩ := bind_eq_ok.1 ok
      split at ok
      · split at ok
        · next checked =>
          cases ok
          unfold IntRange.check at checked
          split at checked
          · next inside =>
            cases checked
            exact inside
          · cases checked
        · cases ok
      · cases ok
    · exact absurd ok wrongType_ne_ok

lemma fits_of_readScalar {shape : ScalarShape} {here after : Cursor} {s : Scalar}
    (ok : readScalar shape here = .ok (s, after)) : shape.Fits s := by
  cases shape with
  | text =>
    obtain ⟨_, -, ok⟩ := bind_eq_ok.1 ok
    cases ok
    trivial
  | optionalText =>
    unfold readScalar at ok
    dsimp only at ok
    split at ok
    · obtain ⟨_, -, ok⟩ := bind_eq_ok.1 ok
      cases ok
      trivial
    · obtain ⟨_, -, ok⟩ := bind_eq_ok.1 ok
      cases ok
      trivial
  | integer range =>
    obtain ⟨⟨i, place⟩, read, ok⟩ := bind_eq_ok.1 ok
    cases ok
    exact holds_of_readInteger read
  | timestamp =>
    obtain ⟨⟨s, place⟩, -, ok⟩ := bind_eq_ok.1 ok
    dsimp only at ok
    split at ok
    · next parsed =>
      cases ok
      exact Rfc3339.representable_of_parse parsed
    · cases ok

end TunnelKeeper.Json
