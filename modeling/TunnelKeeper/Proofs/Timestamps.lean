import Mathlib.Data.List.TakeWhile
import TunnelKeeper.Proofs.Dates
import TunnelKeeper.Proofs.Toml.Documents
import TunnelKeeper.Time.Rfc3339

/-!
Timestamps are read back as they were written, for every point in time of the calendar: a year of
any sign and width, a fraction of any length, and a leap second at the end of a minute. A leap
second after any other second is written as the second that comes next, and read as that. Whatever
is read as a timestamp is a point in time of the calendar.
-/

namespace TunnelKeeper

open Toml (bind_eq_ok map_eq_ok ne_of_test)

namespace Rfc3339

/-! ### Digits -/

lemma digitsValue_eq (ds : List Char) : digitsValue ds = Nat.ofDigitChars 10 ds 0 := by
  unfold digitsValue
  generalize 0 = n
  induction ds generalizing n with
  | nil => rw [Nat.ofDigitChars_nil, List.foldl_nil]
  | cons d ds ih =>
    have value : digitValue d = d.toNat - '0'.toNat := rfl
    rw [List.foldl_cons, Nat.ofDigitChars_cons, ih, value, Nat.mul_comm]

lemma digitsValue_toDigits (n : Nat) : digitsValue (Nat.toDigits 10 n) = n := by
  rw [digitsValue_eq, Nat.ofDigitChars_ten_toDigits]

lemma ofDigitChars_lt {ds : List Char} (digits : ∀ c ∈ ds, c.isDigit) (n : Nat) :
    Nat.ofDigitChars 10 ds n < (n + 1) * Nat.pow 10 ds.length := by
  induction ds generalizing n with
  | nil =>
    rw [Nat.ofDigitChars_nil]
    show n < (n + 1) * 1
    omega
  | cons d ds ih =>
    have range : 48 ≤ d.toNat ∧ d.toNat ≤ 57 :=
      Char.isDigit_iff_toNat.1 (digits d List.mem_cons_self)
    have value : d.toNat - '0'.toNat ≤ 9 := by
      rw [show '0'.toNat = 48 from rfl]
      omega
    rw [Nat.ofDigitChars_cons]
    calc Nat.ofDigitChars 10 ds (10 * n + (d.toNat - '0'.toNat))
        < (10 * n + (d.toNat - '0'.toNat) + 1) * Nat.pow 10 ds.length :=
          ih (fun c mem => digits c (List.mem_cons_of_mem d mem)) _
      _ ≤ ((n + 1) * 10) * Nat.pow 10 ds.length := Nat.mul_le_mul_right _ (by omega)
      _ = (n + 1) * Nat.pow 10 (d :: ds).length := by
          rw [Nat.mul_assoc, List.length_cons]
          congr 1
          exact (Nat.pow_succ' ..).symm

lemma digitsValue_lt {ds : List Char} (digits : ∀ c ∈ ds, c.isDigit) :
    digitsValue ds < Nat.pow 10 ds.length := by
  have bound := ofDigitChars_lt digits 0
  rwa [← digitsValue_eq, Nat.zero_add, Nat.one_mul] at bound

lemma isDigit_of_mem_toDigits {n : Nat} {c : Char} (mem : c ∈ Nat.toDigits 10 n) : c.isDigit :=
  Nat.isDigit_of_mem_toDigits (by decide) (by decide) mem

section Padded

variable {width n : Nat}

lemma digitsValue_padded : digitsValue (padded width n) = n := by
  rw [padded, digitsValue_eq, Nat.ofDigitChars_append, Nat.ofDigitChars_replicate_zero,
    Nat.mul_zero, Nat.ofDigitChars_ten_toDigits]

lemma isDigit_of_mem_padded {c : Char} (mem : c ∈ padded width n) : c.isDigit := by
  rcases List.mem_append.1 mem with zero | digit
  · rw [List.eq_of_mem_replicate zero]
    rfl
  · exact isDigit_of_mem_toDigits digit

lemma padded_ne_nil : padded width n ≠ [] :=
  List.append_ne_nil_of_right_ne_nil _ Nat.toDigits_ne_nil

lemma length_padded (some : 0 < width) (fits : n < Nat.pow 10 width) :
    (padded width n).length = width := by
  have short := (Nat.length_toDigits_le_iff (by decide) some).2 fits
  rw [padded, List.length_append, List.length_replicate]
  omega

end Padded

/-! ### Blanks -/

lemma skipBlanks_cons {c : Char} (plain : isBlank c = false) (cs : List Char) :
    skipBlanks (c :: cs) = c :: cs := by
  rw [skipBlanks, List.dropWhile_cons_of_neg]
  simpa using plain

lemma isBlank_of_isDigit {c : Char} (digit : c.isDigit) : isBlank c = false := by
  have range : 48 ≤ c.toNat ∧ c.toNat ≤ 57 := Char.isDigit_iff_toNat.1 digit
  simp only [isBlank, Bool.or_eq_false_iff, Bool.and_eq_false_iff, decide_eq_false_iff_not]
  omega

lemma skipBlanks_padded (width n : Nat) (rest : List Char) :
    skipBlanks (padded width n ++ rest) = padded width n ++ rest := by
  cases eq : padded width n with
  | nil => exact absurd eq padded_ne_nil
  | cons d ds =>
    have digit : d.isDigit := isDigit_of_mem_padded (eq ▸ List.mem_cons_self)
    exact skipBlanks_cons (isBlank_of_isDigit digit) _

/-! ### Numbers -/

/-- The text does not go on with a digit. -/
def NoDigit (rest : List Char) : Prop := ∀ c ∈ rest.head?, c.isDigit = false

lemma noDigit_cons {c : Char} (other : c.isDigit = false) (rest : List Char) :
    NoDigit (c :: rest) := by
  rintro d mem
  obtain rfl : c = d := Option.some.inj mem
  exact other

/-- Digits are read as long as they are asked for, or up to another character. -/
lemma number_append {width : Nat} {ds rest : List Char} (digits : ∀ c ∈ ds, c.isDigit)
    (some : ds ≠ []) (small : digitsValue ds < Nat.pow 2 63)
    (ended : ds.length = width ∨ ds.length ≤ width ∧ NoDigit rest) :
    number width (ds ++ rest) = .ok (digitsValue ds, rest) := by
  have run : ((ds ++ rest).take width).takeWhile Char.isDigit = ds := by
    rcases ended with full | ⟨room, other⟩
    · rw [List.take_left' full]
      rw [← List.append_nil ds, List.takeWhile_append_of_pos digits, List.takeWhile_nil]
    · rw [List.take_append, List.take_of_length_le room, List.takeWhile_append_of_pos digits]
      have none : (rest.take (width - ds.length)).takeWhile Char.isDigit = [] := by
        cases rest with
        | nil => rw [List.take_nil, List.takeWhile_nil]
        | cons c rest =>
          cases width - ds.length with
          | zero => rfl
          | succ more =>
            rw [List.take_succ_cons, List.takeWhile_cons_of_neg]
            simpa using other c rfl
      rw [none, List.append_nil]
  unfold number
  dsimp only
  rw [run, if_neg (List.append_ne_nil_of_left_ne_nil some _), if_neg some,
    if_neg (Nat.not_le.2 small), List.drop_left]

lemma number_padded {width n : Nat} (some : 0 < width) (fits : n < Nat.pow 10 width)
    (small : n < Nat.pow 2 63) (rest : List Char) :
    number width (padded width n ++ rest) = .ok (n, rest) := by
  rw [number_append (fun _ => isDigit_of_mem_padded) padded_ne_nil
    (digitsValue_padded.symm ▸ small) (.inl (length_padded some fits)), digitsValue_padded]

lemma field_padded {least most n : Nat} (inside : least ≤ n ∧ n ≤ most) (fits : n < 100)
    (rest : List Char) : field least most (padded 2 n ++ rest) = .ok (n, rest) := by
  have small : n < Nat.pow 2 63 := Nat.lt_trans fits (by decide)
  rw [field, skipBlanks_padded, number_padded (by decide) fits small]
  exact if_pos inside

lemma separator_cons {c : Char} (plain : isBlank c = false) (rest : List Char) :
    separator c (c :: rest) = .ok rest := by
  rw [separator, skipBlanks_cons plain]
  exact if_pos rfl

lemma timeMark_cons (rest : List Char) : timeMark ('T' :: rest) = .ok rest := rfl

/-! ### The year -/

/-- The year is one that a timestamp can name. -/
def NamesYear (n : Int) : Prop := -Int.pow 2 31 ≤ n ∧ n < Int.pow 2 31

/-- A year behind a sign may have any number of digits. -/
lemma number_sign {n : Nat} (small : n < Nat.pow 2 63) (rest : List Char) :
    number (padded 4 n ++ '-' :: rest).length (padded 4 n ++ '-' :: rest) =
      .ok (n, '-' :: rest) := by
  have room : (padded 4 n).length ≤ (padded 4 n ++ '-' :: rest).length := by
    rw [List.length_append]
    exact Nat.le_add_right _ _
  rw [number_append (fun _ => isDigit_of_mem_padded) padded_ne_nil (digitsValue_padded.symm ▸ small)
    (.inr ⟨room, noDigit_cons rfl rest⟩), digitsValue_padded]

section Year

variable {n : Nat} {cs rest : List Char}

lemma year_plus (read : number cs.length cs = .ok (n, rest)) (named : NamesYear n) :
    year ('+' :: cs) = .ok ((n : Int), rest) := by
  rw [year, skipBlanks_cons rfl]
  exact bind_eq_ok.2 ⟨(n, rest), read, bind_eq_ok.2 ⟨((n : Int), rest), rfl, if_pos named⟩⟩

lemma year_minus (read : number cs.length cs = .ok (n, rest)) (named : NamesYear (-n)) :
    year ('-' :: cs) = .ok (-(n : Int), rest) := by
  rw [year, skipBlanks_cons rfl]
  exact bind_eq_ok.2 ⟨(n, rest), read, bind_eq_ok.2 ⟨(-(n : Int), rest), rfl, if_pos named⟩⟩

lemma year_plain {c : Char} (digit : c.isDigit) (read : number 4 (c :: cs) = .ok (n, rest))
    (named : NamesYear n) : year (c :: cs) = .ok ((n : Int), rest) := by
  have minus : c ≠ '-' := ne_of_test digit rfl
  have plus : c ≠ '+' := ne_of_test digit rfl
  rw [year, skipBlanks_cons (isBlank_of_isDigit digit)]
  split
  · next eq => exact absurd (List.cons.inj eq).1 minus
  · next eq => exact absurd (List.cons.inj eq).1 plus
  · exact bind_eq_ok.2 ⟨(n, rest), read, bind_eq_ok.2 ⟨((n : Int), rest), rfl, if_pos named⟩⟩

end Year

lemma year_yearText {y : Int} (named : NamesYear y) (rest : List Char) :
    year (yearText y ++ '-' :: rest) = .ok (y, '-' :: rest) := by
  have power : Int.pow 2 31 = (Nat.pow 2 31 : Nat) := (Int.natCast_pow 2 31).symm
  have more : Nat.pow 2 31 < Nat.pow 2 63 := by decide
  have small : y.natAbs < Nat.pow 2 63 := by
    obtain ⟨least, most⟩ := named
    omega
  unfold yearText
  split
  · next plain =>
    have whole : ((y.toNat : Nat) : Int) = y := Int.toNat_of_nonneg plain.1
    have fits : y.toNat < Nat.pow 10 4 := Nat.lt_of_le_of_lt (Int.toNat_le.2 plain.2) (by decide)
    have read := number_padded (by decide) fits (by omega) ('-' :: rest)
    have named : NamesYear y.toNat := whole.symm ▸ named
    cases eq : padded 4 y.toNat with
    | nil => exact absurd eq padded_ne_nil
    | cons d ds =>
      have digit : d.isDigit := isDigit_of_mem_padded (eq ▸ List.mem_cons_self)
      rw [eq] at read
      have year := year_plain digit read named
      rwa [whole] at year
  · next signed =>
    have read := number_sign small rest
    split
    · next negative =>
      have whole : -(y.natAbs : Int) = y := by omega
      have year := year_minus read (whole.symm ▸ named)
      rwa [whole] at year
    · next positive =>
      have whole : (y.natAbs : Int) = y := by omega
      have year := year_plus read (whole.symm ▸ named)
      rwa [whole] at year

/-! ### The time of day -/

lemma fraction_padded {width n : Nat} (some : 0 < width) (room : width ≤ 9)
    (fits : n < Nat.pow 10 width) :
    fraction ('.' :: padded width n ++ ['Z']) = .ok (n * Nat.pow 10 (9 - width), ['Z']) := by
  have small : n < Nat.pow 2 63 :=
    Nat.lt_of_lt_of_le fits (Nat.le_trans (Nat.pow_le_pow_right (by decide) room) (by decide))
  have length := length_padded some fits
  have ended : NoDigit ['Z'] := noDigit_cons rfl []
  have read := number_append (fun _ => isDigit_of_mem_padded) padded_ne_nil
    (digitsValue_padded.symm ▸ small) (.inr ⟨length.symm ▸ room, ended⟩)
  rw [digitsValue_padded] at read
  have count : (padded width n ++ ['Z']).length - ['Z'].length = width := by
    rw [List.length_append, Nat.add_sub_cancel, length]
  rw [List.cons_append, fraction]
  refine bind_eq_ok.2 ⟨(n, ['Z']), read, ?_⟩
  dsimp only
  rw [count]
  rfl

/-- The nanoseconds of a second are read back from the digits they need. -/
lemma fraction_fractionText {nanos : Nat} (small : nanos < 1000000000) :
    fraction (fractionText nanos ++ ['Z']) = .ok (nanos, ['Z']) := by
  unfold fractionText
  split
  · next none =>
    rw [none]
    rfl
  split
  · next millis =>
    have fits : nanos / 1000000 < 1000 := by omega
    have read : fraction ('.' :: padded 3 (nanos / 1000000) ++ ['Z']) =
        .ok (nanos / 1000000 * 1000000, ['Z']) := fraction_padded (by decide) (by decide) fits
    rw [read, Nat.div_mul_cancel (Nat.dvd_of_mod_eq_zero millis)]
  split
  · next micros =>
    have fits : nanos / 1000 < 1000000 := by omega
    have read : fraction ('.' :: padded 6 (nanos / 1000) ++ ['Z']) =
        .ok (nanos / 1000 * 1000, ['Z']) := fraction_padded (by decide) (by decide) fits
    rw [read, Nat.div_mul_cancel (Nat.dvd_of_mod_eq_zero micros)]
  · have read : fraction ('.' :: padded 9 nanos ++ ['Z']) = .ok (nanos * 1, ['Z']) :=
      fraction_padded (by decide) (by decide) small
    rw [read, Nat.mul_one]

/-! ### Instants -/

section Instant

variable {t : Instant}

/-- A second of 60 is the leap second that the nanoseconds have run on to. -/
lemma second_div (representable : t.Representable) (leap : t.LeapEndsMinute) :
    (t.secondOfDay.toNat % 60 + t.nanos / 1000000000) / 60 = t.nanos / 1000000000 := by
  obtain ⟨-, -, nanos⟩ := representable
  unfold Instant.LeapEndsMinute at leap
  unfold Instant.secondOfDay
  omega

lemma valid_date (representable : t.Representable) : (Date.ofDays (t.secs / 86400)).Valid := by
  obtain ⟨first, last, -⟩ := representable
  unfold Instant.minSecs at first
  unfold Instant.maxSecs at last
  exact Date.valid_ofDays (by omega) (by omega)

lemma assemble_ofDays (representable : t.Representable) (leap : t.LeapEndsMinute) :
    assemble (Date.ofDays (t.secs / 86400)) (t.secondOfDay.toNat / 3600)
      (t.secondOfDay.toNat / 60 % 60) (t.secondOfDay.toNat % 60 + t.nanos / 1000000000)
      (t.nanos % 1000000000) 0 = .ok t := by
  have secs : t.secs / 86400 * 86400 + ((t.secondOfDay.toNat / 3600 * 3600 +
      t.secondOfDay.toNat / 60 % 60 * 60 + (t.secondOfDay.toNat % 60 + t.nanos / 1000000000 -
        t.nanos / 1000000000) : Nat) : Int) - 0 = t.secs := by
    unfold Instant.secondOfDay
    omega
  have nanos : t.nanos % 1000000000 + t.nanos / 1000000000 * 1000000000 = t.nanos := by omega
  unfold assemble
  rw [if_neg (not_or.2 ⟨not_not.2 (valid_date representable), by decide⟩)]
  dsimp only
  rw [second_div representable leap, Date.toDays_ofDays, secs, nanos, Instant.checked,
    if_pos representable]

/-- **A timestamp is read back as it was written**, for every point in time of the calendar that is
no leap second but at the end of a minute. -/
theorem parse_chars (representable : t.Representable) (leap : t.LeapEndsMinute) :
    parse (chars t) = .ok t := by
  obtain ⟨firstYear, lastYear, firstMonth, lastMonth, firstDay, lastDay⟩ := valid_date representable
  have named : NamesYear (Date.ofDays (t.secs / 86400)).year :=
    ⟨Int.le_trans (by decide) firstYear, Int.lt_of_le_of_lt lastYear (by decide)⟩
  have lastDay := Nat.le_trans lastDay (Date.daysInMonth_le _ _)
  have assembled := assemble_ofDays representable leap
  obtain ⟨-, -, nanos⟩ := representable
  have second : t.secondOfDay.toNat < 86400 := by
    unfold Instant.secondOfDay
    omega
  have part : t.nanos % 1000000000 < 1000000000 := Nat.mod_lt _ (by decide)
  unfold parse chars
  simp only [List.append_assoc, List.cons_append]
  -- each part is read up to the mark behind it, from the year to the offset
  refine bind_eq_ok.2 ⟨_, year_yearText named _, ?_⟩
  refine bind_eq_ok.2 ⟨_, separator_cons rfl _, ?_⟩
  refine bind_eq_ok.2 ⟨_, field_padded ⟨firstMonth, lastMonth⟩ (by omega) _, ?_⟩
  refine bind_eq_ok.2 ⟨_, separator_cons rfl _, ?_⟩
  refine bind_eq_ok.2 ⟨_, field_padded ⟨firstDay, lastDay⟩ (by omega) _, ?_⟩
  refine bind_eq_ok.2 ⟨_, timeMark_cons _, ?_⟩
  refine bind_eq_ok.2 ⟨_, field_padded ⟨Nat.zero_le _, by omega⟩ (by omega) _, ?_⟩
  refine bind_eq_ok.2 ⟨_, separator_cons rfl _, ?_⟩
  refine bind_eq_ok.2 ⟨_, field_padded ⟨Nat.zero_le _, by omega⟩ (by omega) _, ?_⟩
  refine bind_eq_ok.2 ⟨_, separator_cons rfl _, ?_⟩
  refine bind_eq_ok.2 ⟨_, field_padded ⟨Nat.zero_le _, by omega⟩ (by omega) _, ?_⟩
  refine bind_eq_ok.2 ⟨_, fraction_fractionText part, ?_⟩
  exact bind_eq_ok.2 ⟨(0, []), rfl, assembled⟩

/-! ### What is read -/

section Read

variable {cs rest : List Char} {n : Nat}

lemma field_le {least most : Nat} (ok : field least most cs = .ok (n, rest)) : n ≤ most := by
  obtain ⟨⟨m, after⟩, -, ok⟩ := bind_eq_ok.1 ok
  dsimp only at ok
  split at ok
  · next inside =>
    cases ok
    exact inside.2
  · cases ok

lemma number_eq_ok {width : Nat} (ok : number width cs = .ok (n, rest)) :
    ∃ ds, (∀ c ∈ ds, c.isDigit) ∧ ds.length ≤ width ∧ ds.length + rest.length = cs.length ∧
      n = digitsValue ds := by
  unfold number at ok
  dsimp only at ok
  split at ok
  · cases ok
  split at ok
  · cases ok
  split at ok
  · cases ok
  · cases ok
    have first : ((cs.take width).takeWhile Char.isDigit).length ≤ (cs.take width).length :=
      (List.takeWhile_sublist _).length_le
    rw [List.length_take] at first
    refine ⟨_, fun c mem => List.mem_takeWhile_imp mem, by omega, ?_, rfl⟩
    rw [List.length_drop]
    omega

lemma fraction_lt (ok : fraction cs = .ok (n, rest)) : n < 1000000000 := by
  unfold fraction at ok
  split at ok
  · next cs =>
    obtain ⟨⟨m, after⟩, read, ok⟩ := bind_eq_ok.1 ok
    obtain ⟨ds, digits, short, parts, rfl⟩ := number_eq_ok read
    cases ok
    have count : cs.length - after.length = ds.length := by omega
    rw [count]
    calc digitsValue ds * Nat.pow 10 (9 - ds.length)
        < Nat.pow 10 ds.length * Nat.pow 10 (9 - ds.length) :=
          Nat.mul_lt_mul_of_pos_right (digitsValue_lt digits) (Nat.pow_pos (by decide))
      _ = Nat.pow 10 9 := by
          have whole := Nat.pow_add 10 ds.length (9 - ds.length)
          rw [Nat.add_sub_cancel' short] at whole
          exact whole.symm
  · cases ok
    decide

lemma offsetDigits_mod (ok : offsetDigits cs = .ok (n, rest)) : n % 60 = 0 := by
  obtain ⟨⟨hours, after⟩, -, ok⟩ := bind_eq_ok.1 ok
  obtain ⟨⟨minutes, after⟩, -, ok⟩ := bind_eq_ok.1 ok
  dsimp only at ok
  split at ok
  · cases ok
    omega
  · cases ok

lemma offset_mod {seconds : Int} (ok : offset cs = .ok (seconds, rest)) : seconds % 60 = 0 := by
  unfold offset at ok
  split at ok
  · cases ok
  split at ok
  · cases ok
    rfl
  split at ok
  · cases ok
    rfl
  split at ok
  · obtain ⟨⟨n, after⟩, read, same⟩ := map_eq_ok.1 ok
    have minutes := offsetDigits_mod read
    cases same
    omega
  split at ok
  · obtain ⟨⟨n, after⟩, read, same⟩ := map_eq_ok.1 ok
    have minutes := offsetDigits_mod read
    cases same
    omega
  · cases ok

end Read

lemma of_assemble {date : Date} {hour minute second nanos : Nat} {offset : Int}
    (ok : assemble date hour minute second nanos offset = .ok t) (seconds : second ≤ 60)
    (part : nanos < 1000000000) (minutes : offset % 60 = 0) :
    t.Representable ∧ t.LeapEndsMinute := by
  unfold assemble at ok
  split at ok
  · cases ok
  · dsimp only at ok
    split at ok
    · next t' checked =>
      obtain rfl := Except.ok.inj ok
      unfold Instant.checked at checked
      split at checked
      · next representable =>
        obtain rfl := Option.some.inj checked
        refine ⟨representable, ?_⟩
        unfold Instant.LeapEndsMinute
        dsimp only
        rcases Nat.lt_or_ge second 60 with plain | leap
        · rw [Nat.div_eq_of_lt plain]
          omega
        · obtain rfl : second = 60 := Nat.le_antisymm seconds leap
          omega
      · cases checked
    · cases ok

/-- A timestamp that is read, in whatever notation, is a point in time of the calendar, and no leap
second but at the end of a minute. -/
theorem representable_of_parse {cs : List Char} (ok : parse cs = .ok t) :
    t.Representable ∧ t.LeapEndsMinute := by
  obtain ⟨⟨year, rest⟩, -, ok⟩ := bind_eq_ok.1 ok
  obtain ⟨rest, -, ok⟩ := bind_eq_ok.1 ok
  obtain ⟨⟨month, rest⟩, -, ok⟩ := bind_eq_ok.1 ok
  obtain ⟨rest, -, ok⟩ := bind_eq_ok.1 ok
  obtain ⟨⟨day, rest⟩, -, ok⟩ := bind_eq_ok.1 ok
  obtain ⟨rest, -, ok⟩ := bind_eq_ok.1 ok
  obtain ⟨⟨hour, rest⟩, -, ok⟩ := bind_eq_ok.1 ok
  obtain ⟨rest, -, ok⟩ := bind_eq_ok.1 ok
  obtain ⟨⟨minute, rest⟩, -, ok⟩ := bind_eq_ok.1 ok
  obtain ⟨rest, -, ok⟩ := bind_eq_ok.1 ok
  obtain ⟨⟨second, rest⟩, seconds, ok⟩ := bind_eq_ok.1 ok
  obtain ⟨⟨nanos, rest⟩, part, ok⟩ := bind_eq_ok.1 ok
  obtain ⟨⟨offset, rest⟩, minutes, ok⟩ := bind_eq_ok.1 ok
  dsimp only at ok
  split at ok
  · exact of_assemble ok (field_le seconds) (fraction_lt part) (offset_mod minutes)
  · cases ok

end Instant

end Rfc3339

namespace Instant

/-! ### What a timestamp tells -/

/-- The point in time that a timestamp tells: a leap second that does not end a minute is the second
that comes next. -/
def told (t : Instant) : Instant :=
  if t.LeapEndsMinute then t else ⟨t.secs + 1, t.nanos - 1000000000⟩

variable {t : Instant}

/-- A point in time of the calendar is read back from its text. -/
theorem parse_text (representable : t.Representable) (leap : t.LeapEndsMinute) :
    parse t.text = .ok t := by
  rw [parse, text, String.toList_ofList, Rfc3339.parse_chars representable leap]

lemma leapEndsMinute_told (representable : t.Representable) : t.told.LeapEndsMinute := by
  obtain ⟨-, -, nanos⟩ := representable
  unfold told
  split
  · next leap => exact leap
  · refine .inl ?_
    dsimp only
    omega

lemma representable_told (representable : t.Representable) : t.told.Representable := by
  unfold told
  split
  · exact representable
  · next within =>
    obtain ⟨least, most, nanos⟩ := representable
    unfold LeapEndsMinute at within
    -- the calendar ends with a minute, so the next second is still one of it
    have last : maxSecs % 60 = 59 := by decide
    refine ⟨?_, ?_, ?_⟩ <;> dsimp only <;> omega

/-- **A leap second within a minute looks like the second that comes next.** -/
theorem text_told (representable : t.Representable) : t.told.text = t.text := by
  unfold told
  split
  · rfl
  next within =>
  obtain ⟨-, -, nanos⟩ := representable
  unfold LeapEndsMinute at within
  have day : (t.secs + 1) / 86400 = t.secs / 86400 := by omega
  have second : ((t.secs + 1) % 86400).toNat = (t.secs % 86400).toNat + 1 := by omega
  have hour : ((t.secs % 86400).toNat + 1) / 3600 = (t.secs % 86400).toNat / 3600 := by omega
  have minute : ((t.secs % 86400).toNat + 1) / 60 = (t.secs % 86400).toNat / 60 := by omega
  have shown : ((t.secs % 86400).toNat + 1) % 60 + (t.nanos - 1000000000) / 1000000000 =
      (t.secs % 86400).toNat % 60 + t.nanos / 1000000000 := by omega
  have part : (t.nanos - 1000000000) % 1000000000 = t.nanos % 1000000000 := by omega
  simp only [text, Rfc3339.chars, secondOfDay, day, second, hour, minute, shown, part]

end Instant

/-- The leap second before the year 0. -/
example : (⟨-62167219201, 1500000000⟩ : Instant).text = "-0001-12-31T23:59:60.500Z" := by
  decide +kernel

end TunnelKeeper
