import TunnelKeeper.Config.Store
import TunnelKeeper.Proofs.Toml.Records

/-!
Settings that were saved are loaded again, with their durations in whole seconds. Saving checks the
settings before their durations lose the parts of a second and loading checks them afterwards: the
checks of the windows and the thresholds agree, that of the deadline does not.
-/

namespace TunnelKeeper

open Record (Scalar FieldShape Datum IntRange Payload u16 u32 u64)
open Toml (bind_eq_ok)

/-! ### Files -/

namespace Files

lemma enter_eq_ok {files : Files} {place next : Place} {name : String}
    (ok : files.enter place name = .ok next) : files.node? place = some .directory := by
  unfold enter at ok
  split at ok
  · cases ok
  · cases ok
  · next eq => exact eq

lemma node?_put {files : Files} {place : Place} (inside : place ≠ []) (node : Node) :
    (files.put place node).node? place = some node := by
  unfold node? put
  rw [if_neg inside, List.lookup_cons_self]

lemma node?_put_of_ne {files : Files} {place other : Place} (apart : other ≠ place) (node : Node) :
    (files.put place node).node? other = files.node? other := by
  unfold node? put
  rw [List.lookup_cons, beq_eq_false_iff_ne.2 apart]

section Put

variable {files : Files} {new : Place} {node : Node} (free : files.node? new ≠ some .directory)
include free

lemma enter_put {place next : Place} {name : String} (ok : files.enter place name = .ok next) :
    (files.put new node).enter place name = .ok next := by
  have apart : place ≠ new := by
    rintro rfl
    exact free (enter_eq_ok ok)
  unfold enter at ok ⊢
  rw [node?_put_of_ne apart]
  exact ok

/-- A file in the place of no directory changes no way that led somewhere. -/
lemma walk_put {place last : Place} {names : List String} (ok : files.walk place names = .ok last) :
    (files.put new node).walk place names = .ok last := by
  induction names generalizing place with
  | nil => exact ok
  | cons name names ih =>
    rw [walk] at ok ⊢
    obtain ⟨next, entered, ok⟩ := bind_eq_ok.1 ok
    rw [enter_put free entered]
    exact ih ok

end Put

lemma walk_append {files : Files} {place : Place} (names more : List String) :
    files.walk place (names ++ more) =
      files.walk place names >>= fun next => files.walk next more := by
  induction names generalizing place with
  | nil => rfl
  | cons name names ih =>
    rw [List.cons_append, walk, walk]
    cases files.enter place name with
    | error fault => rfl
    | ok next => exact ih

/-- A list that loses nothing at its end is the same list. -/
lemma trimmed_eq {names : List String}
    (whole : ¬ (names.reverse.dropWhile (· = "")).reverse.length < names.length) :
    (names.reverse.dropWhile (· = "")).reverse = names := by
  have all := (List.dropWhile_suffix (l := names.reverse) (· = "")).eq_of_length_le (by
    simpa using whole)
  rw [all, List.reverse_reverse]

lemma write_eq_ok {files files' : Files} {path : String} {bytes : ByteArray}
    (written : files.write path bytes = .ok files') :
    ∃ place, files.locate path = .ok place ∧ files.node? place ≠ some .directory ∧
      files' = files.put place (.file bytes) := by
  obtain ⟨_, checked, written⟩ := bind_eq_ok.1 written
  obtain ⟨parent, above, written⟩ := bind_eq_ok.1 written
  obtain ⟨place, entered, written⟩ := bind_eq_ok.1 written
  split at written
  · cases written
  · next whole =>
    rw [trimmed_eq whole] at above entered
    split at written
    · cases written
    · next other =>
      obtain rfl := Except.ok.inj written
      refine ⟨place, ?_, other, rfl⟩
      rw [locate, checked]
      cases last : (names path).getLast? with
      | none =>
        rw [last, Option.getD_none] at entered
        have there := enter_eq_ok entered
        rw [enter, there] at entered
        obtain rfl := Except.ok.inj entered
        exact absurd there other
      | some name =>
        rw [last, Option.getD_some] at entered
        obtain ⟨front, whole⟩ := List.getLast?_eq_some_iff.1 last
        rw [whole, List.dropLast_concat] at above
        have onward : files.walk parent [name] = .ok place := bind_eq_ok.2 ⟨place, entered, rfl⟩
        rw [whole]
        change files.walk [] (front ++ [name]) = .ok place
        rw [walk_append]
        exact bind_eq_ok.2 ⟨parent, above, onward⟩

/-- What was written is read. -/
theorem read_write {files files' : Files} {path : String} {bytes : ByteArray}
    (written : files.write path bytes = .ok files') : files'.read path = .ok bytes := by
  obtain ⟨place, located, free, rfl⟩ := write_eq_ok written
  obtain ⟨_, checked, walked⟩ := bind_eq_ok.1 located
  have inside : place ≠ [] := by
    rintro rfl
    exact free rfl
  have there : (files.put place (.file bytes)).locate path = .ok place := by
    rw [locate, checked]
    exact walk_put free walked
  rw [read, there]
  simp only [bind, Except.bind]
  rw [node?_put inside]

end Files

/-! ### Whole seconds -/

namespace Duration

lemma not_truncate_lt {a b : Duration} (le : ¬ b < a) : ¬ b.truncate < a.truncate := by
  have part := b.nanos.isLt
  change ¬ b.secs.toNat * 1000000000 + b.nanos.val < a.secs.toNat * 1000000000 + a.nanos.val at le
  have order : a.secs.toNat ≤ b.secs.toNat := by omega
  exact Nat.not_lt.2 (Nat.add_le_add_right (Nat.mul_le_mul_right _ order) _)

lemma truncate_eq_zero (d : Duration) : d.truncate = zero ↔ d.secs = 0 := by
  simp [truncate, ofSecs, zero]

lemma ofSecs_secs (d : Duration) : ofSecs (d.secs.toNat : Int).toNat.toUInt64 = d.truncate := by
  simp [truncate]

end Duration

namespace Jitter

/-- The window between the whole seconds of its ends. -/
def wholeSeconds (j : Jitter) : Jitter := ⟨j.min.truncate, j.max.truncate⟩

lemma ofScalars?_toScalars (j : Jitter) : ofScalars? j.toScalars = some j.wholeSeconds := by
  rw [toScalars, ofScalars?, Duration.ofSecs_secs, Duration.ofSecs_secs]
  rfl

lemma wholeSeconds_of_ofScalars? {values : List Scalar} {j : Jitter}
    (made : ofScalars? values = some j) : j.wholeSeconds = j := by
  unfold ofScalars? at made
  split at made
  · cases made
    rfl
  · cases made

end Jitter

namespace Config

/-- The settings with each duration truncated to whole seconds. -/
def wholeSeconds (c : Config) : Config :=
  { c with
    backendTimeout := c.backendTimeout.truncate
    renewalSettle := c.renewalSettle.truncate
    runtimePollInterval := c.runtimePollInterval.truncate
    renewalJitter := c.renewalJitter.wholeSeconds
    reconnectJitter := c.reconnectJitter.wholeSeconds }

/-- Settings are usable if no window is inverted, no warning comes before its renewal is due, and
calls have some time. -/
lemma valid_iff {c : Config} : c.Valid ↔
    ¬ c.renewalJitter.max < c.renewalJitter.min ∧ ¬ c.reconnectJitter.max < c.reconnectJitter.min ∧
      ¬ c.renewBeforeDays < c.warnBeforeDays ∧ c.backendTimeout ≠ .zero := by
  unfold Valid conflict?
  constructor
  · intro valid
    split at valid
    · cases valid
    next renewal =>
      split at valid
      · cases valid
      next reconnect =>
        split at valid
        · cases valid
        next days =>
          split at valid
          · cases valid
          next deadline => exact ⟨renewal, reconnect, days, deadline⟩
  · intro ⟨renewal, reconnect, days, deadline⟩
    rw [if_neg renewal, if_neg reconnect, if_neg days, if_neg deadline]

/-- Settings that are usable stay so in whole seconds, except for a deadline below one second. -/
lemma conflict?_wholeSeconds {c : Config} (valid : c.Valid) :
    c.wholeSeconds.conflict? = if c.backendTimeout.secs = 0 then some .zeroTimeout else none := by
  obtain ⟨renewal, reconnect, days, -⟩ := valid_iff.1 valid
  unfold conflict?
  refine (if_neg (Duration.not_truncate_lt renewal)).trans ?_
  refine (if_neg (Duration.not_truncate_lt reconnect)).trans ?_
  refine (if_neg days).trans ?_
  exact if_congr (Duration.truncate_eq_zero _) rfl rfl

/-! ### The record -/

lemma ofData?_toData (c : Config) :
    Payload.ofData? (Payload.toData c) = some c.wholeSeconds := by
  change ofData? c.toData = some c.wholeSeconds
  have token : textOf? (.ofText? c.accessToken) = some c.accessToken := by
    cases c.accessToken <;> rfl
  simp only [toData, ofData?, token, Jitter.ofScalars?_toScalars, Duration.ofSecs_secs]
  simp [wholeSeconds]

lemma wholeSeconds_of_ofData? {data : List Datum} {c : Config} (made : ofData? data = some c) :
    c.wholeSeconds = c := by
  unfold ofData? at made
  split at made
  · obtain ⟨token, -, made⟩ := Option.bind_eq_some_iff.1 made
    obtain ⟨renewal, first, made⟩ := Option.bind_eq_some_iff.1 made
    obtain ⟨reconnect, second, made⟩ := Option.bind_eq_some_iff.1 made
    cases made
    unfold wholeSeconds
    dsimp only
    rw [Jitter.wholeSeconds_of_ofScalars? first, Jitter.wholeSeconds_of_ofScalars? second]
    rfl
  · cases made

lemma length_toData (c : Config) :
    (Payload.toData c).length = (Payload.shape Config).fields.length := rfl

lemma fields_eq : (Payload.shape Config).fields =
    (fieldNames.zip (toData {})).map fun ((key, shape), fallback) => setting key shape fallback :=
  rfl

lemma tidyShape : Toml.TidyShape (Payload.shape Config) := by
  have keys : (Payload.shape Config).fields.map (·.key) = fieldNames.map Prod.fst := rfl
  refine ⟨?_, ?_⟩
  · rw [keys]
    exact ⟨by decide +kernel, by decide +kernel⟩
  · have window : Toml.Tidy (Jitter.shape.fields.map (·.key)) :=
      ⟨by decide +kernel, by decide +kernel⟩
    simp [fields_eq, fieldNames, toData, setting, window]

lemma fits_bits {range : IntRange} {optional : Prop} {n bits : Nat} (least : range.least = 0)
    (most : range.most = Int.pow 2 bits - 1) (small : n < Nat.pow 2 bits) :
    Toml.FitsScalar (.integer range) optional (.integer n) where
  fits := by
    have power : Int.pow 2 bits = (Nat.pow 2 bits : Nat) := (Int.natCast_pow 2 bits).symm
    constructor <;> omega
  timeless := nofun
  missing := nofun

lemma fits_seconds {optional : Prop} (d : Duration) :
    Toml.FitsScalar (.integer u64) optional (.integer d.secs.toNat) :=
  fits_bits rfl rfl d.secs.toNat_lt

lemma fits_window (j : Jitter) : Toml.FitsRecord Jitter.shape j.toScalars where
  length := rfl
  each := by
    simp only [Jitter.shape, Jitter.toScalars, List.zip_cons_cons, List.zip_nil_left,
      List.forall_mem_cons]
    exact ⟨fits_seconds _, fits_seconds _, nofun⟩

lemma fits_token (token : Option String) :
    Toml.FitsScalar .optionalText (some (Datum.scalar .none) = some (.scalar .none))
      (.ofText? token) where
  fits := by cases token <;> trivial
  timeless := nofun
  missing := fun _ => rfl

lemma fits_toData (c : Config) : ∀ pair ∈ (Payload.shape Config).fields.zip (Payload.toData c),
    Toml.FitsField pair.1 pair.2 := by
  rw [fields_eq]
  change ∀ pair ∈ List.zip _ c.toData, _
  simp only [fieldNames, toData, setting, List.zip_cons_cons, List.zip_nil_left, List.map_cons,
    List.map_nil, List.forall_mem_cons]
  exact ⟨.scalar ⟨trivial, nofun, nofun⟩, .scalar (fits_token _),
    .scalar (fits_bits rfl rfl c.relayPort.toNat_lt), .scalar (fits_seconds _),
    .scalar (fits_bits rfl rfl c.renewBeforeDays.toNat_lt),
    .scalar (fits_bits rfl rfl c.warnBeforeDays.toNat_lt), .scalar (fits_seconds _),
    .scalar (fits_seconds _), .record (fits_window _), .record (fits_window _), nofun⟩

lemma notBelow_natural (n : Nat) : Toml.NotBelow (.integer n) := by
  change -((2 ^ 63 : Nat) : Int) ≤ n
  omega

lemma notBelow_toData (c : Config) :
    ∀ datum ∈ Payload.toData c, ∀ s ∈ Toml.scalarsOf datum, Toml.NotBelow s := by
  have url : Toml.NotBelow (.text c.apiUrl) := trivial
  have token : Toml.NotBelow (.ofText? c.accessToken) := by cases c.accessToken <;> trivial
  change ∀ datum ∈ c.toData, _
  simp only [toData, Jitter.toScalars, List.forall_mem_cons, Toml.scalarsOf]
  simp [url, token, notBelow_natural]

/-! ### Loading what was saved -/

/-- Stated about the function as a whole: the kernel would evaluate the checks of single settings,
and there the seconds of a duration become nanoseconds one by one. -/
lemma validate_eq : validate = fun c => match c.conflict? with
    | some conflict => .error (.invalid (.conflict conflict))
    | none => .ok () := rfl

lemma validate_of_conflict {c : Config} {conflict : Conflict}
    (found : c.conflict? = some conflict) :
    c.validate = .error (.invalid (.conflict conflict)) := by
  rw [validate_eq]
  simp only [found]

lemma validate_of_valid {c : Config} (valid : c.conflict? = none) : c.validate = .ok () := by
  rw [validate_eq]
  simp only [valid]

lemma valid_of_validate {c : Config} (ok : c.validate = .ok ()) : c.Valid := by
  cases found : c.conflict? with
  | none => exact found
  | some conflict =>
    rw [validate_of_conflict found] at ok
    cases ok

/-- The text of settings is read back as the settings in whole seconds, if these are usable. -/
lemma ofText_toText {c : Config} {text : String} (written : c.toText = .ok text) :
    ofText text =
      if c.backendTimeout.secs = 0 then .error (.invalid (.conflict .zeroTimeout))
      else .ok c.wholeSeconds := by
  obtain ⟨_, valid, written⟩ := bind_eq_ok.1 written
  split at written
  · next encoded ok =>
    obtain rfl := Except.ok.inj written
    have decoded : Toml.decode Config encoded = .ok c.wholeSeconds :=
      Toml.decode_encode tidyShape (length_toData c) (fits_toData c) (notBelow_toData c)
        (ofData?_toData c) ok
    have checked := conflict?_wholeSeconds (valid_of_validate valid)
    rw [ofText, decoded]
    by_cases zero : c.backendTimeout.secs = 0
    · rw [if_pos zero] at checked ⊢
      simp only [validate_of_conflict checked]
      rfl
    · rw [if_neg zero] at checked ⊢
      simp only [validate_of_valid checked]
      rfl
  · cases written

lemma exists_of_isOk {ε α : Type} {x : Except ε α} (ok : x.isOk) : ∃ a, x = .ok a := by
  cases x with
  | error e => cases ok
  | ok a => exact ⟨a, rfl⟩

lemma fromUTF8?_toUTF8 (s : String) : String.fromUTF8? s.toUTF8 = some s := by
  simp only [String.fromUTF8?, String.toUTF8_eq_toByteArray, dif_pos s.isValidUTF8]
  rfl

lemma load_of_save {files files' : Files} {path : String} {c : Config}
    (saved : save files path c = .ok files') :
    ∃ text, c.toText = .ok text ∧ load files' path = ofText text := by
  obtain ⟨text, written, saved⟩ := bind_eq_ok.1 saved
  split at saved
  · next put =>
    obtain rfl := Except.ok.inj saved
    obtain ⟨above, -, put⟩ := bind_eq_ok.1 put
    refine ⟨text, written, ?_⟩
    rw [load, Files.read_write put]
    simp only [fromUTF8?_toUTF8]
  · cases saved

/-- Settings that were saved are loaded with their durations in whole seconds, unless that leaves
the backend no time to answer. -/
theorem saved_loads_back {files files' : Files} {path : String} {c : Config}
    (saved : save files path c = .ok files') :
    load files' path =
      if c.backendTimeout.secs = 0 then .error (.invalid (.conflict .zeroTimeout))
      else .ok c.wholeSeconds := by
  obtain ⟨text, written, loaded⟩ := load_of_save saved
  rw [loaded]
  exact ofText_toText written

/-- A text that needs escapes, and parts of a second in a deadline and in a window. -/
theorem quoted_token_loads_back :
    ∃ files', save {} "conf/remote.toml"
        { accessToken := some "a\"b'\n\\c", backendTimeout := ⟨7, 900000000⟩,
          renewalJitter := ⟨⟨1, 500000000⟩, ⟨1, 999999999⟩⟩ } = .ok files' ∧
      load files' "conf/remote.toml" = .ok
        { accessToken := some "a\"b'\n\\c", backendTimeout := ⟨7, 0⟩,
          renewalJitter := ⟨⟨1, 0⟩, ⟨1, 0⟩⟩ } := by
  obtain ⟨files', saved⟩ := exists_of_isOk (x := save {} "conf/remote.toml"
    { accessToken := some "a\"b'\n\\c", backendTimeout := ⟨7, 900000000⟩,
      renewalJitter := ⟨⟨1, 500000000⟩, ⟨1, 999999999⟩⟩ }) (by decide +kernel)
  exact ⟨files', saved, (saved_loads_back saved).trans rfl⟩

/-- Half a second passes the check on saving, is written as no time at all, and is refused on
loading. -/
theorem half_second_is_refused :
    ∃ files', save {} "remote.toml" { backendTimeout := ⟨0, 500000000⟩ } = .ok files' ∧
      load files' "remote.toml" = .error (.invalid (.conflict .zeroTimeout)) := by
  obtain ⟨files', saved⟩ := exists_of_isOk (x := save {} "remote.toml"
    { backendTimeout := ⟨0, 500000000⟩ }) (by decide +kernel)
  obtain ⟨text, written, loaded⟩ := load_of_save saved
  exact ⟨files', saved, loaded.trans (ofText_toText written)⟩

end Config

end TunnelKeeper
