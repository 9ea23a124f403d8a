import TunnelKeeper.Proofs.Settings
import TunnelKeeper.Proofs.Toml.Tables

/-!
Settings that were loaded can be saved wherever a file can be written, and are loaded again as they
are. Saving refuses whole numbers beyond 64 bits with a sign and loses parts of a second, but no
document has the former, and what is loaded has no latter.
-/

namespace TunnelKeeper

open Record (Fault Scalar ScalarShape Field FieldShape FlatShape Datum RecordShape Payload)

namespace Toml

/-! ### What is read can be written -/

/-- Writing takes the scalar: it is no whole number beyond 64 bits with a sign. -/
def NotAbove : Scalar → Prop
  | .integer i => i < Int.pow 2 63
  | _ => True

/-- Writing takes every scalar of the field. -/
def Writable (datum : Datum) : Prop := ∀ s ∈ scalarsOf datum, NotAbove s

lemma readScalar_notAbove {shape : ScalarShape} {v : Value} {s : Scalar} (sound : v.Sound)
    (read : readScalar shape v = .ok s) : NotAbove s := by
  unfold readScalar at read
  split at read
  · cases read
    trivial
  · cases read
    trivial
  · next i =>
    obtain ⟨same, checked, rfl⟩ := map_eq_ok.1 read
    unfold Record.IntRange.check at checked
    split at checked
    · cases checked
      cases sound with
      | integer fits =>
        have most : i ≤ Int.pow 2 63 - 1 := fits.2
        show i < Int.pow 2 63
        omega
    · cases checked
  · split at read
    · cases read
      trivial
    · cases read
  · cases read

section Record

variable {σ δ : Type} {read : σ → Value → Except Fault δ} {P : δ → Prop}

/-- What is read for these fields, and what they fall back to, has the property. -/
structure Yields (read : σ → Value → Except Fault δ) (P : δ → Prop) (fields : List (Field σ δ)) :
    Prop where
  reads : ∀ field ∈ fields, ∀ v d, v.Sound → read field.shape v = .ok d → P d
  fallbacks : ∀ field ∈ fields, ∀ d, field.fallback = some d → P d

lemma Yields.tail {field : Field σ δ} {fields : List (Field σ δ)}
    (yields : Yields read P (field :: fields)) : Yields read P fields :=
  ⟨(List.forall_mem_cons.1 yields.reads).2, (List.forall_mem_cons.1 yields.fallbacks).2⟩

lemma Yields.readEntries {shape : Record.Shape σ δ} (yields : Yields read P shape.fields)
    {entries : Entries} (each : ∀ entry ∈ entries, entry.2.Sound) {found : List (String × δ)}
    (ok : readEntries read shape entries = .ok found) : ∀ pair ∈ found, P pair.2 := by
  induction entries generalizing found with
  | nil =>
    cases ok
    exact List.forall_mem_nil _
  | cons entry entries ih =>
    obtain ⟨sound, each⟩ := List.forall_mem_cons.1 each
    unfold Toml.readEntries at ok
    split at ok
    · exact ih each ok
    · next field known =>
      obtain ⟨d, here, ok⟩ := bind_eq_ok.1 ok
      obtain ⟨more, later, eq⟩ := bind_eq_ok.1 ok
      cases eq
      exact List.forall_mem_cons.2
        ⟨yields.reads field (List.mem_of_find?_eq_some known) _ _ sound here, ih each later⟩

lemma Yields.readItems {shape : Record.Shape σ δ} {fields : List (Field σ δ)}
    (yields : Yields read P fields) {values : List Value} (each : ∀ v ∈ values, v.Sound)
    {count : Nat} {data : List δ} (ok : readItems read shape fields count values = .ok data) :
    ∀ d ∈ data, P d := by
  induction fields generalizing values count data with
  | nil =>
    unfold Toml.readItems at ok
    cases ok
    exact List.forall_mem_nil _
  | cons field fields ih =>
    cases values with
    | cons v values =>
      obtain ⟨sound, each⟩ := List.forall_mem_cons.1 each
      obtain ⟨d, first, ok⟩ := bind_eq_ok.1 ok
      obtain ⟨more, later, eq⟩ := bind_eq_ok.1 ok
      cases eq
      exact List.forall_mem_cons.2
        ⟨yields.reads field List.mem_cons_self _ _ sound first, ih yields.tail each later⟩
    | nil =>
      unfold Toml.readItems at ok
      split at ok
      · next d fallback =>
        obtain ⟨more, later, rfl⟩ := map_eq_ok.1 ok
        exact List.forall_mem_cons.2
          ⟨yields.fallbacks field List.mem_cons_self d fallback, ih yields.tail each later⟩
      · cases ok

lemma Yields.complete {fields : List (Field σ δ)} (yields : Yields read P fields)
    {found : List (String × δ)} (each : ∀ pair ∈ found, P pair.2) {data : List δ}
    (ok : Record.complete fields found = .ok data) : ∀ d ∈ data, P d := by
  induction fields generalizing data with
  | nil =>
    cases ok
    exact List.forall_mem_nil _
  | cons field fields ih =>
    unfold Record.complete at ok
    split at ok
    · next d taken =>
      obtain ⟨more, later, rfl⟩ := map_eq_ok.1 ok
      refine List.forall_mem_cons.2 ⟨?_, ih yields.tail later⟩
      rcases Option.or_eq_some_iff.1 taken with there | ⟨-, fallback⟩
      · obtain ⟨before, after, rfl, -⟩ := List.lookup_eq_some_iff.1 there
        exact each _ (List.mem_append_right _ List.mem_cons_self)
      · exact yields.fallbacks field List.mem_cons_self d fallback
    · cases ok

/-- Whatever stands for a record, all of its data has the property that its fields yield. -/
lemma Yields.readRecord {shape : Record.Shape σ δ} (yields : Yields read P shape.fields) {v : Value}
    (sound : v.Sound) {data : List δ} (ok : readRecord read shape v = .ok data) :
    ∀ d ∈ data, P d := by
  unfold Toml.readRecord at ok
  split at ok
  · obtain ⟨found, entries, ok⟩ := bind_eq_ok.1 ok
    exact yields.complete (yields.readEntries sound.of_table.each entries) ok
  · exact yields.complete (List.forall_mem_nil _) ok
  · cases sound with
    | array each => exact yields.readItems each ok
  · refine yields.readItems (fun v mem => ?_) ok
    obtain ⟨entries, among, rfl⟩ := List.mem_map.1 mem
    exact .of_entries (sound.of_tables among)
  · cases ok

end Record

/-- The fields of a record of scalars yield what can be written, if what they fall back to can be. -/
lemma yields_notAbove {record : FlatShape}
    (fallbacks : ∀ field ∈ record.fields, ∀ s, field.fallback = some s → NotAbove s) :
    Yields readScalar NotAbove record.fields :=
  ⟨fun _ _ _ _ sound read => readScalar_notAbove sound read, fallbacks⟩

lemma readField_writable {shape : FieldShape} {v : Value} {d : Datum} (sound : v.Sound)
    (inner : ∀ record, shape = .record record →
      ∀ field ∈ record.fields, ∀ s, field.fallback = some s → NotAbove s)
    (read : readField shape v = .ok d) : Writable d := by
  cases shape with
  | scalar shape =>
    obtain ⟨s, inside, rfl⟩ := map_eq_ok.1 read
    exact fun _ mem => List.mem_singleton.1 mem ▸ readScalar_notAbove sound inside
  | record shape =>
    obtain ⟨values, inside, rfl⟩ := map_eq_ok.1 read
    exact (yields_notAbove (inner shape rfl)).readRecord sound inside

/-! ### Writing -/

lemma line_of_notAbove {s : Scalar} (small : NotAbove s) (key : String) :
    ∃ text, line key s = .ok text := by
  cases s with
  | none => exact ⟨_, rfl⟩
  | text s => exact ⟨_, rfl⟩
  | timestamp t => exact ⟨_, rfl⟩
  | integer i =>
    have written : scalarText? (.integer i) = .ok (some (toString i)) := if_pos small
    exact ⟨_, by rw [line, written]; rfl⟩

lemma lines_of_notAbove {values : List Scalar} (small : ∀ s ∈ values, NotAbove s)
    (keys : List String) : ∃ text, lines keys values = .ok text := by
  induction keys generalizing values with
  | nil => exact ⟨_, rfl⟩
  | cons key keys ih =>
    cases values with
    | nil => exact ⟨_, rfl⟩
    | cons s values =>
      obtain ⟨here, later⟩ := List.forall_mem_cons.1 small
      obtain ⟨first, one⟩ := line_of_notAbove here key
      obtain ⟨rest, more⟩ := ih later
      exact ⟨_, by rw [lines, one, more]; rfl⟩

lemma tableLine_of_writable {pair : Field FieldShape Datum × Datum} (small : Writable pair.2) :
    ∃ tables, tableLine pair = .ok tables := by
  unfold tableLine
  split
  · next inner values _ there =>
    rw [there] at small
    have small : ∀ s ∈ values, NotAbove s := small
    obtain ⟨text, written⟩ := lines_of_notAbove small (inner.fields.map (·.key))
    exact ⟨_, by rw [written]; rfl⟩
  · exact ⟨_, rfl⟩

lemma tables_of_writable {pairs : List (Field FieldShape Datum × Datum)}
    (small : ∀ pair ∈ pairs, Writable pair.2) : ∃ all, pairs.mapM tableLine = .ok all := by
  induction pairs with
  | nil => exact ⟨_, rfl⟩
  | cons pair pairs ih =>
    obtain ⟨here, later⟩ := List.forall_mem_cons.1 small
    obtain ⟨first, one⟩ := tableLine_of_writable here
    obtain ⟨rest, more⟩ := ih later
    exact ⟨_, by rw [List.mapM_cons, one, more]; rfl⟩

lemma dataText_of_writable {data : List Datum} (small : ∀ datum ∈ data, Writable datum)
    (shape : RecordShape) : ∃ text, dataText shape data = .ok text := by
  have flat : ∀ s ∈ data.map scalarOf, NotAbove s := by
    intro s mem
    obtain ⟨datum, among, rfl⟩ := List.mem_map.1 mem
    cases datum with
    | scalar s => exact small _ among s (List.mem_singleton_self s)
    | record values => trivial
  obtain ⟨scalars, first⟩ := lines_of_notAbove flat (shape.fields.map (·.key))
  obtain ⟨tables, second⟩ := tables_of_writable fun pair (mem : pair ∈ shape.fields.zip data) =>
    small pair.2 (List.of_mem_zip mem).2
  exact ⟨withTables scalars tables.flatten, by
    rw [dataText, scalarLines_eq_lines, tableLines_eq, first, second]; rfl⟩

end Toml

/-! ### Settings that were loaded -/

namespace Toml

lemma Writable.scalar {s : Scalar} (small : NotAbove s) : Writable (.scalar s) :=
  fun _ mem => List.mem_singleton.1 mem ▸ small

lemma Writable.of_scalar {s : Scalar} (small : Writable (.scalar s)) : NotAbove s :=
  small s (List.mem_singleton_self s)

lemma notAbove_of_lt {n : Nat} (small : n < Nat.pow 2 63) : NotAbove (.integer n) := by
  have limit := limit_eq
  show (n : Int) < Int.pow 2 63
  omega

lemma notAbove_seconds {i : Int} (small : NotAbove (.integer i)) :
    NotAbove (.integer i.toNat.toUInt64.toNat) := by
  have limit := limit_eq
  have positive : 0 < Nat.pow 2 63 := by decide
  have small : i < Int.pow 2 63 := small
  have least : i.toNat.toUInt64.toNat ≤ i.toNat := by
    rw [Nat.toUInt64_eq, UInt64.toNat_ofNat']
    exact Nat.mod_le _ _
  exact notAbove_of_lt (by omega)

end Toml

open Toml (NotAbove Writable notAbove_of_lt notAbove_seconds bind_eq_ok)

lemma Jitter.notAbove_of_ofScalars? {values : List Scalar} {j : Jitter}
    (made : ofScalars? values = some j) (small : ∀ s ∈ values, NotAbove s) :
    ∀ s ∈ j.toScalars, NotAbove s := by
  unfold ofScalars? at made
  split at made
  · cases made
    obtain ⟨least, small⟩ := List.forall_mem_cons.1 small
    obtain ⟨most, -⟩ := List.forall_mem_cons.1 small
    exact List.forall_mem_cons.2 ⟨notAbove_seconds least,
      List.forall_mem_cons.2 ⟨notAbove_seconds most, List.forall_mem_nil _⟩⟩
  · cases made

namespace Config

lemma writable_of_ofData? {data : List Datum} {c : Config} (made : ofData? data = some c)
    (small : ∀ datum ∈ data, Writable datum) : ∀ datum ∈ c.toData, Writable datum := by
  unfold ofData? at made
  split at made
  · obtain ⟨token, -, made⟩ := Option.bind_eq_some_iff.1 made
    obtain ⟨renewal, first, made⟩ := Option.bind_eq_some_iff.1 made
    obtain ⟨reconnect, second, made⟩ := Option.bind_eq_some_iff.1 made
    cases made
    -- only seconds may be too many: the other numbers have fewer bits, whatever was read for them
    simp only [List.forall_mem_cons] at small
    obtain ⟨-, -, -, timeout, -, -, settle, poll, early, late, -⟩ := small
    have renewalSmall := Jitter.notAbove_of_ofScalars? first early
    have reconnectSmall := Jitter.notAbove_of_ofScalars? second late
    have bits {n m : Nat} (few : n < Nat.pow 2 m) (fits : m ≤ 63) :
        Writable (.scalar (.integer n)) :=
      .scalar (notAbove_of_lt (Nat.lt_of_lt_of_le few (Nat.pow_le_pow_right (by decide) fits)))
    have token : Writable (.scalar (.ofText? token)) := .scalar (by cases token <;> trivial)
    simp only [toData, List.forall_mem_cons]
    exact ⟨.scalar trivial, token, bits (UInt16.toNat_lt _) (by decide),
      .scalar (notAbove_seconds timeout.of_scalar), bits (UInt32.toNat_lt _) (by decide),
      bits (UInt32.toNat_lt _) (by decide), .scalar (notAbove_seconds settle.of_scalar),
      .scalar (notAbove_seconds poll.of_scalar), renewalSmall, reconnectSmall,
      List.forall_mem_nil _⟩
  · cases made

lemma writable_default : ∀ datum ∈ toData {}, Writable datum := by
  have bits {n : Nat} (few : n < 10000) : Writable (.scalar (.integer n)) :=
    .scalar (notAbove_of_lt (Nat.lt_trans few (by decide)))
  have window {least most : Nat} (one : least < 10000) (two : most < 10000) :
      Writable (.record [.integer least, .integer most]) :=
    List.forall_mem_cons.2 ⟨(bits one).of_scalar,
      List.forall_mem_cons.2 ⟨(bits two).of_scalar, List.forall_mem_nil _⟩⟩
  simp only [toData, List.forall_mem_cons]
  exact ⟨.scalar trivial, .scalar trivial, bits (by decide), bits (by decide), bits (by decide),
    bits (by decide), bits (by decide), bits (by decide), window (by decide) (by decide),
    window (by decide) (by decide), List.forall_mem_nil _⟩

lemma yields_writable : Toml.Yields Toml.readField Writable (Payload.shape Config).fields where
  reads := by
    intro field mem v d sound read
    refine Toml.readField_writable sound (fun record same inner among s fallback => ?_) read
    have windows : ∀ pair ∈ fieldNames, ∀ record, pair.2 = .record record →
        Jitter.shape = record := by
      simp [fieldNames]
    rw [fields_eq] at mem
    obtain ⟨⟨named, _⟩, pair, rfl⟩ := List.mem_map.1 mem
    obtain rfl := windows named (List.of_mem_zip pair).1 record same
    rcases List.mem_cons.1 among with rfl | among
    · cases fallback
    · obtain rfl := List.mem_singleton.1 among
      cases fallback
  fallbacks := by
    intro field mem d fallback
    rw [fields_eq] at mem
    obtain ⟨⟨_, default⟩, pair, rfl⟩ := List.mem_map.1 mem
    cases fallback
    exact writable_default _ (List.of_mem_zip pair).2

lemma of_decode {c : Config} {text : String} (decoded : Toml.decode Config text = .ok c) :
    c.wholeSeconds = c ∧ ∀ datum ∈ c.toData, Writable datum := by
  unfold Toml.decode at decoded
  split at decoded
  · cases decoded
  · next entries read =>
    split at decoded
    · cases decoded
    · next data ok =>
      split at decoded
      · next made =>
        cases decoded
        have sound := Toml.sound_document read
        exact ⟨wholeSeconds_of_ofData? made,
          writable_of_ofData? made (yields_writable.readRecord (.of_entries sound) ok)⟩
      · cases decoded

lemma of_ofText {c : Config} {text : String} (loaded : ofText text = .ok c) :
    Toml.decode Config text = .ok c ∧ c.Valid := by
  unfold ofText at loaded
  split at loaded
  · cases loaded
  · next c' decoded =>
    obtain ⟨_, valid, eq⟩ := bind_eq_ok.1 loaded
    cases eq
    exact ⟨decoded, valid_of_validate valid⟩

lemma of_load {files : Files} {path : String} {c : Config} (loaded : load files path = .ok c) :
    ∃ text, ofText text = .ok c := by
  unfold load at loaded
  split at loaded
  · cases loaded
  · cases loaded
  · split at loaded
    · cases loaded
    · next text _ => exact ⟨text, loaded⟩

/-! ### Saving them -/

/-- Some text can be put at the path. -/
def CanWrite (files : Files) (path : String) : Prop :=
  ∃ text files', writeText files path text = .ok files'

end Config

/-- Where some bytes can be written, all can. -/
lemma Files.exists_write {files files' : Files} {path : String} {bytes : ByteArray}
    (written : files.write path bytes = .ok files') (other : ByteArray) :
    ∃ files'', files.write path other = .ok files'' := by
  obtain ⟨_, checked, written⟩ := bind_eq_ok.1 written
  obtain ⟨parent, above, written⟩ := bind_eq_ok.1 written
  obtain ⟨place, entered, written⟩ := bind_eq_ok.1 written
  refine ⟨files.put place (.file other), bind_eq_ok.2 ⟨_, checked, bind_eq_ok.2 ⟨parent, above,
    bind_eq_ok.2 ⟨place, entered, ?_⟩⟩⟩⟩
  split at written
  · cases written
  · next whole =>
    rw [if_neg whole]
    split at written
    · cases written
    · rfl

namespace Config

variable {files : Files} {path : String} {c : Config}

lemma CanWrite.writes (can : CanWrite files path) (text : String) :
    ∃ files', writeText files path text = .ok files' := by
  obtain ⟨some, files', written⟩ := can
  obtain ⟨above, made, written⟩ := bind_eq_ok.1 written
  obtain ⟨files', written⟩ := Files.exists_write written text.toUTF8
  exact ⟨files', bind_eq_ok.2 ⟨above, made, written⟩⟩

lemma exists_toText (loaded : load files path = .ok c) : ∃ text, c.toText = .ok text := by
  obtain ⟨text, loaded⟩ := of_load loaded
  obtain ⟨decoded, valid⟩ := of_ofText loaded
  obtain ⟨written, encoded⟩ :=
    Toml.dataText_of_writable (of_decode decoded).2 (Payload.shape Config)
  have encoded : Toml.encode c = .ok written := encoded
  refine ⟨written, bind_eq_ok.2 ⟨(), validate_of_valid valid, ?_⟩⟩
  simp only [encoded]
  rfl

lemma ofText_of_loaded (loaded : load files path = .ok c) {text : String}
    (written : c.toText = .ok text) : ofText text = .ok c := by
  obtain ⟨_, loaded⟩ := of_load loaded
  obtain ⟨decoded, valid⟩ := of_ofText loaded
  have whole := (of_decode decoded).1
  -- a deadline that is usable and has no parts of a second has at least one
  have timeout : c.backendTimeout.secs ≠ 0 := by
    intro zero
    have truncated : c.backendTimeout.truncate = c.backendTimeout := congrArg backendTimeout whole
    exact (valid_iff.1 valid).2.2.2
      (truncated.symm.trans ((Duration.truncate_eq_zero _).2 zero))
  rw [ofText_toText written, if_neg timeout, whole]

/-- **Loading and saving is stable.** Settings that were loaded from whatever text have a text of
their own: wherever a file can be written they can be saved, the file holds that text, and they are
loaded from it again as they are. -/
theorem loaded_settings_are_saved_alike (loaded : load files path = .ok c) :
    ∃ text : String, ∀ files path, CanWrite files path → ∃ after, save files path c = .ok after ∧
      after.read path = .ok text.toUTF8 ∧ load after path = .ok c := by
  obtain ⟨text, written⟩ := exists_toText loaded
  refine ⟨text, fun files path can => ?_⟩
  obtain ⟨after, put⟩ := can.writes text
  have saved : save files path c = .ok after := bind_eq_ok.2 ⟨text, written, by rw [put]; rfl⟩
  obtain ⟨_, -, file⟩ := bind_eq_ok.1 put
  have read := Files.read_write file
  refine ⟨after, saved, read, ?_⟩
  obtain ⟨same, written', again⟩ := load_of_save saved
  rw [again]
  exact ofText_of_loaded loaded written'

/-- A file with a token that needs escapes, the largest number of seconds, and a key that nothing
reads. -/
def handWritten : Files :=
  ⟨[(["remote.toml"], .file
    ("renewal_settle = 9223372036854775807\nspare = [1, 2]\naccess_token = 'a\"b\\c'\n").toUTF8)]⟩

/-- It is loaded, and saved in a directory of its own. -/
theorem handWritten_is_saved_alike :
    let c : Config :=
      { accessToken := some "a\"b\\c", renewalSettle := .ofSecs 9223372036854775807 }
    load handWritten "remote.toml" = .ok c ∧ CanWrite handWritten "conf/remote.toml" ∧
      ∃ (text : String) (after : Files), save handWritten "conf/remote.toml" c = .ok after ∧
        after.read "conf/remote.toml" = .ok text.toUTF8 ∧
        load after "conf/remote.toml" = .ok c := by
  intro c
  have loaded : load handWritten "remote.toml" = .ok c := by
    have same : (load handWritten "remote.toml").toOption = some c := by decide +kernel
    cases found : load handWritten "remote.toml" with
    | error fault =>
      rw [found] at same
      cases same
    | ok c' =>
      rw [found] at same
      cases same
      rfl
  have can : CanWrite handWritten "conf/remote.toml" :=
    ⟨"", exists_of_isOk (by decide +kernel)⟩
  obtain ⟨text, saved⟩ := loaded_settings_are_saved_alike loaded
  exact ⟨loaded, can, text, saved handWritten "conf/remote.toml" can⟩

end Config

end TunnelKeeper
