import TunnelKeeper.Proofs.Settings
import TunnelKeeper.Proofs.Toml.Tables

/-!
Documents that give some of the settings only. Those that are left out keep their defaults, in
whatever order the others stand and whatever else stands between them. The bounds of a window have
no defaults of their own: a window that is given must give both.
-/

namespace TunnelKeeper

open Record (Fault Field FieldShape Datum IntRange Payload u16 u32 u64)
open Toml (Value Entries Origin Takes readField readScalar readEntries readRecord)

/-! ### Tables -/

namespace Toml

variable {σ δ : Type} {read : σ → Value → Except Fault δ} {shape : Record.Shape σ δ}
  {entries : Entries} {P : Fault → Prop}

lemma readEntries_fails
    (each : ∀ entry ∈ entries, ∀ field, shape.field? entry.1 = some field →
      (∃ d, read field.shape entry.2 = .ok d) ∨
        ∃ fault, read field.shape entry.2 = .error fault ∧ P fault)
    (fails : ∃ entry ∈ entries, ∃ field, shape.field? entry.1 = some field ∧
      ∃ fault, read field.shape entry.2 = .error fault) :
    ∃ fault, readEntries read shape entries = .error fault ∧ P fault := by
  induction entries with
  | nil => simp at fails
  | cons first entries ih =>
    obtain ⟨key, v⟩ := first
    obtain ⟨here, each⟩ := List.forall_mem_cons.1 each
    obtain ⟨entry, mem, field, known, fault, failed⟩ := fails
    -- unless the entry at hand has a fault itself, one behind it has
    have later (ok : ∀ field, shape.field? key = some field → ∃ d, read field.shape v = .ok d) :
        ∃ fault, readEntries read shape entries = .error fault ∧ P fault := by
      rcases List.mem_cons.1 mem with rfl | mem
      · obtain ⟨d, ok⟩ := ok field known
        cases failed.symm.trans ok
      · exact ih each ⟨entry, mem, field, known, fault, failed⟩
    unfold readEntries
    cases named : shape.field? key with
    | none =>
      refine later fun field known => ?_
      cases named.symm.trans known
    | some field =>
      rcases here field named with ⟨d, ok⟩ | ⟨fault, failed, fits⟩
      · obtain ⟨fault, failed, fits⟩ := later fun other eq =>
          Option.some.inj (named.symm.trans eq) ▸ ⟨d, ok⟩
        refine ⟨fault, ?_, fits⟩
        simp only [ok, failed]
        rfl
      · refine ⟨fault, ?_, fits⟩
        simp only [failed]
        rfl

lemma readRecord_fails (origin : Origin) {data : List δ}
    (distinct : (shape.fields.map (·.key)).Nodup) (length : data.length = shape.fields.length)
    (sound : Entries.Sound entries)
    (each : ∀ pair ∈ shape.fields.zip data, Takes read pair.1 (entries.lookup pair.1.key) pair.2 ∨
      ∃ v fault, entries.lookup pair.1.key = some v ∧ read pair.1.shape v = .error fault ∧ P fault)
    (fails : ∃ field ∈ shape.fields, ∃ v fault, entries.lookup field.key = some v ∧
      read field.shape v = .error fault) :
    ∃ fault, readRecord read shape (.table origin entries) = .error fault ∧ P fault := by
  have reads : ∀ entry ∈ entries, ∀ field, shape.field? entry.1 = some field →
      (∃ d, read field.shape entry.2 = .ok d) ∨
        ∃ fault, read field.shape entry.2 = .error fault ∧ P fault := by
    intro entry mem field known
    obtain ⟨d, pair⟩ := exists_mem_zip length (List.mem_of_find?_eq_some known)
    have key : field.key = entry.1 := by simpa using List.find?_some known
    have there := sound.lookup mem
    rcases each _ pair with taken | ⟨v, fault, found, failed, fits⟩
    · rw [key, there] at taken
      exact .inl ⟨d, taken⟩
    · rw [key, there] at found
      obtain rfl := Option.some.inj found
      exact .inr ⟨fault, failed, fits⟩
  obtain ⟨field, among, v, fault, found, failed⟩ := fails
  obtain ⟨before, after, rfl, -⟩ := List.lookup_eq_some_iff.1 found
  obtain ⟨fault, failed, fits⟩ := readEntries_fails reads
    ⟨(field.key, v), List.mem_append_right _ List.mem_cons_self, field,
      field?_of_mem distinct among, fault, failed⟩
  refine ⟨fault, ?_, fits⟩
  rw [readRecord, failed]
  rfl

lemma reads_number (key : String) (n : Nat) {draft : Draft} (bare : Bare key)
    (small : n < Nat.pow 2 63) (fresh : draft.current.lookup key = none) :
    Reads (key.toList ++ ' ' :: '=' :: ' ' :: ((toString (n : Int)).toList ++ ['\n'])) draft
      { draft with current := draft.current ++ [(key, .integer n)] } := by
  have limit := limit_eq
  exact reads_pair bare (denotes_integer (by omega) (by omega)) fresh

end Toml

/-! ### Windows -/

lemma Config.readScalar_bits {range : IntRange} {n bits : Nat} (least : range.least = 0)
    (most : range.most = Int.pow 2 bits - 1) (small : n < Nat.pow 2 bits) :
    readScalar (.integer range) (.integer n) = .ok (.integer n) := by
  have fits : Toml.FitsScalar (.integer range) True (.integer n) := fits_bits least most small
  exact congrArg (Except.map Record.Scalar.integer) (if_pos fits.fits)

/-- The bounds of a window that are given, in seconds. -/
structure Jitter.Overrides where
  min : Option UInt64 := none
  max : Option UInt64 := none

namespace Jitter.Overrides

variable {o : Overrides} {inner : Entries}

/-- The window with the bounds that are given. -/
def appliedTo (o : Overrides) (j : Jitter) : Jitter :=
  ⟨o.min.elim j.min .ofSecs, o.max.elim j.max .ofSecs⟩

/-- The first bound that is not given. -/
def missing? (o : Overrides) : Option String :=
  if o.min = none then some "min" else if o.max = none then some "max" else none

/-- The bounds stand in a table, perhaps among other things. -/
structure StandIn (o : Overrides) (inner : Entries) : Prop where
  min : inner.lookup "min" = o.min.map fun n => .integer n.toNat
  max : inner.lookup "max" = o.max.map fun n => .integer n.toNat

lemma readScalar_seconds (n : UInt64) :
    readScalar (.integer u64) (.integer n.toNat) = .ok (.integer n.toNat) :=
  Config.readScalar_bits rfl rfl n.toNat_lt

lemma readScalar_bound (bound : Option UInt64) :
    ((bound.map fun n => Value.integer n.toNat).bind fun v =>
        (readScalar (.integer u64) v).toOption) =
      bound.map fun n => Record.Scalar.integer n.toNat := by
  cases bound with
  | none => rfl
  | some n =>
    rw [Option.map_some, Option.bind_some, readScalar_seconds]
    rfl

lemma StandIn.reads (stands : o.StandIn inner) (sound : Entries.Sound inner) :
    ∀ entry ∈ inner, ∀ field, Jitter.shape.field? entry.1 = some field →
      ∃ d, readScalar field.shape entry.2 = .ok d := by
  intro entry mem field known
  have there := sound.lookup mem
  have key : field.key = entry.1 := by simpa using List.find?_some known
  have bound {b : Option UInt64} (given : (b.map fun n => Value.integer n.toNat) = some entry.2) :
      ∃ d, readScalar (.integer u64) entry.2 = .ok d := by
    obtain ⟨n, -, eq⟩ := Option.map_eq_some_iff.1 given
    exact ⟨_, eq ▸ readScalar_seconds n⟩
  rw [← key] at there
  rcases List.mem_cons.1 (List.mem_of_find?_eq_some known) with rfl | among
  · exact bound (stands.min.symm.trans there)
  · obtain rfl := List.mem_singleton.1 among
    exact bound (stands.max.symm.trans there)

/-- The table of a window is read as its bounds, or the first that is missing is reported. -/
lemma StandIn.read (stands : o.StandIn inner) (sound : Entries.Sound inner) (origin : Origin)
    (j : Jitter) :
    readRecord readScalar Jitter.shape (.table origin inner) =
      match o.missing? with
      | some key => .error (.missingField key)
      | none => .ok (o.appliedTo j).toScalars := by
  obtain ⟨found, ok, lookups⟩ := Toml.readEntries_lookup readScalar (stands.reads sound)
  have min := lookups ⟨"min", .integer u64, none⟩ rfl
  have max := lookups ⟨"max", .integer u64, none⟩ rfl
  dsimp only at min max
  rw [stands.min, readScalar_bound] at min
  rw [stands.max, readScalar_bound] at max
  rw [readRecord, ok]
  show Record.complete [⟨"min", _, none⟩, ⟨"max", _, none⟩] found = _
  simp only [Record.complete, min, max]
  obtain ⟨first, last⟩ := o
  cases first with
  | none => rfl
  | some a =>
    cases last with
    | none => rfl
    | some b => rfl

end Jitter.Overrides

/-! ### Settings -/

namespace Config

/-- The settings that are given, durations in seconds. -/
structure Overrides where
  apiUrl : Option String := none
  accessToken : Option String := none
  relayPort : Option UInt16 := none
  backendTimeout : Option UInt64 := none
  renewBeforeDays : Option UInt32 := none
  warnBeforeDays : Option UInt32 := none
  renewalSettle : Option UInt64 := none
  runtimePollInterval : Option UInt64 := none
  renewalJitter : Option Jitter.Overrides := none
  reconnectJitter : Option Jitter.Overrides := none

/-- A window that is given stands in a table, however this came about. -/
def WindowStands (window : Option Jitter.Overrides) (v : Option Value) : Prop :=
  match window with
  | none => v = none
  | some o => ∃ origin inner, v = some (.table origin inner) ∧ o.StandIn inner

namespace Overrides

variable {o : Overrides} {entries : Entries}

/-- The settings with those that are given in place of their own. -/
def appliedTo (o : Overrides) (c : Config) : Config where
  apiUrl := o.apiUrl.getD c.apiUrl
  accessToken := o.accessToken.or c.accessToken
  relayPort := o.relayPort.getD c.relayPort
  backendTimeout := o.backendTimeout.elim c.backendTimeout .ofSecs
  renewBeforeDays := o.renewBeforeDays.getD c.renewBeforeDays
  warnBeforeDays := o.warnBeforeDays.getD c.warnBeforeDays
  renewalSettle := o.renewalSettle.elim c.renewalSettle .ofSecs
  runtimePollInterval := o.runtimePollInterval.elim c.runtimePollInterval .ofSecs
  renewalJitter := o.renewalJitter.elim c.renewalJitter (·.appliedTo c.renewalJitter)
  reconnectJitter := o.reconnectJitter.elim c.reconnectJitter (·.appliedTo c.reconnectJitter)

/-- The settings stand in a table, perhaps among other things, and no others do. -/
structure StandIn (o : Overrides) (entries : Entries) : Prop where
  apiUrl : entries.lookup "api_url" = o.apiUrl.map .text
  accessToken : entries.lookup "access_token" = o.accessToken.map .text
  relayPort : entries.lookup "relay_port" = o.relayPort.map fun n => .integer n.toNat
  backendTimeout : entries.lookup "backend_timeout" = o.backendTimeout.map fun n => .integer n.toNat
  renewBeforeDays :
    entries.lookup "renew_before_days" = o.renewBeforeDays.map fun n => .integer n.toNat
  warnBeforeDays :
    entries.lookup "warn_before_days" = o.warnBeforeDays.map fun n => .integer n.toNat
  renewalSettle : entries.lookup "renewal_settle" = o.renewalSettle.map fun n => .integer n.toNat
  runtimePollInterval :
    entries.lookup "runtime_poll_interval" = o.runtimePollInterval.map fun n => .integer n.toNat
  renewalJitter : WindowStands o.renewalJitter (entries.lookup "renewal_jitter")
  reconnectJitter : WindowStands o.reconnectJitter (entries.lookup "reconnect_jitter")

/-- A window is given without a bound of this name, or without one before it. -/
def Misses (o : Overrides) (key : String) : Prop :=
  ∃ window, (o.renewalJitter = some window ∨ o.reconnectJitter = some window) ∧
    window.missing? = some key

/-! ### What is read for a setting -/

lemma takes_text {key : String} {fallback : String} (given : Option String) :
    Takes readField (setting key (.scalar .text) (.scalar (.text fallback))) (given.map .text)
      (.scalar (.text (given.getD fallback))) := by
  cases given <;> rfl

lemma takes_token {key : String} (fallback given : Option String) :
    Takes readField (setting key (.scalar .optionalText) (.scalar (.ofText? fallback)))
      (given.map .text) (.scalar (.ofText? (given.or fallback))) := by
  cases given <;> rfl

lemma takes_number {α : Type} {key : String} {range : IntRange} {bits : Nat} {toNat : α → Nat}
    (least : range.least = 0) (most : range.most = Int.pow 2 bits - 1)
    (small : ∀ a, toNat a < Nat.pow 2 bits) (fallback : α) (given : Option α) :
    Takes readField (setting key (.scalar (.integer range)) (.scalar (.integer (toNat fallback))))
      (given.map fun n => .integer (toNat n))
      (.scalar (.integer (toNat (given.getD fallback)))) := by
  cases given with
  | none => rfl
  | some n => exact congrArg (Except.map Datum.scalar) (readScalar_bits least most (small n))

lemma takes_seconds {key : String} (fallback : Duration) (given : Option UInt64) :
    Takes readField (setting key (.scalar (.integer u64)) (.scalar (.integer fallback.secs.toNat)))
      (given.map fun n => .integer n.toNat)
      (.scalar (.integer (given.elim fallback .ofSecs).secs.toNat)) := by
  cases given with
  | none => rfl
  | some n =>
    exact congrArg (Except.map Datum.scalar) (Jitter.Overrides.readScalar_seconds n)

lemma read_window {window : Jitter.Overrides} {v : Option Value}
    (stands : WindowStands (some window) v) (sound : ∀ w, v = some w → w.Sound) (j : Jitter) :
    ∃ w, v = some w ∧ readField (.record Jitter.shape) w =
      match window.missing? with
      | some key => .error (.missingField key)
      | none => .ok (.record (window.appliedTo j).toScalars) := by
  obtain ⟨origin, inner, rfl, stands⟩ := stands
  refine ⟨_, rfl, ?_⟩
  rw [readField, stands.read (sound _ rfl).of_table origin j]
  cases window.missing? <;> rfl

lemma takes_window {v : Option Value} {given : Option Jitter.Overrides}
    (stands : WindowStands given v) (sound : ∀ w, v = some w → w.Sound) (key : String)
    (fallback : Jitter) :
    Takes readField (setting key (.record Jitter.shape) (.record fallback.toScalars)) v
        (.record (given.elim fallback (·.appliedTo fallback)).toScalars) ∨
      ∃ window bound w, given = some window ∧ window.missing? = some bound ∧ v = some w ∧
        readField (.record Jitter.shape) w = .error (.missingField bound) := by
  cases given with
  | none =>
    obtain rfl : v = none := stands
    exact .inl rfl
  | some window =>
    obtain ⟨w, rfl, read⟩ := read_window stands sound fallback
    cases missing : window.missing? with
    | none =>
      rw [missing] at read
      exact .inl read
    | some bound =>
      rw [missing] at read
      exact .inr ⟨window, bound, w, rfl, missing, rfl, read⟩

/-- Each setting is taken from where it stands, but for windows without a bound. -/
lemma StandIn.takes (stands : o.StandIn entries) (sound : Entries.Sound entries) :
    ∀ pair ∈ (Payload.shape Config).fields.zip (Payload.toData (o.appliedTo {})),
      Takes readField pair.1 (entries.lookup pair.1.key) pair.2 ∨
        ∃ v fault, entries.lookup pair.1.key = some v ∧ readField pair.1.shape v = .error fault ∧
          ∃ key, o.Misses key ∧ fault = .missingField key := by
  have renewal := takes_window stands.renewalJitter (fun _ => sound.of_lookup) "renewal_jitter"
    ({} : Config).renewalJitter
  have reconnect := takes_window stands.reconnectJitter (fun _ => sound.of_lookup)
    "reconnect_jitter" ({} : Config).reconnectJitter
  rw [fields_eq]
  change ∀ pair ∈ List.zip _ (o.appliedTo {}).toData, _
  simp only [fieldNames, toData, List.zip_cons_cons, List.zip_nil_left, List.map_cons,
    List.map_nil, List.forall_mem_cons]
  -- the fields in the order of the record, of which only the windows may have a fault
  refine ⟨.inl ?_, .inl ?_, .inl ?_, .inl ?_, .inl ?_, .inl ?_, .inl ?_, .inl ?_, ?_, ?_,
    List.forall_mem_nil _⟩
  · exact stands.apiUrl ▸ takes_text _
  · exact stands.accessToken ▸ takes_token _ _
  · exact stands.relayPort ▸ takes_number rfl rfl UInt16.toNat_lt _ _
  · exact stands.backendTimeout ▸ takes_seconds _ _
  · exact stands.renewBeforeDays ▸ takes_number rfl rfl UInt32.toNat_lt _ _
  · exact stands.warnBeforeDays ▸ takes_number rfl rfl UInt32.toNat_lt _ _
  · exact stands.renewalSettle ▸ takes_seconds _ _
  · exact stands.runtimePollInterval ▸ takes_seconds _ _
  · refine renewal.imp_right ?_
    rintro ⟨window, bound, w, given, missing, there, fails⟩
    exact ⟨w, _, there, fails, bound, ⟨window, .inl given, missing⟩, rfl⟩
  · refine reconnect.imp_right ?_
    rintro ⟨window, bound, w, given, missing, there, fails⟩
    exact ⟨w, _, there, fails, bound, ⟨window, .inr given, missing⟩, rfl⟩

lemma StandIn.fails (stands : o.StandIn entries) (sound : Entries.Sound entries) {key : String}
    (misses : o.Misses key) : ∃ field ∈ (Payload.shape Config).fields, ∃ v fault,
      entries.lookup field.key = some v ∧ readField field.shape v = .error fault := by
  have renewal : setting "renewal_jitter" (.record Jitter.shape)
      (.record ({} : Config).renewalJitter.toScalars) ∈ (Payload.shape Config).fields := by
    rw [fields_eq]
    simp [fieldNames, toData]
  have reconnect : setting "reconnect_jitter" (.record Jitter.shape)
      (.record ({} : Config).reconnectJitter.toScalars) ∈ (Payload.shape Config).fields := by
    rw [fields_eq]
    simp [fieldNames, toData]
  obtain ⟨window, given | given, missing⟩ := misses
  · have there := stands.renewalJitter
    rw [given] at there
    obtain ⟨w, there, fails⟩ := read_window there (fun _ => sound.of_lookup) ⟨.zero, .zero⟩
    rw [missing] at fails
    exact ⟨_, renewal, w, _, there, fails⟩
  · have there := stands.reconnectJitter
    rw [given] at there
    obtain ⟨w, there, fails⟩ := read_window there (fun _ => sound.of_lookup) ⟨.zero, .zero⟩
    rw [missing] at fails
    exact ⟨_, reconnect, w, _, there, fails⟩

lemma wholeSeconds_appliedTo (o : Overrides) :
    (o.appliedTo {}).wholeSeconds = o.appliedTo {} := by
  have seconds (given : Option UInt64) (n : UInt64) :
      (given.elim (.ofSecs n) Duration.ofSecs).truncate = given.elim (.ofSecs n) .ofSecs := by
    cases given <;> rfl
  have window (given : Option Jitter.Overrides) (least most : UInt64) :
      let fallback : Jitter := ⟨.ofSecs least, .ofSecs most⟩
      (given.elim fallback (·.appliedTo fallback)).wholeSeconds =
        given.elim fallback (·.appliedTo fallback) := by
    cases given with
    | none => rfl
    | some bounds => exact congrArg₂ Jitter.mk (seconds bounds.min least) (seconds bounds.max most)
  generalize merged : o.appliedTo {} = c
  have timeout : c.backendTimeout.truncate = c.backendTimeout := merged ▸ seconds _ _
  have settle : c.renewalSettle.truncate = c.renewalSettle := merged ▸ seconds _ _
  have poll : c.runtimePollInterval.truncate = c.runtimePollInterval := merged ▸ seconds _ _
  have renewal : c.renewalJitter.wholeSeconds = c.renewalJitter := merged ▸ window _ _ _
  have reconnect : c.reconnectJitter.wholeSeconds = c.reconnectJitter := merged ▸ window _ _ _
  rw [wholeSeconds, timeout, settle, poll, renewal, reconnect]

end Overrides

/-! ### Loading -/

lemma ofText_of_decode {c : Config} {text : String} (decoded : Toml.decode Config text = .ok c) :
    ofText text = match c.conflict? with
      | none => .ok c
      | some conflict => .error (.invalid (.conflict conflict)) := by
  rw [ofText, decoded]
  cases found : c.conflict? with
  | none =>
    simp only [validate_of_valid found]
    rfl
  | some conflict =>
    simp only [validate_of_conflict found]
    rfl

lemma load_of_read {files : Files} {path text : String} (read : files.read path = .ok text.toUTF8) :
    load files path = ofText text := by
  rw [load, read]
  simp only [fromUTF8?_toUTF8]

section Document

variable {text : String} {entries : Entries} {o : Overrides}

/-- Settings that are given replace the defaults if windows are given with both bounds. -/
lemma decode_of_whole (read : Toml.document text = some entries) (stands : o.StandIn entries)
    (whole : ¬ ∃ key, o.Misses key) : Toml.decode Config text = .ok (o.appliedTo {}) := by
  have sound := Toml.sound_document read
  have data : readRecord readField (Payload.shape Config) (.table .header entries) =
      .ok (Payload.toData (o.appliedTo {})) := by
    refine Toml.readRecord_table readField tidyShape.keys.distinct (length_toData _)
      (fun _ => sound.lookup) fun pair mem => ?_
    rcases stands.takes sound pair mem with taken | ⟨_, _, _, _, key, misses, -⟩
    · exact taken
    · exact absurd ⟨key, misses⟩ whole
  rw [Toml.decode, read]
  simp only [data, ofData?_toData, Overrides.wholeSeconds_appliedTo]

lemma decode_of_misses (read : Toml.document text = some entries) (stands : o.StandIn entries)
    {key : String} (misses : o.Misses key) :
    ∃ key, o.Misses key ∧ Toml.decode Config text = .error (.data (.missingField key)) := by
  have sound := Toml.sound_document read
  obtain ⟨fault, failed, key, misses, rfl⟩ := Toml.readRecord_fails .header tidyShape.keys.distinct
    (length_toData _) sound (stands.takes sound) (stands.fails sound misses)
  refine ⟨key, misses, ?_⟩
  rw [Toml.decode, read]
  simp only [failed]

/-- **Settings that are left out keep their defaults, but the bounds of a window may not be left
out.** In whatever order settings stand in a document and whatever else stands there, they are
loaded as the defaults with those in place that are given, unless these are not usable together. But
a document that gives a window without one of its bounds is refused: the bound is reported as
missing. -/
theorem given_settings_replace_defaults (read : Toml.document text = some entries)
    (stands : o.StandIn entries) :
    ((¬ ∃ key, o.Misses key) → Toml.decode Config text = .ok (o.appliedTo {}) ∧
      ofText text = match (o.appliedTo {}).conflict? with
        | none => .ok (o.appliedTo {})
        | some conflict => .error (.invalid (.conflict conflict))) ∧
    ((∃ key, o.Misses key) → ∃ key, o.Misses key ∧
      Toml.decode Config text = .error (.data (.missingField key)) ∧
      ofText text = .error (.parse (.data (.missingField key)))) ∧
    ∀ files path, files.read path = .ok text.toUTF8 → load files path = ofText text := by
  refine ⟨fun whole => ?_, fun ⟨key, misses⟩ => ?_, fun _ _ => load_of_read⟩
  · have decoded := decode_of_whole read stands whole
    exact ⟨decoded, ofText_of_decode decoded⟩
  · obtain ⟨key, misses, decoded⟩ := decode_of_misses read stands misses
    refine ⟨key, misses, decoded, ?_⟩
    rw [ofText, decoded]

end Document

/-- Two settings and something else are given, and a bound of a window stands before the other. -/
theorem given_port_and_window_are_loaded :
    let text := "relay_port = 8443\nspare = 7\n[reconnect_jitter]\nmax = 20\nmin = 2\n"
    let o : Overrides := { relayPort := some 8443, reconnectJitter := some ⟨some 2, some 20⟩ }
    ∃ entries, Toml.document text = some entries ∧ o.StandIn entries ∧
      ofText text = .ok { relayPort := 8443, reconnectJitter := ⟨.ofSecs 2, .ofSecs 20⟩ } := by
  intro text o
  have read : Toml.document text = some [("relay_port", .integer 8443), ("spare", .integer 7),
      ("reconnect_jitter", .table .header [("max", .integer 20), ("min", .integer 2)])] := by
    have lines : Toml.Reads _ {} _ :=
      (Toml.reads_number "relay_port" 8443 (by decide +kernel) (by decide +kernel) (by rfl)).append
      ((Toml.reads_number "spare" 7 (by decide +kernel) (by decide +kernel) (by rfl)).append
      ((Toml.reads_header (by decide +kernel : Toml.Bare "reconnect_jitter") (by rfl)
        (by rfl)).append
      ((Toml.reads_number "max" 20 (by decide +kernel) (by decide +kernel) (by rfl)).append
      (Toml.reads_number "min" 2 (by decide +kernel) (by decide +kernel) (by rfl)))))
    refine Toml.document_of_reads (Eq.mp (congrArg (Toml.Reads · {} _) ?_) lines) rfl
    decide +kernel
  have stands : o.StandIn [("relay_port", .integer 8443), ("spare", .integer 7),
      ("reconnect_jitter", .table .header [("max", .integer 20), ("min", .integer 2)])] :=
    ⟨rfl, rfl, rfl, rfl, rfl, rfl, rfl, rfl, rfl, .header, _, rfl, rfl, rfl⟩
  have whole : ¬ ∃ key, o.Misses key := by
    rintro ⟨key, window, given | given, missing⟩
    · cases given
    · cases given
      cases missing
  obtain ⟨-, loaded⟩ := (given_settings_replace_defaults read stands).1 whole
  refine ⟨_, read, stands, loaded.trans ?_⟩
  have valid : (o.appliedTo {}).conflict? = none := by decide +kernel
  rw [valid]
  rfl

/-- A window is given without its upper bound, and with that of the default it would be usable. -/
theorem lone_bound_is_refused :
    let text := "[reconnect_jitter]\nmin = 2\n"
    let o : Overrides := { reconnectJitter := some ⟨some 2, none⟩ }
    ∃ entries, Toml.document text = some entries ∧ o.StandIn entries ∧ (o.appliedTo {}).Valid ∧
      Toml.decode Config text = .error (.data (.missingField "max")) := by
  intro text o
  have read : Toml.document text =
      some [("reconnect_jitter", .table .header [("min", .integer 2)])] := by
    have lines : Toml.Reads _ {} _ :=
      (Toml.reads_header (by decide +kernel : Toml.Bare "reconnect_jitter") (by rfl)
        (by rfl)).append
      (Toml.reads_number "min" 2 (by decide +kernel) (by decide +kernel) (by rfl))
    refine Toml.document_of_reads (Eq.mp (congrArg (Toml.Reads · {} _) ?_) lines) rfl
    decide +kernel
  have stands : o.StandIn [("reconnect_jitter", .table .header [("min", .integer 2)])] :=
    ⟨rfl, rfl, rfl, rfl, rfl, rfl, rfl, rfl, rfl, .header, _, rfl, rfl, rfl⟩
  have misses : o.Misses "max" := ⟨_, .inr rfl, rfl⟩
  obtain ⟨key, ⟨window, given | given, missing⟩, decoded⟩ := decode_of_misses read stands misses
  · cases given
  · cases given
    cases missing
    exact ⟨_, read, stands, by decide +kernel, decoded⟩

end Config

end TunnelKeeper
