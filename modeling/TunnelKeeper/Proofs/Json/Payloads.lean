import TunnelKeeper.Backend.Message
import TunnelKeeper.Proofs.Json.Records
import TunnelKeeper.Proofs.Settings
import TunnelKeeper.Remote.Record

/-!
The payloads of backend calls, the identity of this instance, its certificate and the settings come
back from their JSON texts. Two things get lost: the durations of the settings are written in whole
seconds, and an expiry in a leap second within a minute is written as the second that comes next.
What was once read from a text has neither, so it comes back as it is.
-/

namespace TunnelKeeper

open Json (LegibleShape LegibleField Legible FitsShape FitsField decode encode)
open Toml (bind_eq_ok)
open Record (Field FieldShape Datum ScalarShape FlatShape RecordShape Payload required
  u16 u32 u64 i64)

namespace Json

/-! ### Records of required scalars -/

lemma legible_required {shape : RecordShape} (distinct : (shape.fields.map (·.key)).Nodup)
    (each : ∀ field ∈ shape.fields, ∃ key scalar, field = required key scalar ∧ Legible scalar) :
    LegibleShape LegibleField FitsField shape where
  distinct := distinct
  each := by
    intro field mem
    obtain ⟨key, scalar, rfl, legible⟩ := each field mem
    exact legible
  fallbacks := by
    intro field mem d fallback
    obtain ⟨key, scalar, rfl, -⟩ := each field mem
    cases fallback

lemma legible_widen {shape : FlatShape} (legible : LegibleShape Legible ScalarShape.Fits shape) :
    LegibleShape LegibleField FitsField shape.widen where
  distinct := by
    have keys : shape.widen.fields.map (·.key) = shape.fields.map (·.key) := by
      rw [FlatShape.widen, List.map_map]
      rfl
    rw [keys]
    exact legible.distinct
  each := by
    rintro field mem
    obtain ⟨field, among, rfl⟩ := List.mem_map.1 mem
    exact legible.each field among
  fallbacks := by
    rintro field mem d fallback
    obtain ⟨field, among, rfl⟩ := List.mem_map.1 mem
    obtain ⟨s, given, rfl⟩ := Option.map_eq_some_iff.1 fallback
    exact .scalar (legible.fallbacks field among s given)

end Json

/-! ### Texts alone -/

lemma Json.decode_texts {α : Type} [Payload α] {value : α} (keys texts : List String)
    (fields : (Payload.shape α).fields = keys.map fun key => required key .text)
    (data : Payload.toData value = texts.map fun s => .scalar (.text s)) (distinct : keys.Nodup)
    (length : keys.length = texts.length)
    (back : Payload.ofData? (Payload.toData value) = some value) :
    decode α (encode value) = .ok value := by
  refine decode_encode (legible_required ?_ ?_) ?_ back
  · rw [fields, List.map_map]
    exact (List.map_id keys).symm ▸ distinct
  · intro field mem
    rw [fields] at mem
    obtain ⟨key, -, rfl⟩ := List.mem_map.1 mem
    exact ⟨key, .text, rfl, trivial⟩
  · rw [FitsShape, fields, data, List.forall₂_map_left_iff, List.forall₂_map_right_iff]
    exact List.forall₂_iff_zip.2 ⟨length, fun _ => .scalar trivial⟩

lemma RegisterResponse.decode_encode (r : RegisterResponse) :
    decode RegisterResponse (encode r) = .ok r :=
  Json.decode_texts ["domain", "email", "server"] [r.domain, r.email, r.server] rfl rfl (by decide)
    rfl rfl

lemma TokenRequest.decode_encode (r : TokenRequest) : decode TokenRequest (encode r) = .ok r :=
  Json.decode_texts ["aes_key", "aes_iv"] [r.aesKey, r.aesIv] rfl rfl (by decide) rfl rfl

lemma InstanceIdentity.decode_encode (i : InstanceIdentity) :
    decode InstanceIdentity (encode i) = .ok i :=
  Json.decode_texts ["domain", "relay_server", "contact"] [i.domain, i.relayServer, i.contact] rfl
    rfl (by decide) rfl rfl

/-! ### Numbers -/

namespace TokenResponse

lemma ofData?_toData (r : TokenResponse) : Payload.ofData? (Payload.toData r) = some r := by
  change some (TokenResponse.mk r.token (.ofInt r.valid.toInt)
    (.ofNat (r.throttling.toNat : Int).toNat)) = some r
  simp

lemma fits_toData (r : TokenResponse) :
    FitsShape FitsField (Payload.shape TokenResponse) (Payload.toData r) := by
  have valid : (ScalarShape.integer i64).Fits (.integer r.valid.toInt) :=
    ⟨r.valid.le_toInt, Int.le_sub_one_of_lt r.valid.toInt_lt⟩
  have throttling : (ScalarShape.integer u32).Fits (.integer r.throttling.toNat) :=
    (Config.fits_bits rfl rfl r.throttling.toNat_lt : Toml.FitsScalar _ True _).fits
  exact .cons (.scalar trivial) (.cons (.scalar valid) (.cons (.scalar throttling) .nil))

lemma decode_encode (r : TokenResponse) : decode TokenResponse (encode r) = .ok r := by
  refine Json.decode_encode (Json.legible_required (by decide) ?_) (fits_toData r)
    (ofData?_toData r)
  have valid : Legible (.integer i64) := ⟨by decide, by decide⟩
  have throttling : Legible (.integer u32) := ⟨by decide, by decide⟩
  change ∀ field ∈ [required "token" .text, required "valid" (.integer i64),
    required "throttling" (.integer u32)], _
  simp only [List.forall_mem_cons]
  exact ⟨⟨_, _, rfl, trivial⟩, ⟨_, _, rfl, valid⟩, ⟨_, _, rfl, throttling⟩, List.forall_mem_nil _⟩

end TokenResponse

/-! ### Timestamps -/

namespace Certificate

lemma legible : LegibleShape LegibleField FitsField (Payload.shape Certificate) := by
  refine Json.legible_required (by decide) ?_
  change ∀ field ∈ [required "common_name" .text, required "expire_date" .timestamp,
    required "fingerprint" .text], _
  simp only [List.forall_mem_cons]
  exact ⟨⟨_, _, rfl, trivial⟩, ⟨_, _, rfl, trivial⟩, ⟨_, _, rfl, trivial⟩, List.forall_mem_nil _⟩

variable {c : Certificate} (representable : c.expireDate.Representable)
include representable

lemma decode_encode_of_leap (leap : c.expireDate.LeapEndsMinute) :
    decode Certificate (encode c) = .ok c := by
  refine Json.decode_encode legible ?_ rfl
  have fits : ScalarShape.timestamp.Fits (.timestamp c.expireDate) := ⟨representable, leap⟩
  exact .cons (.scalar trivial) (.cons (.scalar fits) (.cons (.scalar trivial) .nil))

/-- A leap second within a minute is written as the second that comes next. -/
lemma encode_told : encode { c with expireDate := c.expireDate.told } = encode c := by
  have spelled (c : Certificate) : encode c =
      Json.recordText (Payload.shape Certificate) [Json.text c.commonName,
        Json.text c.expireDate.text, Json.text c.fingerprint] := rfl
  rw [spelled, spelled c, Instant.text_told representable]

lemma decode_encode :
    decode Certificate (encode c) = .ok { c with expireDate := c.expireDate.told } := by
  rw [← encode_told representable]
  exact decode_encode_of_leap (Instant.representable_told representable)
    (Instant.leapEndsMinute_told representable)

end Certificate

/-! ### Whole seconds -/

namespace Jitter

lemma fits_toScalars (j : Jitter) : FitsShape ScalarShape.Fits shape j.toScalars :=
  List.forall₂_iff_zip.2 ⟨rfl, fun mem => ((Config.fits_window j).each _ mem).fits⟩

lemma legible : LegibleShape Legible ScalarShape.Fits shape where
  distinct := by decide
  each := by
    simp only [shape, List.forall_mem_cons, Legible]
    exact ⟨by decide, by decide, List.forall_mem_nil _⟩
  fallbacks := by simp [shape]

lemma ofData?_toData (j : Jitter) :
    Payload.ofData? (Payload.toData j) = some j.wholeSeconds := ofScalars?_toScalars j

lemma decode_encode (j : Jitter) : decode Jitter (encode j) = .ok j.wholeSeconds := by
  refine Json.decode_encode (Json.legible_widen legible) ?_ (ofData?_toData j)
  have each := (fits_toScalars j).imp fun _ _ => FitsField.scalar
  exact List.forall₂_map_left_iff.2 (List.forall₂_map_right_iff.2 each)

lemma wholeSeconds_of_ofData? {data : List Datum} {j : Jitter}
    (made : Payload.ofData? data = some j) : j.wholeSeconds = j := by
  obtain ⟨values, -, made⟩ := Option.bind_eq_some_iff.1 made
  exact wholeSeconds_of_ofScalars? made

end Jitter

namespace Config

lemma fitsField_of_toml {field : Field FieldShape Datum} {d : Datum}
    (apt : Toml.FitsField field d) : FitsField field.shape d := by
  cases apt with
  | scalar apt => exact .scalar apt.fits
  | record apt =>
    exact .record (List.forall₂_iff_zip.2 ⟨apt.length.symm, fun mem => (apt.each _ mem).fits⟩)

lemma fitsShape_toData (c : Config) :
    FitsShape FitsField (Payload.shape Config) (Payload.toData c) :=
  List.forall₂_iff_zip.2 ⟨rfl, fun mem => fitsField_of_toml (fits_toData c _ mem)⟩

lemma legible_fieldNames : ∀ pair ∈ fieldNames, LegibleField pair.2 := by
  have short : Legible (.integer u16) := ⟨by decide, by decide⟩
  have days : Legible (.integer u32) := ⟨by decide, by decide⟩
  have seconds : Legible (.integer u64) := ⟨by decide, by decide⟩
  simp only [fieldNames, List.forall_mem_cons]
  exact ⟨trivial, trivial, short, seconds, days, days, seconds, seconds, Jitter.legible,
    Jitter.legible, List.forall_mem_nil _⟩

lemma fits_default : ∀ pair ∈ fieldNames.zip (toData {}), FitsField pair.1.2 pair.2 := by
  have fits : FitsShape FitsField (Payload.shape Config)
      ((fieldNames.zip (toData {})).map Prod.snd) := fitsShape_toData {}
  rw [FitsShape, fields_eq, List.forall₂_map_left_iff, List.forall₂_map_right_iff] at fits
  exact List.forall₂_same.1 fits

lemma legible : LegibleShape LegibleField FitsField (Payload.shape Config) where
  distinct := tidyShape.keys.distinct
  each := by
    intro field mem
    rw [fields_eq] at mem
    obtain ⟨⟨named, _⟩, pair, rfl⟩ := List.mem_map.1 mem
    exact legible_fieldNames named (List.of_mem_zip pair).1
  fallbacks := by
    intro field mem d fallback
    rw [fields_eq] at mem
    obtain ⟨⟨named, default⟩, pair, rfl⟩ := List.mem_map.1 mem
    obtain rfl : default = d := Option.some.inj fallback
    exact fits_default _ pair

lemma decode_encode (c : Config) : decode Config (encode c) = .ok c.wholeSeconds :=
  Json.decode_encode legible (fitsShape_toData c) (ofData?_toData c)

end Config

/-! ### What was decoded -/

namespace Json

/-- Whatever text a value was decoded from, it is decoded again from its own. -/
def DecodesAgain (α : Type) [Payload α] : Prop :=
  ∀ (text : String) (value : α), decode α text = .ok value → decode α (encode value) = .ok value

lemma exists_of_decode {α : Type} [Payload α] {text : String} {value : α}
    (ok : decode α text = .ok value) :
    ∃ data, readData (Payload.shape α) text = .ok data ∧ Payload.ofData? data = some value := by
  obtain ⟨data, read, ok⟩ := bind_eq_ok.1 ok
  split at ok
  · next made =>
    cases ok
    exact ⟨data, read, made⟩
  · cases ok

lemma decodesAgain_of_lossless {α : Type} [Payload α]
    (legible : LegibleShape LegibleField FitsField (Payload.shape α))
    (lossless : ∀ data (value : α),
      Payload.ofData? data = some value → Payload.toData value = data) : DecodesAgain α := by
  intro text value ok
  obtain ⟨data, read, made⟩ := exists_of_decode ok
  obtain rfl := lossless data value made
  exact bind_eq_ok.2 ⟨_, readData_again legible read, by simp only [made]; rfl⟩

lemma decodesAgain_of_kept {α : Type} [Payload α] {kept : α → α}
    (back : ∀ value, decode α (encode value) = .ok (kept value))
    (same : ∀ data value, Payload.ofData? data = some value → kept value = value) :
    DecodesAgain α := by
  intro text value ok
  obtain ⟨data, -, made⟩ := exists_of_decode ok
  rw [back, same data value made]

end Json

namespace Certificate

lemma toData_of_ofData? {data : List Datum} {c : Certificate}
    (made : Payload.ofData? data = some c) : Payload.toData c = data := by
  simp only [Payload.ofData?] at made
  split at made
  · cases made
    rfl
  · cases made

end Certificate

open Json (DecodesAgain decodesAgain_of_lossless decodesAgain_of_kept)

/-- **Records come back from JSON.** Each value is decoded from the compact text that it is encoded
to, whatever its texts, numbers and point in time; durations come back in whole seconds, and a leap
second that does not end a minute as the second that comes next. So what was decoded from any text
at all is decoded from its own text as the same value. -/
theorem records_come_back_from_json :
    (∀ r : RegisterResponse, decode RegisterResponse (encode r) = .ok r) ∧
    (∀ r : TokenRequest, decode TokenRequest (encode r) = .ok r) ∧
    (∀ r : TokenResponse, decode TokenResponse (encode r) = .ok r) ∧
    (∀ i : InstanceIdentity, decode InstanceIdentity (encode i) = .ok i) ∧
    (∀ c : Certificate, c.expireDate.Representable →
      decode Certificate (encode c) = .ok { c with expireDate := c.expireDate.told }) ∧
    (∀ j : Jitter, decode Jitter (encode j) = .ok j.wholeSeconds) ∧
    (∀ c : Config, decode Config (encode c) = .ok c.wholeSeconds) ∧
    DecodesAgain RegisterResponse ∧ DecodesAgain TokenRequest ∧ DecodesAgain TokenResponse ∧
    DecodesAgain InstanceIdentity ∧ DecodesAgain Certificate ∧ DecodesAgain Jitter ∧
    DecodesAgain Config := by
  have certificate : DecodesAgain Certificate :=
    decodesAgain_of_lossless Certificate.legible fun _ _ => Certificate.toData_of_ofData?
  have jitter : DecodesAgain Jitter :=
    decodesAgain_of_kept Jitter.decode_encode fun _ _ => Jitter.wholeSeconds_of_ofData?
  have config : DecodesAgain Config :=
    decodesAgain_of_kept Config.decode_encode fun _ _ => Config.wholeSeconds_of_ofData?
  exact ⟨RegisterResponse.decode_encode, TokenRequest.decode_encode, TokenResponse.decode_encode,
    InstanceIdentity.decode_encode, fun _ => Certificate.decode_encode, Jitter.decode_encode,
    Config.decode_encode, fun _ r _ => r.decode_encode, fun _ r _ => r.decode_encode,
    fun _ r _ => r.decode_encode, fun _ i _ => i.decode_encode, certificate, jitter, config⟩

lemma Json.eq_ok_of_toOption {ε α : Type} {x : Except ε α} {a : α} (same : x.toOption = some a) :
    x = .ok a := by
  cases x with
  | error => cases same
  | ok => exact congrArg Except.ok (Option.some.inj same)

/-- The end of a leap second before the year zero, beside characters that are escaped; and two texts
that were not written here: one with a key to ignore and an offset from UTC, one that is a list. -/
theorem leap_second_comes_back_from_json :
    let old : Certificate := ⟨"a\"\n\x01", ⟨-62167219201, 1999999999⟩, "é"⟩
    let foreign := "\x7b\"fingerprint\":\"\\u00e9\",\"spare\":[1,null]," ++
      "\"expire_date\":\"2024-03-01t00:00:00+02:00\",\"common_name\":\"n\"\x7d"
    let new : Certificate := ⟨"n", ⟨1709244000, 0⟩, "é"⟩
    let wide : Jitter := ⟨.zero, .ofSecs 18446744073709551615⟩
    old.expireDate.Representable ∧ decode Certificate (encode old) = .ok old ∧
    decode Certificate foreign = .ok new ∧ decode Certificate (encode new) = .ok new ∧
    decode Jitter "[0, 18446744073709551615]" = .ok wide ∧
    decode Jitter (encode wide) = .ok wide := by
  intro old foreign new wide
  obtain ⟨-, -, -, -, certificates, -, -, -, -, -, -, again, jitterAgain, -⟩ :=
    records_come_back_from_json
  have representable : old.expireDate.Representable := by decide
  have same : { old with expireDate := old.expireDate.told } = old := by decide
  have read : decode Certificate foreign = .ok new :=
    Json.eq_ok_of_toOption (by decide +kernel)
  have readWide : decode Jitter "[0, 18446744073709551615]" = .ok wide :=
    Json.eq_ok_of_toOption (by decide +kernel)
  refine ⟨representable, ?_, read, again foreign new read, readWide, jitterAgain _ wide readWide⟩
  exact (certificates old representable).trans (congrArg _ same)

/-- A certificate that expires in a leap second after a second within a minute comes back with the
second that follows. -/
theorem leap_second_within_minute_is_not_kept :
    let c : Certificate := ⟨"n", ⟨1704110430, 1500000000⟩, "f"⟩
    c.expireDate.Representable ∧
      encode c = "\x7b\"common_name\":\"n\"," ++
        "\"expire_date\":\"2024-01-01T12:00:31.500Z\",\"fingerprint\":\"f\"\x7d" ∧
      decode Certificate (encode c) = .ok ⟨"n", ⟨1704110431, 500000000⟩, "f"⟩ ∧
      decode Certificate (encode c) ≠ .ok c := by
  intro c
  have back : decode Certificate (encode c) = .ok ⟨"n", ⟨1704110431, 500000000⟩, "f"⟩ :=
    Json.eq_ok_of_toOption (by decide +kernel)
  refine ⟨by decide, by decide +kernel, back, ?_⟩
  rw [back]
  exact fun same => absurd (Except.ok.inj same) (by decide)

end TunnelKeeper
