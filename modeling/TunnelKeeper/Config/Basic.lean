import TunnelKeeper.Record.Payload

/-!
The settings of remote access, their defaults, and the checks that they are usable together.

In a record durations are whole seconds. Every setting may be left out; of the bounds of a window
neither may.
-/

namespace TunnelKeeper

open Record (Datum Scalar Field FieldShape Payload u16 u32 u64)

/-- A window of whole seconds from which delays are drawn. -/
structure Jitter where
  min : Duration
  max : Duration
  deriving DecidableEq, Repr

namespace Jitter

/-- The ends of the window in seconds. An inverted window shrinks to its upper end. -/
def last (j : Jitter) : Nat := j.max.secs.toNat
def first (j : Jitter) : Nat := Nat.min j.min.secs.toNat j.last

/-- The delay that a draw picks: every one of the window is picked by some draw. -/
def sample (j : Jitter) (draw : Nat) : Duration :=
  .ofSecs (j.first + draw % (j.last - j.first + 1)).toUInt64

theorem first_le_last (j : Jitter) : j.first ≤ j.last := Nat.min_le_right _ _

/-- A sample lies in the window. -/
theorem sample_secs (j : Jitter) (draw : Nat) :
    j.first ≤ (j.sample draw).secs.toNat ∧ (j.sample draw).secs.toNat ≤ j.last := by
  have order := j.first_le_last
  have bound : j.last < 2 ^ 64 := j.max.secs.toNat_lt
  have rest : draw % (j.last - j.first + 1) < j.last - j.first + 1 := Nat.mod_lt _ (by omega)
  have whole : (j.sample draw).secs.toNat = j.first + draw % (j.last - j.first + 1) := by
    simp only [sample, Duration.ofSecs, Nat.toUInt64_eq, UInt64.toNat_ofNat']
    omega
  omega

def shape : Record.FlatShape where
  name := "JitterConfig"
  fields := [⟨"min", .integer u64, none⟩, ⟨"max", .integer u64, none⟩]

def toScalars (j : Jitter) : List Scalar :=
  [.integer j.min.secs.toNat, .integer j.max.secs.toNat]

def ofScalars? : List Scalar → Option Jitter
  | [.integer min, .integer max] =>
    some ⟨.ofSecs min.toNat.toUInt64, .ofSecs max.toNat.toUInt64⟩
  | _ => none

instance : Payload Jitter where
  shape := shape.widen
  toData j := j.toScalars.map .scalar
  ofData? data := data.mapM Datum.scalar? >>= ofScalars?

end Jitter

/-- The settings of remote access. -/
structure Config where
  /-- The base URL of the backend. -/
  apiUrl : String := ""
  /-- The bearer token of calls to the backend. -/
  accessToken : Option String := none
  relayPort : UInt16 := 443
  /-- The deadline of a call to the backend. -/
  backendTimeout : Duration := .ofSecs 30
  /-- A certificate is renewed once it expires within so many days. -/
  renewBeforeDays : UInt32 := 25
  /-- A renewal that fails is a warning once the certificate expires within so many days. -/
  warnBeforeDays : UInt32 := 18
  /-- The pause between teardown and reload after a renewal. -/
  renewalSettle : Duration := .ofSecs 5
  /-- The time between two looks at the host's runtime. -/
  runtimePollInterval : Duration := .ofSecs 1
  /-- The delay of the nightly check after midnight. -/
  renewalJitter : Jitter := ⟨.ofSecs 1, .ofSecs 3600⟩
  /-- The delay before an attempt to reconnect. -/
  reconnectJitter : Jitter := ⟨.ofSecs 1, .ofSecs 15⟩
  deriving DecidableEq, Repr

namespace Config

/-- The thresholds in seconds. -/
def renewThreshold (c : Config) : Int := c.renewBeforeDays.toNat * 86400
def warnThreshold (c : Config) : Int := c.warnBeforeDays.toNat * 86400

/-! ### Records -/

def toData (c : Config) : List Datum :=
  [.scalar (.text c.apiUrl), .scalar (.ofText? c.accessToken),
    .scalar (.integer c.relayPort.toNat), .scalar (.integer c.backendTimeout.secs.toNat),
    .scalar (.integer c.renewBeforeDays.toNat), .scalar (.integer c.warnBeforeDays.toNat),
    .scalar (.integer c.renewalSettle.secs.toNat),
    .scalar (.integer c.runtimePollInterval.secs.toNat),
    .record c.renewalJitter.toScalars, .record c.reconnectJitter.toScalars]

/-- A setting that takes its default when it is left out. -/
def setting (key : String) (shape : FieldShape) (fallback : Datum) : Field FieldShape Datum :=
  ⟨key, shape, some fallback⟩

def fieldNames : List (String × FieldShape) :=
  [("api_url", .scalar .text), ("access_token", .scalar .optionalText),
    ("relay_port", .scalar (.integer u16)), ("backend_timeout", .scalar (.integer u64)),
    ("renew_before_days", .scalar (.integer u32)), ("warn_before_days", .scalar (.integer u32)),
    ("renewal_settle", .scalar (.integer u64)), ("runtime_poll_interval", .scalar (.integer u64)),
    ("renewal_jitter", .record Jitter.shape), ("reconnect_jitter", .record Jitter.shape)]

/-- The text that a scalar holds, if any. -/
def textOf? : Scalar → Option (Option String)
  | .none => some none
  | .text s => some (some s)
  | _ => none

def ofData? : List Datum → Option Config
  | [.scalar (.text apiUrl), .scalar accessToken, .scalar (.integer relayPort),
      .scalar (.integer backendTimeout), .scalar (.integer renewBeforeDays),
      .scalar (.integer warnBeforeDays), .scalar (.integer renewalSettle),
      .scalar (.integer runtimePollInterval), .record renewalJitter, .record reconnectJitter] => do
    return {
      apiUrl := apiUrl
      accessToken := ← textOf? accessToken
      relayPort := .ofNat relayPort.toNat
      backendTimeout := .ofSecs backendTimeout.toNat.toUInt64
      renewBeforeDays := .ofNat renewBeforeDays.toNat
      warnBeforeDays := .ofNat warnBeforeDays.toNat
      renewalSettle := .ofSecs renewalSettle.toNat.toUInt64
      runtimePollInterval := .ofSecs runtimePollInterval.toNat.toUInt64
      renewalJitter := ← Jitter.ofScalars? renewalJitter
      reconnectJitter := ← Jitter.ofScalars? reconnectJitter }
  | _ => none

instance : Payload Config where
  shape :=
    { name := "RemoteConfig"
      fields := (fieldNames.zip (toData {})).map fun ((key, shape), fallback) =>
        setting key shape fallback }
  toData := toData
  ofData? := ofData?

/-! ### Checks -/

/-- Why settings cannot be used. -/
inductive Conflict where
  | invertedWindow (name : String) (window : Jitter)
  | warnBeyondRenew (warn renew : UInt32)
  | zeroTimeout
  deriving DecidableEq, Repr

def Conflict.message : Conflict → String
  | invertedWindow name window =>
    name ++ ": min (" ++ window.min.text ++ ") exceeds max (" ++ window.max.text ++ ")"
  | warnBeyondRenew warn renew =>
    "warn_before_days (" ++ toString warn ++ ") exceeds renew_before_days (" ++ toString renew ++ ")"
  | zeroTimeout => "backend_timeout must be non-zero"

/-- The first conflict among the settings. -/
def conflict? (c : Config) : Option Conflict :=
  if c.renewalJitter.max < c.renewalJitter.min then
    some (.invertedWindow "renewal_jitter" c.renewalJitter)
  else if c.reconnectJitter.max < c.reconnectJitter.min then
    some (.invertedWindow "reconnect_jitter" c.reconnectJitter)
  else if c.renewBeforeDays < c.warnBeforeDays then
    some (.warnBeyondRenew c.warnBeforeDays c.renewBeforeDays)
  else if c.backendTimeout = .zero then some .zeroTimeout
  else none

/-- The settings are usable together. -/
def Valid (c : Config) : Prop := c.conflict? = none

instance (c : Config) : Decidable c.Valid := inferInstanceAs (Decidable (c.conflict? = none))

end Config

end TunnelKeeper
