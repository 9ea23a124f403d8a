import TunnelKeeper.Coordinator.World

/-!
Calls to the collaborators. A call is recorded when it is made, and takes its answer from the
script. What it does to the world it does when the answer arrives; a caller that gives up meanwhile
never gets there.
-/

namespace TunnelKeeper.Coordinator.World

/-! ### The backend -/

def callRegister (w : World) : Call (Except BackendError RegisterResponse) × World :=
  let (answer, rest) := w.scripts.register.next
  (w.callFor answer, { w.record .register with scripts := { w.scripts with register := rest } })

/-- Generates a key and asks for a token that is bound to it. -/
def callToken (w : World) : KeyId × Call (Except BackendError Grant) × World :=
  let (answer, rest) := w.scripts.token.next
  (w.keys, w.callFor answer,
    { w.record (.token w.keys) with
      keys := w.keys + 1
      scripts := { w.scripts with token := rest } })

/-- The payload that grants a token now. -/
def granted (w : World) (key : KeyId) (g : Grant) : TokenResponse where
  token := g.token.getD ("token-" ++ toString key)
  valid := .ofInt (g.valid.getD (w.clock.secs + g.validIn))
  throttling := g.throttling

/-- The token of an answer to a request with a key. -/
def tokenOf (w : World) (key : KeyId) : Except BackendError Grant → Except BackendError Token
  | .error e => .error e
  | .ok grant =>
    let response := w.granted key grant
    match response.validUntil with
    | .ok validUntil => .ok ⟨response.token, key, validUntil, response.throttling⟩
    | .error e => .error (.protocol e)

/-! ### The certificate authority -/

/-- A new authority for an identity, without a certificate. -/
def createAuthority (w : World) (identity : InstanceIdentity) : CycleId × World :=
  (w.cycles.length,
    { w.record (.createAuthority identity.domain identity.contact) with
      cycles := w.cycles ++ [{ identity := identity }] })

def callLoad (w : World) : Call (Except CertificateError Unit) × World :=
  let (answer, rest) := w.scripts.load.next
  (w.callFor answer, { w.record .loadCertificate with scripts := { w.scripts with load := rest } })

/-- The stored certificate is the current one. -/
def loadArrived (w : World) (c : CycleId) : World :=
  w.modifyCycle c fun cycle => { cycle with certificate := w.storage }

def callIssue (w : World) (c : CycleId) : Call (Except CertificateError Issue) × World :=
  let (answer, rest) := w.scripts.issue.next
  (w.callFor answer,
    { w.record (.issueCertificate (w.domain c)) with scripts := { w.scripts with issue := rest } })

/-- The certificate that is issued now. -/
def issuedNow (w : World) (c : CycleId) (issue : Issue) : Certificate where
  commonName := issue.commonName.getD (w.domain c)
  expireDate := w.clockAfter (w.now + issue.validMillis)
  fingerprint := "issued-" ++ toString w.issued

/-- A new certificate is the current one and the stored one. -/
def issueArrived (w : World) (c : CycleId) (issue : Issue) : World :=
  let certificate := some (w.issuedNow c issue)
  { w.modifyCycle c fun cycle => { cycle with certificate := certificate } with
    storage := certificate
    issued := w.issued + 1 }

def callReset (w : World) : Call (Except CertificateError Unit) × World :=
  let (answer, rest) := w.scripts.reset.next
  (w.callFor answer, { w.record .resetAuthority with scripts := { w.scripts with reset := rest } })

/-- There is no certificate any more. -/
def resetArrived (w : World) (c : CycleId) : World :=
  { w.modifyCycle c fun cycle => { cycle with certificate := none } with storage := none }

def callHarden (w : World) : Call (Except CertificateError Unit) × World :=
  let (answer, rest) := w.scripts.harden.next
  (w.callFor answer, { w.record .hardenFiles with scripts := { w.scripts with harden := rest } })

/-- There is a certificate that has not expired. -/
def hasValidCertificate (w : World) (c : CycleId) : Bool :=
  (w.certificate? c).any fun certificate => decide (certificate.ValidAt w.clock)

/-! ### The host -/

def askRuntimeReady (w : World) : Bool × World :=
  (w.runtimeReady, w.record (.runtimeReady w.runtimeReady))

def askAutostart (w : World) : Bool × World := (w.autostart, w.record (.autostart w.autostart))

def message (w : World) (m : Message) : World := w.record (.message m)

/-! ### TLS -/

/-- Starts to build the TLS context of the current certificate. Builds end in their order. -/
def callBuild (w : World) (t : TaskId) : Except CertificateError Unit × World :=
  let (answer, rest) := w.scripts.tls.next
  (answer.answer,
    { w with builds := w.builds ++ [t], scripts := { w.scripts with tls := rest } })

/-! ### Tunnels -/

def createTunnel (w : World) (c : CycleId) : TunnelId × World :=
  let params : TunnelParams := ⟨w.relay c, w.config.relayPort⟩
  (w.tunnels.length,
    { w.record (.createTunnel w.tunnels.length params) with
      tunnels := w.tunnels ++ [{ params := params }] })

def callStart (w : World) (n : TunnelId) : Call (Except TransportError Unit) × World :=
  let (answer, rest) := w.scripts.start.next
  (w.callFor answer, { w.record (.startTunnel n) with scripts := { w.scripts with start := rest } })

/-- The tunnel has started. -/
def startArrived (w : World) (n : TunnelId) : World :=
  w.modifyTunnel n fun tunnel => { tunnel with stage := .running }

def callStop (w : World) (n : TunnelId) : Call Unit × World :=
  let (answer, rest) := w.scripts.stop.next
  let stopping := (w.record (.stopTunnel n)).modifyTunnel n fun tunnel =>
    { tunnel with stage := .stopping }
  (w.callFor answer, { stopping with scripts := { w.scripts with stop := rest } })

/-- The tunnel has stopped, which ends its connection too. -/
def stopArrived (w : World) (n : TunnelId) : World :=
  (w.modifyTunnel n fun tunnel => { tunnel with stage := .stopped }).setConnected n false

def callConnect (w : World) (n : TunnelId) (token : Token) :
    Call (Except TransportError Bool) × World :=
  let (answer, rest) := w.scripts.connect.next
  (w.callFor answer,
    { w.record (.connectTunnel n token) with scripts := { w.scripts with connect := rest } })

/-- A tunnel that was connected is up, unless the connection is lost again at once. -/
def connectArrived (w : World) (n : TunnelId) (lasting : Bool) : World :=
  if lasting then w.setConnected n true else w

def callDisconnect (w : World) (n : TunnelId) : Call Unit × World :=
  let (answer, rest) := w.scripts.disconnect.next
  (w.callFor answer,
    { w.record (.disconnectTunnel n) with scripts := { w.scripts with disconnect := rest } })

def disconnectArrived (w : World) (n : TunnelId) : World := w.setConnected n false

end TunnelKeeper.Coordinator.World
