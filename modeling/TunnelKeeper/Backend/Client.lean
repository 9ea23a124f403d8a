import TunnelKeeper.Backend.Message
import TunnelKeeper.Config.Basic
import TunnelKeeper.Http.Network
import TunnelKeeper.Json.Decode
import TunnelKeeper.Json.Writer

/-!
The backend as reached over HTTP. Both calls are posts below the base URL; any status but 200 is a
failure, and so is a body that is no payload.
-/

namespace TunnelKeeper

open Http (Network Response)

/-- A client of the backend: the base URL without slashes at its end, and the credentials of every
request. -/
structure BackendClient where
  baseUrl : String
  authorization : Option String
  deriving DecidableEq, Repr

namespace BackendClient

/-- A character that a header can hold. -/
def isHeaderChar (c : Char) : Bool := c = '\t' || (0x20 ≤ c.toNat && c.toNat ≠ 0x7f)

/-- The credentials of a bearer token. -/
def bearer? (token : String) : Option String :=
  if token.toList.all isHeaderChar then some ("Bearer " ++ token) else none

def trimSlashes (s : String) : String :=
  String.ofList (s.toList.reverse.dropWhile (· = '/')).reverse

/-- The client that the settings describe. -/
def ofConfig (config : Config) : Except BackendError BackendClient :=
  if config.apiUrl = "" then .error (.config "api_url is empty")
  else
    let baseUrl := trimSlashes config.apiUrl
    match config.accessToken with
    | none => .ok ⟨baseUrl, none⟩
    | some token =>
      match bearer? token with
      | some authorization => .ok ⟨baseUrl, some authorization⟩
      | none => .error (.config "Invalid access token format")

/-- The text of the URL of a call. -/
def urlText (client : BackendClient) (path : String) : String := client.baseUrl ++ path

section Call

variable {σ : Type} (network : Network σ) (client : BackendClient)

/-- The payload of a response, if its status is 200. -/
def payload (α : Type) [Record.Payload α] (response : Response) : Except BackendError α :=
  if response.status ≠ 200 then .error (.status response.status)
  else
    match response.body with
    | .error reason => .error (.http reason)
    | .ok text =>
      match Json.decode α text with
      | .ok value => .ok value
      | .error _ => .error (.http network.undecodable)

/-- Posts a body and decodes the response. -/
def call (α : Type) [Record.Payload α] (path : String) (json : Option String) (s : σ) :
    Except BackendError α × σ :=
  match network.post ⟨client.urlText path, client.authorization, json⟩ s with
  | (.error reason, s) => (.error (.http reason), s)
  | (.ok response, s) => (payload network α response, s)

/-- Registers this instance. -/
def register (s : σ) : Except BackendError RegisterResponse × σ :=
  match client.call network RegisterResponse registerPath none s with
  | (.ok response, s) =>
    match response.validate with
    | .ok () => (.ok response, s)
    | .error e => (.error (.protocol e), s)
  | failed => failed

/-- Asks for a session token for a key and an initial vector. -/
def sessionToken (key iv : List UInt8) (s : σ) : Except BackendError TokenResponse × σ :=
  client.call network TokenResponse tokenPath
    (some (Json.encode (TokenRequest.ofBytes key iv))) s

end Call

end BackendClient

end TunnelKeeper
