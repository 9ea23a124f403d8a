import TunnelKeeper.Http.Url

/-!
What the program asks of its HTTP client, and what it gets back. How the client and the servers it
talks to bring a response about is theirs; nothing here says how many requests that takes.
-/

namespace TunnelKeeper.Http

/-- A post that the client is asked to make. -/
structure Post where
  url : String
  /-- The credentials that the client sends along with every post. -/
  authorization : Option String
  /-- The text of a JSON body. -/
  json : Option String
  deriving DecidableEq, Repr

/-- A response that the client hands over: its status, and the text of its body or why that could
not be read. -/
structure Response where
  status : UInt16
  body : Except String String

/-- An HTTP client with all the servers that it talks to. -/
structure Network (σ : Type) where
  /-- The response to a post, or why there is none, and how posting changes the rest of the world. -/
  post : Post → σ → Except String Response × σ
  /-- The client's words for a body that is not the JSON it is read as. -/
  undecodable : String

/-- The URL of a post without the user that it may name, or why nothing can be sent there. -/
def Post.target? (post : Post) : Except String Url :=
  match Url.parse? post.url with
  | none => .error "builder error"
  | some named =>
    let url := { named with userinfo := none }
    if url.hasHost ∧ (url.scheme = "http" ∨ url.scheme = "https") then .ok url
    else .error ("builder error for url (" ++ url.text ++ ")")

/-- A network in which nothing can be reached. -/
def Network.unreachable : Network Unit where
  post post s :=
    match post.target? with
    | .error reason => (.error reason, s)
    | .ok url => (.error ("error sending request for url (" ++ url.text ++ ")"), s)
  undecodable := "error decoding response body"

end TunnelKeeper.Http
