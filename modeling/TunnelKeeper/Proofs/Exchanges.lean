import Mathlib.Data.List.Chain
import TunnelKeeper.Http.Network

/-!
What an HTTP client exchanges with servers for one post. A client that follows redirections sends
more than one request, and to other URLs than that of the post; the last answer is the response that
it hands over. Such a client is a parameter here. `Manners.Documented` has the assumptions about it,
each about a single request; what holds of a whole chain of redirections follows from them by
induction.
-/

namespace TunnelKeeper.Http

/-! ### Requests and answers -/

inductive Method where
  | get
  | post
  deriving DecidableEq, Repr

/-- A request as a server sees it. -/
structure Request where
  method : Method
  url : String
  authorization : Option String := none
  contentType : Option String := none
  body : String := ""
  deriving DecidableEq, Repr

/-- An answer of a server: the response that is handed over if no request follows, and the URL where
the server says the resource is. -/
structure Answer extends Response where
  location : Option String := none

/-- A request and its answer, if there was one. -/
structure Exchange where
  request : Request
  answer : Option Answer

/-- The statuses of a redirection. -/
def redirectStatuses : List UInt16 := [301, 302, 303, 307, 308]

/-! ### Manners of a client -/

/-- What an HTTP client does of its own accord. -/
structure Manners where
  /-- The canonical text of a URL, without the user that it may name. -/
  canonical : String → String
  /-- The credentials of the user that a URL names. -/
  user? : String → Option String
  /-- The host and the port of a URL. -/
  place : String → Option String × Option Nat
  /-- The request of a post, or why none is sent. -/
  request? : Post → Except String Request
  /-- What an answer to a request leads to: a further request or why that is not sent, or nothing. -/
  next? : Request → Answer → Option (Except String Request)
  /-- The number of redirections that are followed for one post. -/
  limit : Nat

/-- What is documented of the client: it follows up to ten redirections, as HTTP means them, and
takes care of credentials. -/
structure Manners.Documented (m : Manners) : Prop where
  /-- A post is sent as it is. A user in the URL takes the place of the client's credentials. -/
  posts : ∀ {post request}, m.request? post = .ok request → request = {
    method := .post
    url := m.canonical post.url
    authorization := (m.user? post.url).or post.authorization
    contentType := post.json.map fun _ => "application/json"
    body := post.json.getD "" }
  /-- A redirection has one of five statuses, and says where to go. -/
  redirects : ∀ {request answer next}, m.next? request answer = some next →
    answer.status ∈ redirectStatuses ∧ answer.location.isSome
  /-- Two of the statuses ask for the same request again, the others to get a resource. -/
  repeats : ∀ {request answer next}, m.next? request answer = some (.ok next) →
    if answer.status = 307 ∨ answer.status = 308 then
      next.body = request.body ∧ next.method = request.method
    else next.body = "" ∧ next.method = .get
  /-- Credentials are dropped where the host or the port changes. -/
  keeps : ∀ {request answer next}, m.next? request answer = some (.ok next) →
    next.authorization = none ∨
      next.authorization = request.authorization ∧ m.place next.url = m.place request.url
  few : m.limit ≤ 10

/-! ### The way of a request -/

section Manners

variable (m : Manners)

/-- How a request fares while up to a number of redirections are followed: what is exchanged, and
the result. -/
inductive Manners.Journey : Nat → Request → List Exchange → Except String Response → Prop where
  | unanswered (limit : Nat) (request : Request) (reason : String) :
      Journey limit request [⟨request, none⟩] (.error reason)
  | answered (limit : Nat) (request : Request) (answer : Answer)
      (direct : m.next? request answer = none) :
      Journey limit request [⟨request, some answer⟩] (.ok answer.toResponse)
  | unsent (limit : Nat) (request : Request) (answer : Answer) (reason : String)
      (refused : m.next? request answer = some (.error reason)) :
      Journey limit request [⟨request, some answer⟩] (.error reason)
  | tooFar (request : Request) (answer : Answer) (next : Request) (reason : String)
      (away : m.next? request answer = some (.ok next)) :
      Journey 0 request [⟨request, some answer⟩] (.error reason)
  | redirected (limit : Nat) (request : Request) (answer : Answer) (next : Request)
      (more : List Exchange) (result : Except String Response)
      (away : m.next? request answer = some (.ok next))
      (rest : Journey limit next more result) :
      Journey (limit + 1) request (⟨request, some answer⟩ :: more) result

/-- What is exchanged for a post, and its result. -/
inductive Manners.Handles (post : Post) : List Exchange → Except String Response → Prop where
  | unsent (reason : String) (refused : m.request? post = .error reason) :
      Handles post [] (.error reason)
  | sent (request : Request) (exchanges : List Exchange) (result : Except String Response)
      (sends : m.request? post = .ok request)
      (journey : m.Journey m.limit request exchanges result) : Handles post exchanges result

/-- The client of a network has these manners, and `log` tells all that it has exchanged. -/
def Network.Follows {σ : Type} (network : Network σ) (m : Manners) (log : σ → List Exchange) :
    Prop :=
  ∀ post s, ∃ new, log (network.post post s).2 = log s ++ new ∧
    m.Handles post new (network.post post s).1

/-- An answer that leads to nothing further. -/
def Exchange.Direct (e : Exchange) (answer : Answer) : Prop :=
  e.answer = some answer ∧ m.next? e.request answer = none

/-- One request is what the answer to another leads to. -/
def Exchange.LeadsTo (e e' : Exchange) : Prop :=
  ∃ answer, e.answer = some answer ∧ m.next? e.request answer = some (.ok e'.request)

end Manners

section Direct

variable {m : Manners} {e : Exchange} {answer answer' : Answer}

lemma Exchange.Direct.not_away (direct : e.Direct m answer) (answered : e.answer = some answer')
    {next : Except String Request} : m.next? e.request answer' ≠ some next := by
  obtain ⟨same, stays⟩ := direct
  obtain rfl : answer = answer' := Option.some.inj (same.symm.trans answered)
  rw [stays]
  nofun

lemma Manners.Documented.direct (documented : m.Documented) (answered : e.answer = some answer)
    (stays : answer.status ∉ redirectStatuses) : e.Direct m answer := by
  refine ⟨answered, ?_⟩
  cases away : m.next? e.request answer with
  | none => rfl
  | some next => exact absurd (documented.redirects away).1 stays

end Direct

/-! ### What a journey tells -/

namespace Manners.Journey

variable {m : Manners} {limit : Nat} {request : Request} {exchanges : List Exchange}
  {result : Except String Response} (journey : m.Journey limit request exchanges result)
include journey

lemma exists_eq_cons : ∃ answer rest, exchanges = ⟨request, answer⟩ :: rest := by
  cases journey with
  | redirected _ _ answer _ more => exact ⟨some answer, more, rfl⟩
  | _ => exact ⟨_, [], rfl⟩

lemma length_le : exchanges.length ≤ limit + 1 := by
  induction journey with
  | redirected _ _ _ _ _ _ _ _ ih => exact Nat.succ_le_succ ih
  | _ => exact Nat.succ_le_succ (Nat.zero_le _)

lemma isChain : exchanges.IsChain (Exchange.LeadsTo m) := by
  induction journey with
  | redirected limit request answer next more result away rest ih =>
    obtain ⟨next_answer, later, rfl⟩ := rest.exists_eq_cons
    exact .cons_cons ⟨answer, rfl, away⟩ ih
  | _ => exact .singleton _

lemma eq_singleton {e : Exchange} {rest : List Exchange} {answer : Answer}
    (here : exchanges = e :: rest) (direct : e.Direct m answer) : rest = [] := by
  cases journey with
  | redirected _ _ _ _ _ _ away _ =>
    obtain ⟨rfl, rfl⟩ := List.cons.inj here
    exact (direct.not_away rfl away).elim
  | _ => exact (List.cons.inj here).2.symm

/-- **The last answer is the response**, unless it redirects once more. -/
lemma result_eq_ok_iff {response : Response} :
    result = .ok response ↔
      ∃ e ∈ exchanges.getLast?, ∃ answer, e.Direct m answer ∧ answer.toResponse = response := by
  induction journey with
  | unanswered limit request reason => simp [Exchange.Direct]
  | answered limit request answer direct =>
    constructor
    · rintro ⟨⟩
      exact ⟨_, rfl, answer, ⟨rfl, direct⟩, rfl⟩
    · rintro ⟨e, last, answer', ⟨answered, -⟩, rfl⟩
      cases last
      cases answered
      rfl
  | unsent limit request answer reason away =>
    rw [iff_false_left nofun]
    rintro ⟨e, last, answer', direct, -⟩
    cases last
    exact direct.not_away rfl away
  | tooFar request answer next reason away =>
    rw [iff_false_left nofun]
    rintro ⟨e, last, answer', direct, -⟩
    cases last
    exact direct.not_away rfl away
  | redirected limit request answer next more result away rest ih =>
    obtain ⟨next_answer, later, rfl⟩ := rest.exists_eq_cons
    rw [ih, List.getLast?_cons_cons]

variable (documented : m.Documented)
include documented

/-- Credentials are only sent to where the first request is sent. -/
lemma authorization {e : Exchange} (mem : e ∈ exchanges) :
    e.request.authorization = none ∨
      e.request.authorization = request.authorization ∧
        m.place e.request.url = m.place request.url := by
  induction journey with
  | redirected limit request answer next more result away rest ih =>
    rcases List.mem_cons.1 mem with rfl | mem
    · exact .inr ⟨rfl, rfl⟩
    · -- Host and port are compared with those of the request before, all the way from the first.
      rcases ih mem with none | ⟨same, place⟩
      · exact .inl none
      · rcases documented.keeps away with none | ⟨kept, there⟩
        · exact .inl (same.trans none)
        · exact .inr ⟨same.trans kept, place.trans there⟩
  | _ =>
    obtain rfl := List.mem_singleton.1 mem
    exact .inr ⟨rfl, rfl⟩

/-- What is posted is repeated, or nothing is posted any more. -/
lemma body {e : Exchange} (mem : e ∈ exchanges) :
    e.request.body = "" ∧ e.request.method = .get ∨
      e.request.body = request.body ∧ e.request.method = request.method := by
  induction journey with
  | redirected limit request answer next more result away rest ih =>
    rcases List.mem_cons.1 mem with rfl | mem
    · exact .inr ⟨rfl, rfl⟩
    · rcases ih mem with get | ⟨body, method⟩
      · exact .inl get
      · rw [body, method]
        have repeats := documented.repeats away
        split at repeats
        · exact .inr repeats
        · exact .inl repeats
  | _ =>
    obtain rfl := List.mem_singleton.1 mem
    exact .inr ⟨rfl, rfl⟩

end Manners.Journey

/-! ### Servers that keep to a script -/

namespace Manners

section Scripted

variable (m : Manners)

/-- Sends a request and follows up to `limit` redirections. The servers give their answers in turn,
the last one over and over; all that is exchanged is written down. -/
def follow (limit : Nat) (request : Request) :
    List Answer × List Exchange → Except String Response × List Answer × List Exchange
  | ([], log) => (.error "error sending request", [], log ++ [⟨request, none⟩])
  | (answer :: later, log) =>
    let answers := if later = [] then [answer] else later
    let log := log ++ [⟨request, some answer⟩]
    match m.next? request answer with
    | none => (.ok answer.toResponse, answers, log)
    | some (.error reason) => (.error reason, answers, log)
    | some (.ok next) =>
      match limit with
      | 0 => (.error "error following redirect", answers, log)
      | limit + 1 => follow limit next (answers, log)

/-- A client with these manners before servers that keep to a script. -/
def scripted : Network (List Answer × List Exchange) where
  post post s :=
    match m.request? post with
    | .error reason => (.error reason, s)
    | .ok request => m.follow m.limit request s
  undecodable := "error decoding response body"

lemma follow_journey (limit : Nat) (request : Request) (s : List Answer × List Exchange) :
    ∃ new, (m.follow limit request s).2.2 = s.2 ++ new ∧
      m.Journey limit request new (m.follow limit request s).1 := by
  obtain ⟨answers, log⟩ := s
  unfold follow
  cases answers with
  | nil => exact ⟨_, rfl, .unanswered limit request _⟩
  | cons answer later =>
    dsimp only
    cases away : m.next? request answer with
    | none => exact ⟨_, rfl, .answered limit request answer away⟩
    | some next =>
      cases next with
      | error reason => exact ⟨_, rfl, .unsent limit request answer reason away⟩
      | ok next =>
        cases limit with
        | zero => exact ⟨_, rfl, .tooFar request answer next _ away⟩
        | succ limit =>
          -- The recursion is on the redirections that are left.
          obtain ⟨new, noted, journey⟩ := follow_journey limit next
            (if later = [] then [answer] else later, log ++ [⟨request, some answer⟩])
          rw [List.append_assoc] at noted
          exact ⟨_, noted, .redirected limit request answer next new _ away journey⟩

lemma scripted_follows : m.scripted.Follows m Prod.snd := by
  intro post s
  cases sends : m.request? post with
  | error reason =>
    refine ⟨[], ?_⟩
    simp only [scripted, sends]
    exact ⟨(List.append_nil _).symm, .unsent reason sends⟩
  | ok request =>
    obtain ⟨new, noted, journey⟩ := m.follow_journey m.limit request s
    refine ⟨new, ?_⟩
    simp only [scripted, sends]
    exact ⟨noted, .sent request new _ sends journey⟩

end Scripted

/-! ### A client for whole URLs -/

/-- The host and the port that a text names as a URL. -/
def placeOf (text : String) : Option String × Option Nat :=
  match Url.parse? text with
  | none => (none, none)
  | some url => (url.host, url.port.or (usualPort? url.scheme))

/-- The text of the URL that a post to it goes to. -/
def targetText? (text : String) : Except String String :=
  (Post.target? ⟨text, none, none⟩).map Url.text

/-- The request that a redirection to a URL leads to. -/
def redirected (request : Request) (status : UInt16) (url : String) : Request :=
  let authorization := if placeOf url = placeOf request.url then request.authorization else none
  if status = 307 ∨ status = 308 then { request with url := url, authorization := authorization }
  else { method := .get, url := url, authorization := authorization }

/-- The manners of a client whose posts go to URLs that name no user, and whose servers redirect to
whole URLs. -/
def plain : Manners where
  canonical text := (targetText? text).toOption.getD text
  user? _ := none
  place := placeOf
  request? post :=
    (targetText? post.url).map fun url => {
      method := .post
      url := url
      authorization := post.authorization
      contentType := post.json.map fun _ => "application/json"
      body := post.json.getD "" }
  next? request answer :=
    if answer.status ∈ redirectStatuses then
      answer.location.map fun location =>
        (targetText? location).map (redirected request answer.status)
    else none
  limit := 10

lemma plain_next {request : Request} {answer : Answer} {next : Except String Request}
    (away : plain.next? request answer = some next) :
    answer.status ∈ redirectStatuses ∧ ∃ location, answer.location = some location ∧
      next = (targetText? location).map (redirected request answer.status) := by
  simp only [plain] at away
  split at away
  · next mem =>
    obtain ⟨location, named, rfl⟩ := Option.map_eq_some_iff.1 away
    exact ⟨mem, location, named, rfl⟩
  · cases away

lemma plain_next_ok {request next : Request} {answer : Answer}
    (away : plain.next? request answer = some (.ok next)) :
    ∃ url, next = redirected request answer.status url := by
  obtain ⟨-, location, -, made⟩ := plain_next away
  cases target : targetText? location with
  | error reason =>
    rw [target] at made
    cases made
  | ok url =>
    rw [target] at made
    exact ⟨url, Except.ok.inj made⟩

lemma plain_documented : plain.Documented where
  posts {post request} sends := by
    simp only [plain] at sends ⊢
    cases target : targetText? post.url with
    | error reason =>
      rw [target] at sends
      cases sends
    | ok url =>
      rw [target] at sends
      exact (Except.ok.inj sends).symm
  redirects away := by
    obtain ⟨mem, location, named, -⟩ := plain_next away
    rw [named]
    exact ⟨mem, rfl⟩
  repeats away := by
    obtain ⟨url, rfl⟩ := plain_next_ok away
    unfold redirected
    dsimp only
    split <;> exact ⟨rfl, rfl⟩
  keeps {request answer next} away := by
    obtain ⟨url, rfl⟩ := plain_next_ok away
    have goes : (redirected request answer.status url).url = url := by
      unfold redirected
      dsimp only
      split <;> rfl
    have credentials : (redirected request answer.status url).authorization =
        if placeOf url = placeOf request.url then request.authorization else none := by
      unfold redirected
      dsimp only
      split <;> rfl
    rw [goes, credentials]
    split
    · next here => exact .inr ⟨rfl, here⟩
    · exact .inl rfl
  few := Nat.le_refl 10

end Manners

end TunnelKeeper.Http
