import Mathlib.Data.List.DropRight
import TunnelKeeper.Backend.Client
import TunnelKeeper.Proofs.Exchanges

/-!
Calls to the backend, one after the other. The last answer on the way of a call settles it: a call
succeeds exactly if that answer has the status 200 and a body that can be used, and any other status
is its failure. An answer to the post itself that redirects nowhere is the last one, so then the
call has sent one request. Otherwise the client goes where the answers lead it.
-/

namespace TunnelKeeper.BackendClient

open Http (Answer Exchange Manners Network Post Response redirectStatuses)

/-! ### Calls -/

inductive Call where
  | register
  | token (key iv : List UInt8)

inductive Reply where
  | registered (response : RegisterResponse)
  | granted (response : TokenResponse)
  deriving DecidableEq

namespace Call

def path : Call → String
  | register => registerPath
  | token _ _ => tokenPath

/-- What is posted. -/
def json : Call → Option String
  | register => none
  | token key iv => some (Json.encode (TokenRequest.ofBytes key iv))

/-- What a response says, if it can be used. -/
inductive Reads (response : Response) : Call → Reply → Prop where
  | registered {text : String} {r : RegisterResponse} (body : response.body = .ok text)
      (decoded : Json.decode RegisterResponse text = .ok r)
      (domain : r.domain ≠ "") (server : r.server ≠ "") : Reads response .register (.registered r)
  | granted {key iv : List UInt8} {text : String} {r : TokenResponse}
      (body : response.body = .ok text) (decoded : Json.decode TokenResponse text = .ok r) :
      Reads response (.token key iv) (.granted r)

end Call

section Place

variable {σ : Type} (network : Network σ)

/-- What has come back for a post. -/
def received (α : Type) [Record.Payload α] : Except String Response → Except BackendError α
  | .error reason => .error (.http reason)
  | .ok response => payload network α response

/-- The result of a call, by what has come back. -/
def judge : Call → Except String Response → Except BackendError Reply
  | .register, result =>
    match received network RegisterResponse result with
    | .error e => .error e
    | .ok r =>
      match r.validate with
      | .ok () => .ok (.registered r)
      | .error e => .error (.protocol e)
  | .token _ _, result => (received network TokenResponse result).map .granted

variable (client : BackendClient)

def place (s : σ) : Call → Except BackendError Reply × σ
  | .register => ((client.register network s).1.map .registered, (client.register network s).2)
  | .token key iv =>
    ((client.sessionToken network key iv s).1.map .granted,
      (client.sessionToken network key iv s).2)

/-- A call, what was exchanged for it, and its result. -/
structure Account where
  call : Call
  exchanges : List Exchange
  result : Except BackendError Reply

/-- The accounts of calls, one after the other, where `log` tells all that has been exchanged. -/
def accounts (log : σ → List Exchange) (s : σ) : List Call → List Account
  | [] => []
  | call :: rest =>
    match client.place network s call with
    | (result, s') => ⟨call, (log s').drop (log s).length, result⟩ :: accounts log s' rest

end Place

/-! ### The payload -/

lemma validate_eq_ok_iff {r : RegisterResponse} :
    r.validate = .ok () ↔ r.domain ≠ "" ∧ r.server ≠ "" := by
  unfold RegisterResponse.validate
  split
  · next domain => simp [domain]
  · next domain =>
    split
    · next server => simp [server]
    · next server => simp [domain, server]

section Judge

variable {σ : Type} {network : Network σ} {call : Call} {response : Response} {reply : Reply}

lemma payload_eq_ok_iff {α : Type} [Record.Payload α] {value : α} :
    payload network α response = .ok value ↔ response.status = 200 ∧
      ∃ text, response.body = .ok text ∧ Json.decode α text = .ok value := by
  unfold payload
  split
  · next bad => simp [bad]
  · next good =>
    rw [not_not] at good
    split
    · next broken => simp [broken]
    · next text body =>
      split
      · next decoded => simp [good, body, decoded]
      · next fault decoded => simp [body, decoded]

lemma payload_of_ne {α : Type} [Record.Payload α] (bad : response.status ≠ 200) :
    payload network α response = .error (.status response.status) :=
  if_pos bad

lemma judge_error (call : Call) (reason : String) :
    judge network call (.error reason) = .error (.http reason) := by
  cases call <;> rfl

lemma judge_ok_iff : judge network call (.ok response) = .ok reply ↔
    response.status = 200 ∧ call.Reads response reply := by
  cases call with
  | register =>
    rw [judge, received]
    constructor
    · intro judged
      split at judged
      · cases judged
      · next r accepted =>
        split at judged
        · next valid =>
          cases judged
          obtain ⟨status, text, body, decoded⟩ := payload_eq_ok_iff.1 accepted
          obtain ⟨domain, server⟩ := validate_eq_ok_iff.1 valid
          exact ⟨status, .registered body decoded domain server⟩
        · cases judged
    · rintro ⟨status, reads⟩
      cases reads with | registered body decoded domain server =>
      rw [payload_eq_ok_iff.2 ⟨status, _, body, decoded⟩]
      dsimp only
      rw [validate_eq_ok_iff.2 ⟨domain, server⟩]
  | token key iv =>
    rw [judge, received]
    constructor
    · intro judged
      cases accepted : payload network TokenResponse response with
      | error e =>
        rw [accepted] at judged
        cases judged
      | ok r =>
        rw [accepted] at judged
        cases judged
        obtain ⟨status, text, body, decoded⟩ := payload_eq_ok_iff.1 accepted
        exact ⟨status, .granted body decoded⟩
    · rintro ⟨status, reads⟩
      cases reads with | granted body decoded =>
      rw [payload_eq_ok_iff.2 ⟨status, _, body, decoded⟩]
      rfl

lemma judge_eq_ok_iff {result : Except String Response} :
    judge network call result = .ok reply ↔
      ∃ response, result = .ok response ∧ response.status = 200 ∧ call.Reads response reply := by
  cases result with
  | error reason => simp [judge_error]
  | ok response => simp [judge_ok_iff]

/-- Any status but 200 is the failure of the call, whatever the body. -/
lemma judge_of_status (bad : response.status ≠ 200) :
    judge network call (.ok response) = .error (.status response.status) := by
  cases call with
  | register => rw [judge, received, payload_of_ne bad]
  | token key iv => rw [judge, received, payload_of_ne bad, Except.map]

end Judge

/-! ### The way of a call -/

section Place

variable {σ : Type} (network : Network σ) (client : BackendClient) (s : σ)

/-- What the client is asked to post for a call. -/
def post (call : Call) : Post := ⟨client.urlText call.path, client.authorization, call.json⟩

lemma call_eq (α : Type) [Record.Payload α] (path : String) (json : Option String) :
    client.call network α path json s =
      (received network α (network.post ⟨client.urlText path, client.authorization, json⟩ s).1,
        (network.post ⟨client.urlText path, client.authorization, json⟩ s).2) := by
  unfold BackendClient.call
  obtain ⟨result, s'⟩ := network.post ⟨client.urlText path, client.authorization, json⟩ s
  cases result <;> rfl

lemma register_eq : client.register network s =
    (match (client.call network RegisterResponse registerPath none s).1 with
      | .error e => .error e
      | .ok r => match r.validate with
        | .ok () => .ok r
        | .error e => .error (.protocol e),
      (client.call network RegisterResponse registerPath none s).2) := by
  unfold register
  obtain ⟨result, s'⟩ := client.call network RegisterResponse registerPath none s
  cases result with
  | error e => rfl
  | ok r =>
    dsimp only
    cases r.validate <;> rfl

lemma place_eq (call : Call) : client.place network s call =
    (judge network call (network.post (client.post call) s).1,
      (network.post (client.post call) s).2) := by
  cases call with
  | register =>
    rw [place, register_eq, call_eq, post, Call.path, Call.json, judge]
    cases received network RegisterResponse _ with
    | error e => rfl
    | ok r =>
      dsimp only
      cases r.validate <;> rfl
  | token key iv => rw [place, sessionToken, call_eq, post, Call.path, Call.json, judge]

end Place

/-! ### The post of a call -/

lemma trimSlashes_eq_iff {s base : String} :
    trimSlashes s = base ↔ (∃ n, s.toList = base.toList ++ List.replicate n '/') ∧
      base.toList.getLast? ≠ some '/' := by
  have trimmed : (trimSlashes s).toList = s.toList.rdropWhile (· = '/') := String.toList_ofList
  constructor
  · rintro rfl
    rw [trimmed]
    refine ⟨⟨(s.toList.rtakeWhile (· = '/')).length, ?_⟩, ?_⟩
    · have slashes : s.toList.rtakeWhile (· = '/') = List.replicate _ '/' :=
        List.eq_replicate_of_mem fun c mem => by simpa using List.mem_rtakeWhile_imp mem
      rw [← slashes, List.rdropWhile_append_rtakeWhile]
    · intro last
      have ne : s.toList.rdropWhile (· = '/') ≠ [] := fun nil => by simp [nil] at last
      have last : (s.toList.rdropWhile (· = '/')).getLast ne = '/' := by
        rw [List.getLast?_eq_some_getLast ne] at last
        exact Option.some.inj last
      exact List.rdropWhile_last_not _ _ ne (decide_eq_true last)
  · rintro ⟨⟨n, split⟩, last⟩
    have self : base.toList.rdropWhile (· = '/') = base.toList := by
      refine List.rdropWhile_eq_self_iff.2 fun ne slash => last ?_
      rw [List.getLast?_eq_some_getLast ne, of_decide_eq_true slash]
    have dropped : s.toList.rdropWhile (· = '/') = base.toList := by
      rw [split]
      clear split
      induction n with
      | zero => rw [List.replicate_zero, List.append_nil, self]
      | succ n ih =>
        rw [List.replicate_succ', ← List.append_assoc,
          List.rdropWhile_concat_pos _ _ _ (by simp), ih]
    exact String.toList_inj.1 (trimmed.trans dropped)

lemma eq_of_ofConfig {config : Config} {client : BackendClient}
    (made : ofConfig config = .ok client) :
    client = ⟨trimSlashes config.apiUrl, config.accessToken.map ("Bearer " ++ ·)⟩ := by
  unfold ofConfig at made
  split at made
  · cases made
  · dsimp only at made
    cases token : config.accessToken with
    | none =>
      rw [token] at made
      exact (Except.ok.inj made).symm
    | some token =>
      simp only [token, bearer?] at made
      split at made
      · next bearer =>
        split at bearer
        · cases bearer
          exact (Except.ok.inj made).symm
        · cases bearer
      · cases made

/-- The post of a call: it goes to the base URL, without the slashes at its end, and the path of the
call, with the bearer token. -/
def Posts (config : Config) (call : Call) (post : Post) : Prop :=
  ∃ base : String,
    (∃ n, config.apiUrl.toList = base.toList ++ List.replicate n '/') ∧
    base.toList.getLast? ≠ some '/' ∧
    post = ⟨base ++ call.path, config.accessToken.map ("Bearer " ++ ·), call.json⟩

lemma posts_post {config : Config} {client : BackendClient} (made : ofConfig config = .ok client)
    (call : Call) : Posts config call (client.post call) := by
  obtain rfl := eq_of_ofConfig made
  obtain ⟨slashes, last⟩ := trimSlashes_eq_iff.1 (rfl : trimSlashes config.apiUrl = _)
  exact ⟨_, slashes, last, rfl⟩

/-! ### Accounts of calls -/

/-- How the exchanges of a call and its result belong together. -/
structure Account.Sound (config : Config) (m : Manners) (a : Account) : Prop where
  /-- The first request is the post of the call; nothing is sent if the client can make no request
  of that, and then the call fails. Later requests repeat what is posted or post nothing, and carry
  the same credentials to the same host and port or none. -/
  opening : ∃ post, Posts config a.call post ∧
    ((∃ reason, m.request? post = .error reason ∧ a.exchanges = [] ∧
        a.result = .error (.http reason)) ∨
      ∃ first answer rest, a.exchanges = ⟨first, answer⟩ :: rest ∧
        first = {
          method := .post
          url := m.canonical post.url
          authorization := (m.user? post.url).or post.authorization
          contentType := post.json.map fun _ => "application/json"
          body := post.json.getD "" } ∧
        ∀ e ∈ rest,
          (e.request.body = "" ∧ e.request.method = .get ∨
            e.request.body = first.body ∧ e.request.method = .post) ∧
          (e.request.authorization = none ∨
            e.request.authorization = first.authorization ∧
              m.place e.request.url = m.place first.url))
  /-- An answer that redirects nowhere is the last: if it answers the post, one request is sent. So
  it is with every answer that has none of the statuses of a redirection. -/
  direct : ∀ e rest answer, a.exchanges = e :: rest → e.answer = some answer →
    m.next? e.request answer = none ∨ answer.status ∉ redirectStatuses → rest = []
  /-- Every further request is what the answer before it leads to, and there are ten at most. -/
  led : a.exchanges.IsChain (Exchange.LeadsTo m)
  few : a.exchanges.length ≤ 11
  /-- The call succeeds exactly if the last answer has the status 200 and can be used. -/
  ok_iff : ∀ reply, a.result = .ok reply ↔ ∃ e ∈ a.exchanges.getLast?, ∃ answer,
    e.answer = some answer ∧ answer.status = 200 ∧ a.call.Reads answer.toResponse reply
  /-- Any other status of an answer that redirects nowhere is the failure of the call. -/
  status : ∀ e ∈ a.exchanges.getLast?, ∀ answer, e.answer = some answer →
    m.next? e.request answer = none ∨ answer.status ∉ redirectStatuses → answer.status ≠ 200 →
    a.result = .error (.status answer.status)

section Sound

variable {config : Config} {m : Manners} (documented : m.Documented) {call : Call} {post : Post}
  (posts : Posts config call post)

include posts in
lemma Account.sound_of_unsent {reason : String} (refused : m.request? post = .error reason) :
    Account.Sound config m ⟨call, [], .error (.http reason)⟩ where
  opening := ⟨post, posts, .inl ⟨reason, refused, rfl, rfl⟩⟩
  direct _ _ _ some := by cases some
  led := .nil
  few := Nat.zero_le _
  ok_iff reply := by
    constructor
    · intro ok
      cases ok
    · rintro ⟨e, last, _⟩
      cases last
  status _ last := by cases last

include documented in
lemma direct_of_or {e : Exchange} {answer : Answer} (answered : e.answer = some answer)
    (stays : m.next? e.request answer = none ∨ answer.status ∉ redirectStatuses) :
    e.Direct m answer := by
  rcases stays with stays | other
  · exact ⟨answered, stays⟩
  · exact documented.direct answered other

include documented posts in
lemma Account.sound_of_sent {σ : Type} (network : Network σ) {request : Http.Request}
    {exchanges : List Exchange} {result : Except String Response}
    (sends : m.request? post = .ok request)
    (journey : m.Journey m.limit request exchanges result) :
    Account.Sound config m ⟨call, exchanges, judge network call result⟩ where
  opening := by
    obtain ⟨answer, rest, first⟩ := journey.exists_eq_cons
    obtain rfl := documented.posts sends
    refine ⟨post, posts, .inr ⟨_, answer, rest, first, rfl, fun e later => ?_⟩⟩
    have mem : e ∈ exchanges := by
      rw [first]
      exact List.mem_cons_of_mem _ later
    exact ⟨journey.body documented mem, journey.authorization documented mem⟩
  direct _ _ _ here answered stays :=
    journey.eq_singleton here (direct_of_or documented answered stays)
  led := journey.isChain
  few := journey.length_le.trans (Nat.succ_le_succ documented.few)
  ok_iff reply := by
    rw [judge_eq_ok_iff]
    constructor
    · rintro ⟨response, ok, status, reads⟩
      obtain ⟨e, last, answer, direct, rfl⟩ := journey.result_eq_ok_iff.1 ok
      exact ⟨e, last, answer, direct.1, status, reads⟩
    · rintro ⟨e, last, answer, answered, status, reads⟩
      have stays : answer.status ∉ redirectStatuses := by
        rw [status]
        decide
      have ok := journey.result_eq_ok_iff.2
        ⟨e, last, answer, documented.direct answered stays, rfl⟩
      exact ⟨answer.toResponse, ok, status, reads⟩
  status e last answer answered stays bad := by
    have direct := direct_of_or documented answered stays
    rw [journey.result_eq_ok_iff.2 ⟨e, last, answer, direct, rfl⟩]
    exact judge_of_status bad

include documented posts in
lemma Account.sound_of_handles {σ : Type} (network : Network σ) {exchanges : List Exchange}
    {result : Except String Response} (handles : m.Handles post exchanges result) :
    Account.Sound config m ⟨call, exchanges, judge network call result⟩ := by
  cases handles with
  | unsent reason refused =>
    rw [judge_error]
    exact Account.sound_of_unsent posts refused
  | sent request _ _ sends journey =>
    exact Account.sound_of_sent documented posts network sends journey

end Sound

/-- **The last answer settles a call.** Whatever the servers answer and whatever calls came before,
the exchanges of a call and its result belong together as `Account.Sound` says. A call whose post is
answered by anything but a redirection sends exactly one request, to its own URL, and succeeds
exactly if the status is 200 and the body can be used; where a server redirects, the client follows,
with what it posts if the server says so. -/
theorem last_answer_settles_call {config : Config} {client : BackendClient}
    (made : ofConfig config = .ok client) {m : Manners} (documented : m.Documented) {σ : Type}
    {network : Network σ} {log : σ → List Exchange} (follows : network.Follows m log) (s : σ)
    (calls : List Call) : ∀ a ∈ client.accounts network log s calls, a.Sound config m := by
  induction calls generalizing s with
  | nil => nofun
  | cons call rest ih =>
    intro a mem
    -- What the log has gained with the call is what was exchanged for it.
    obtain ⟨new, noted, handles⟩ := follows (client.post call) s
    rw [accounts, place_eq] at mem
    dsimp only at mem
    rw [noted, List.drop_left] at mem
    rcases List.mem_cons.1 mem with rfl | mem
    · exact Account.sound_of_handles documented (posts_post made call) network handles
    · exact ih _ _ mem

/-! ### Redirected calls -/

/-- What is posted where, the status of every answer, and the reply. -/
def Account.summary (a : Account) : List (String × String × Option UInt16) × Option Reply :=
  (a.exchanges.map fun e => (e.request.url, e.request.body, e.answer.map (·.status)),
    a.result.toOption)

/-- A registration that has moved is asked for there, and a backend that is not available is asked
once. -/
theorem moved_registration_is_settled :
    let config : Config := { apiUrl := "http://api.example//" }
    let client : BackendClient := ⟨"http://api.example", none⟩
    let answers : List Answer := [
      { status := 301, body := .ok "", location := "http://api.example/moved" },
      { status := 200
        body := .ok "\x7b\"domain\":\"abc.example\",\"email\":\"\",\"server\":\"relay1\"\x7d" },
      { status := 503, body := .ok "" }]
    let accounts :=
      client.accounts Manners.plain.scripted Prod.snd (answers, []) [.register, .token [1] [2]]
    ofConfig config = .ok client ∧ Manners.plain.Documented ∧
      Manners.plain.scripted.Follows Manners.plain Prod.snd ∧
      accounts.map Account.summary = [
        ([("http://api.example/register_instance", "", some 301),
          ("http://api.example/moved", "", some 200)],
          some (.registered ⟨"abc.example", "", "relay1"⟩)),
        ([("http://api.example/snitun_token",
          "\x7b\"aes_key\":\"01\",\"aes_iv\":\"02\"\x7d", some 503)], none)] ∧
      ∀ a ∈ accounts, a.Sound config Manners.plain := by
  have made : ofConfig { apiUrl := "http://api.example//" } = .ok ⟨"http://api.example", none⟩ :=
    rfl
  exact ⟨made, Manners.plain_documented, Manners.plain.scripted_follows, by decide +kernel,
    last_answer_settles_call made Manners.plain_documented Manners.plain.scripted_follows _ _⟩

/-- An answer with the status 307 is no failure: the key material goes to another host, and the call
succeeds with what that host says. -/
theorem redirected_call_hands_over_key :
    let client : BackendClient := ⟨"http://api.example", none⟩
    let answers : List Answer := [
      { status := 307, body := .ok "", location := "http://other.example/tok" },
      { status := 200
        body := .ok "\x7b\"token\":\"abc\",\"valid\":1700000000,\"throttling\":400\x7d" }]
    let key := "\x7b\"aes_key\":\"01\",\"aes_iv\":\"02\"\x7d"
    ofConfig { apiUrl := "http://api.example" } = .ok client ∧
      (client.accounts Manners.plain.scripted Prod.snd (answers, []) [.token [1] [2]]).map
        Account.summary = [
        ([("http://api.example/snitun_token", key, some 307),
          ("http://other.example/tok", key, some 200)],
          some (.granted ⟨"abc", 1700000000, 400⟩))] :=
  ⟨rfl, by decide +kernel⟩

end TunnelKeeper.BackendClient
