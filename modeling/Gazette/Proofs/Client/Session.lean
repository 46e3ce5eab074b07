import Mathlib.Data.List.Forall2
import Gazette.Client.Basic

/-! # Where the session goes

Whoever sees everything a client gives back, describes, logs and sends, and not the cookie among
the headers, cannot tell two sessions apart: two runs of the same operations against the same
replies differ in the value of that header and in nothing else. -/
namespace Gazette

/-- The same request with another cookie. -/
def HttpRequest.withCookie (value : String) (q : HttpRequest) : HttpRequest :=
  { q with headers := q.headers.map fun h => if h.1 = "cookie" then (h.1, value) else h }

/-- What is done with a configuration, and with the client once there is one. -/
inductive Operation where
  | transport
  /-- Makes a client, with a query of one's own or the standard one. -/
  | connect (query? : Option DocumentQuery)
  | describeConfig
  | describeClient
  | fetch (filter : Filter) (limit : UInt32)
  | fetchArticle (path : String)
  | articleHtml (path : String)

/-- What an operation gives back. -/
inductive Answer where
  /-- There is no client. -/
  | nothing
  | transport (result : Except Fault String)
  | connected (result : Except Fault Unit)
  | text (description : String)
  | documents (result : Except Fault (List Document))
  | article (result : Except Fault ArticleReply)
  | html (page : String)

/-- What is seen of an operation. -/
structure Turn where
  answer : Answer
  events : List Event := []
  sent : List HttpRequest := []

/-- A configuration, the client made from it, the rules by which its url is read, and the replies
that are still to come. -/
structure Session where
  config : Config
  naming : Address.Naming
  connected : Option (Client × Transport) := none
  replies : List HttpReply

namespace Session

/-- An operation of the client. Each request that is sent takes the next reply. -/
def perform {α : Type} (s : Session) (answer : α → Answer)
    (operation : Client → Exchange → Outcome α) : Session × Turn :=
  match s.connected with
  | none => (s, { answer := .nothing })
  | some (client, t) =>
    let o := operation client (t.exchange fun _ => s.replies.head?.getD .none)
    let sent := o.requests.filterMap t.request?
    ({ s with replies := s.replies.drop sent.length }, ⟨answer o.result, o.events, sent⟩)

def step (s : Session) : Operation → Session × Turn
  | .transport =>
    match Transport.ofConfig s.config s.naming with
    | .ok t => (s, { answer := .transport (.ok t.apiUrl), events := [.transportReady t.apiUrl] })
    | .error f => (s, { answer := .transport (.error f) })
  | .connect query? =>
    match Client.connect s.config s.naming with
    | .ok (client, t, events) =>
      ({ s with connected := some ({ client with query := query?.getD client.query }, t) },
        { answer := .connected (.ok ()), events })
    | .error f => (s, { answer := .connected (.error f) })
  | .describeConfig => (s, { answer := .text s.config.describe })
  | .describeClient =>
    (s, { answer := (s.connected.map fun c => Answer.text c.1.describe).getD .nothing })
  | .fetch filter limit => s.perform .documents fun _ exchange => Client.fetch exchange filter limit
  | .fetchArticle path =>
    s.perform .article fun client exchange => client.fetchArticle exchange path
  | .articleHtml path => s.perform .html fun client exchange => client.articleHtml exchange path

def run (s : Session) : List Operation → List Turn
  | [] => []
  | op :: ops => (s.step op).2 :: (s.step op).1.run ops

end Session

/-- The session is not empty, and it can stand in a header. -/
structure Config.Usable (c : Config) : Prop where
  nonempty : c.sessionId ≠ ""
  sendable : Config.isHeaderValue c.sessionId = true

/-- What is seen of an operation in the one session and in the other. -/
structure Twins (c c' : Config) (turn turn' : Turn) : Prop where
  answer : turn'.answer = turn.answer
  events : turn'.events = turn.events
  sent : turn'.sent = turn.sent.map (HttpRequest.withCookie c'.cookie)
  cookie : ∀ q ∈ turn.sent, q.values "cookie" = ["connect.sid=" ++ c.sessionId]
  cookie' : ∀ q ∈ turn'.sent, q.values "cookie" = ["connect.sid=" ++ c'.sessionId]

/-- Nothing is sent. -/
theorem twins_of_unsent {c c' : Config} (answer : Answer) (events : List Event) :
    Twins c c' { answer, events } { answer, events } where
  answer := rfl
  events := rfl
  sent := rfl
  cookie := by simp
  cookie' := by simp

namespace Config

/-- The transport of a configuration whose cookie can be sent. -/
def transport (c : Config) (naming : Address.Naming) : Transport where
  apiUrl := c.apiUrl
  headers := [("content-type", "application/json"), ("accept", "application/json"),
    ("cookie", c.cookie)]
  naming

variable {c c' : Config} {naming : Address.Naming}

theorem transport_eq (h : c.Usable) :
    Transport.ofConfig c naming = .ok (c.transport naming) := by
  have hcookie : isHeaderValue c.cookie = true := by
    have hname : isHeaderValue "connect.sid=" = true := by decide
    rw [isHeaderValue] at hname
    rw [isHeaderValue, cookie, String.toList_append, List.all_append, hname]
    exact h.sendable
  rw [Transport.ofConfig, if_pos hcookie]
  rfl

theorem describe_eq (h : c.Usable) (h' : c'.Usable) (hurl : c'.apiUrl = c.apiUrl) :
    c'.describe = c.describe := by
  rw [describe, describe, if_neg h.nonempty, if_neg h'.nonempty, hurl]

theorem values_request (c : Config) (naming : Address.Naming) (a : Address) (r : Request) :
    ((c.transport naming).request a r).values "cookie" = [c.cookie] := by
  unfold HttpRequest.values Transport.request
  cases a.login.authorization? <;> rfl

theorem request_eq (c c' : Config) (naming : Address.Naming) (a : Address) (r : Request) :
    (c'.transport naming).request a r =
      ((c.transport naming).request a r).withCookie c'.cookie := by
  cases hlogin : a.login.authorization? <;>
    simp [Transport.request, HttpRequest.withCookie, transport, hlogin]

/-- With a given reply an exchange depends on nothing but the address. -/
theorem exchange_eq (hurl : c'.apiUrl = c.apiUrl) (reply : HttpReply) :
    (c'.transport naming).exchange (fun _ => reply) =
      (c.transport naming).exchange fun _ => reply := by
  have haddress : (c'.transport naming).apiUrl = (c.transport naming).apiUrl := hurl
  have hnaming : (c'.transport naming).naming = (c.transport naming).naming := rfl
  unfold Transport.exchange
  rw [haddress, hnaming]

theorem request?_eq (hurl : c'.apiUrl = c.apiUrl) (r : Request) :
    (c'.transport naming).request? r =
      ((c.transport naming).request? r).map (.withCookie c'.cookie) := by
  have haddress : (c'.transport naming).apiUrl = (c.transport naming).apiUrl := hurl
  have hnaming : (c'.transport naming).naming = (c.transport naming).naming := rfl
  rw [Transport.request?, Transport.request?, haddress, hnaming]
  cases Address.ofUrl (c.transport naming).naming (c.transport naming).apiUrl with
  | error flaw => rfl
  | ok a => exact congrArg some (request_eq c c' naming a r)

theorem sent_eq (hurl : c'.apiUrl = c.apiUrl) (rs : List Request) :
    rs.filterMap (c'.transport naming).request? =
      (rs.filterMap (c.transport naming).request?).map (.withCookie c'.cookie) := by
  rw [List.map_filterMap]
  apply List.filterMap_congr
  intro r _
  exact request?_eq hurl r

theorem cookie_sent {rs : List Request} {q : HttpRequest}
    (h : q ∈ rs.filterMap (c.transport naming).request?) :
    q.values "cookie" = ["connect.sid=" ++ c.sessionId] := by
  obtain ⟨r, -, hr⟩ := List.mem_filterMap.1 h
  obtain ⟨a, -, rfl⟩ := Transport.request?_eq_some_iff.1 hr
  exact values_request c naming a r

end Config

namespace Session

/-- The session of a configuration with a client, if it has one, that asks for articles by some
query. -/
def of (naming : Address.Naming) (c : Config) (query? : Option DocumentQuery)
    (replies : List HttpReply) : Session where
  config := c
  naming
  connected := query?.map fun query => ({ config := c, query }, c.transport naming)
  replies

/-- Two sessions that differ in their configurations. -/
def Paired (c c' : Config) (s s' : Session) : Prop :=
  ∃ naming query? replies, s = of naming c query? replies ∧ s' = of naming c' query? replies

variable {naming : Address.Naming} {c c' : Config} {s s' : Session}

/-- What an operation does and shows, by its outcome. -/
def performed {α : Type} (naming : Address.Naming) (c : Config) (query : DocumentQuery)
    (replies : List HttpReply) (answer : α → Answer) (o : Outcome α) : Session × Turn :=
  let sent := o.requests.filterMap (c.transport naming).request?
  (of naming c query (replies.drop sent.length), ⟨answer o.result, o.events, sent⟩)

theorem performed_twins {α : Type} (hurl : c'.apiUrl = c.apiUrl) (query : DocumentQuery)
    (replies : List HttpReply) (answer : α → Answer) (o : Outcome α) :
    Paired c c' (performed naming c query replies answer o).1
        (performed naming c' query replies answer o).1 ∧
      Twins c c' (performed naming c query replies answer o).2
        (performed naming c' query replies answer o).2 := by
  have hsent : o.requests.filterMap (c'.transport naming).request? =
      (o.requests.filterMap (c.transport naming).request?).map (.withCookie c'.cookie) :=
    Config.sent_eq hurl o.requests
  simp only [performed]
  constructor
  · refine ⟨naming, some query, _, rfl, ?_⟩
    rw [hsent, List.length_map]
  · exact ⟨rfl, rfl, hsent, fun _ => Config.cookie_sent, fun _ => Config.cookie_sent⟩

/-- An operation that does not look at the configuration shows the same in both sessions. -/
theorem perform_twins {α : Type} (hurl : c'.apiUrl = c.apiUrl) (h : Paired c c' s s')
    (answer : α → Answer) {operation : Client → Exchange → Outcome α}
    (hblind : ∀ query exchange,
      operation { config := c', query } exchange = operation { config := c, query } exchange) :
    Paired c c' (s.perform answer operation).1 (s'.perform answer operation).1 ∧
      Twins c c' (s.perform answer operation).2 (s'.perform answer operation).2 := by
  obtain ⟨naming, query?, replies, rfl, rfl⟩ := h
  cases query? with
  | none => exact ⟨⟨naming, none, replies, rfl, rfl⟩, twins_of_unsent .nothing []⟩
  | some query =>
    let reply := replies.head?.getD .none
    let o := operation { config := c, query } ((c.transport naming).exchange fun _ => reply)
    have ho : operation { config := c', query }
        ((c'.transport naming).exchange fun _ => reply) = o := by
      rw [Config.exchange_eq hurl, hblind]
    have hone : (of naming c query replies).perform answer operation =
        performed naming c query replies answer o := rfl
    have hother : (of naming c' query replies).perform answer operation =
        performed naming c' query replies answer o := ho ▸ rfl
    rw [hone, hother]
    exact performed_twins hurl query replies answer o

variable (c c') in
theorem fetchArticle_blind (query : DocumentQuery) (exchange : Exchange) (path : String) :
    Client.fetchArticle { config := c', query } exchange path =
      Client.fetchArticle { config := c, query } exchange path := rfl

theorem articleHtml_blind (query : DocumentQuery) (exchange : Exchange) (path : String) :
    Client.articleHtml { config := c', query } exchange path =
      Client.articleHtml { config := c, query } exchange path := by
  rw [Client.articleHtml, Client.articleHtml, fetchArticle_blind c c']

/-- Every operation leaves sessions that differ in their configurations, and shows twins. -/
theorem step_twins (hc : c.Usable) (hc' : c'.Usable) (hurl : c'.apiUrl = c.apiUrl)
    (h : Paired c c' s s') (op : Operation) :
    Paired c c' (s.step op).1 (s'.step op).1 ∧ Twins c c' (s.step op).2 (s'.step op).2 := by
  cases op with
  | transport =>
    obtain ⟨naming, query?, replies, rfl, rfl⟩ := h
    have hstep {c : Config} (hc : c.Usable) : (of naming c query? replies).step .transport =
        (of naming c query? replies, ⟨.transport (.ok c.apiUrl), [.transportReady c.apiUrl], []⟩) := by
      simp only [step, of, Config.transport_eq hc]
      rfl
    rw [hstep hc, hstep hc', hurl]
    exact ⟨⟨naming, query?, replies, rfl, rfl⟩, twins_of_unsent ..⟩
  | connect own? =>
    obtain ⟨naming, query?, replies, rfl, rfl⟩ := h
    have hstep {c : Config} (hc : c.Usable) :
        (of naming c query? replies).step (.connect own?) = (of naming c (some (own?.getD .standard)) replies,
          ⟨.connected (.ok ()), [.transportReady c.apiUrl, .clientReady c.apiUrl], []⟩) := by
      simp only [step, of, Client.connect, Config.transport_eq hc]
      rfl
    rw [hstep hc, hstep hc', hurl]
    exact ⟨⟨naming, some (own?.getD .standard), replies, rfl, rfl⟩, twins_of_unsent ..⟩
  | describeConfig =>
    obtain ⟨naming, query?, replies, rfl, rfl⟩ := h
    have hdescribe := Config.describe_eq hc hc' hurl
    refine ⟨⟨naming, query?, replies, rfl, rfl⟩, ?_⟩
    simp only [step, of, hdescribe]
    exact twins_of_unsent ..
  | describeClient =>
    obtain ⟨naming, query?, replies, rfl, rfl⟩ := h
    have hdescribe := Config.describe_eq hc hc' hurl
    refine ⟨⟨naming, query?, replies, rfl, rfl⟩, ?_⟩
    cases query? with
    | none => exact twins_of_unsent ..
    | some query =>
      simp only [step, of, Option.map_some, Client.describe, hdescribe]
      exact twins_of_unsent ..
  | fetch filter limit =>
    have hstep (s : Session) : s.step (.fetch filter limit) =
        s.perform .documents fun _ exchange => Client.fetch exchange filter limit := rfl
    rw [hstep, hstep]
    exact perform_twins hurl h .documents fun _ _ => rfl
  | fetchArticle path =>
    have hstep (s : Session) : s.step (.fetchArticle path) =
        s.perform .article fun client exchange => client.fetchArticle exchange path := rfl
    rw [hstep, hstep]
    exact perform_twins hurl h .article fun query exchange =>
      fetchArticle_blind c c' query exchange path
  | articleHtml path =>
    have hstep (s : Session) : s.step (.articleHtml path) =
        s.perform .html fun client exchange => client.articleHtml exchange path := rfl
    rw [hstep, hstep]
    exact perform_twins hurl h .html fun query exchange => articleHtml_blind query exchange path

theorem run_twins (hc : c.Usable) (hc' : c'.Usable) (hurl : c'.apiUrl = c.apiUrl)
    (h : Paired c c' s s') (ops : List Operation) :
    List.Forall₂ (Twins c c') (s.run ops) (s'.run ops) := by
  induction ops generalizing s s' with
  | nil => exact .nil
  | cons op ops ih =>
    obtain ⟨hpaired, htwins⟩ := step_twins hc hc' hurl h op
    exact .cons htwins (ih hpaired)

end Session

end Gazette
