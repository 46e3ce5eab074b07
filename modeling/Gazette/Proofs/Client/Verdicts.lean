import Gazette.Proofs.Client.Replies
import Gazette.Proofs.Client.Reports
import Gazette.Proofs.Json.Parsed
import Gazette.Proofs.Json.RoundTrip
import Gazette.Proofs.Wire.Envelopes

/-! # What becomes of a reply

A reply is judged by its code, then by whether its body is JSON, whether that is an answer, which
errors the answer reports, and whether it has data. Each of these has a fault of its own, and a
reply whose body is whole comes to exactly one of them or to a result. -/
namespace Gazette
open Gazette.Text
open Json (IsEnvelope IsListing IsFound IsArticle Absent)

/-- The count of the bytes that are logged as received. -/
def Event.received? : Event → Option Nat
  | .received bytes => some bytes
  | _ => none

/-- What an operation comes to by the code and the body of the reply, where data of a form come to
a conclusion. -/
structure Verdicts {α β : Type} (form : Json → α → Prop) (Concludes : Json → Except Fault β → Prop)
    (code : Nat) (body : List UInt8) (o : Outcome (Except Fault β)) : Prop where
  refused (h : ¬ (200 ≤ code ∧ code ≤ 299)) :
    ∃ message, IsExcerpt code body message ∧ o.result = .error (.status code message)
  malformed (h : 200 ≤ code ∧ code ≤ 299) (f : Json.SyntaxFault)
    (hf : Json.parseBytes body = .error f) : o.result = .error (.malformed f)
  misfit (h : 200 ≤ code ∧ code ≤ 299) (v : Json) (hv : Json.parseBytes body = .ok v)
    (hform : ∀ e, ¬ IsEnvelope form v e)
    (herrors : ∀ es items, v = .obj es → ¬ Json.Reports es items) :
    ∃ m, o.result = .error (.form m)
  remote (h : 200 ≤ code ∧ code ≤ 299) (v : Json) (e : Envelope α)
    (hv : Json.parseBytes body = .ok v) (he : IsEnvelope form v e) :
    (∃ messages, o.result = .error (.remote messages)) ↔ e.errors ≠ []
  dataless (h : 200 ≤ code ∧ code ≤ 299) (v : Json) (e : Envelope α)
    (hv : Json.parseBytes body = .ok v) (he : IsEnvelope form v e) (hnone : e.errors = []) :
    (∃ reason, o.result = .error (.invalidResponse reason)) ↔ Absent v.data?
  concluded (h : 200 ≤ code ∧ code ≤ 299) (v : Json) (e : Envelope α)
    (hv : Json.parseBytes body = .ok v) (he : IsEnvelope form v e) (hnone : e.errors = [])
    (d : Json) (hd : v.data? = some d) (hnull : d ≠ .null) : Concludes d o.result
  received : o.events.filterMap Event.received? =
    if 200 ≤ code ∧ code ≤ 299 then [body.length] else []

namespace Envelope

theorem ofJson_cases (data : Wire.Schema) (v : Json) :
    (∃ e, ofJson data v = .ok e) ∨ ∃ m, ofJson data v = .error (.form m) := by
  rw [ofJson]
  cases (Wire.Schema.envelope data).read v with
  | ok e => exact .inl ⟨e, rfl⟩
  | error m => exact .inr ⟨m, rfl⟩

/-- Without errors it is the data that count. -/
theorem take_cases {α : Type} {e : Envelope α} (h : e.errors = []) :
    (e.data = none ∧ ∃ reason, e.take = .error (.invalidResponse reason)) ∨
      ∃ x, e.data = some x ∧ e.take = .ok x := by
  rw [take, h]
  cases e.data with
  | none => exact .inl ⟨rfl, _, rfl⟩
  | some x => exact .inr ⟨x, rfl, rfl⟩

end Envelope

section
variable {β : Type} (data : Wire.Schema) (conclude : data.Carrier → Except Fault β)
  {form : Json → data.Carrier → Prop} {Concludes : Json → Except Fault β → Prop}
  {code : Nat} {body : List UInt8} {o : Outcome (Except Fault β)}

/-- The verdicts of an operation that takes the data out of the answer and concludes from them,
with no fault but that there is no such article. -/
theorem verdicts_of_result (hany : data ≠ .any)
    (hform : ∀ w : Json, w.WellFormed → ∀ x, data.read w = .ok x ↔ form w x)
    (hconcludes : ∀ d x, form d x → Concludes d (conclude x))
    (hfault : ∀ x f, conclude x = .error f → ∃ path, f = .noSuchArticle path)
    (hresult : o.result = (do
      let v ← (Transport.receive code body true).1
      let e ← Envelope.ofJson data v
      e.take) >>= conclude)
    (hevents : o.events.filterMap Event.received? =
      (Transport.receive code body true).2.filterMap Event.received?) :
    Verdicts form Concludes code (Transport.content code body) o := by
  have hnull (x : data.Carrier) : ¬ form .null x := fun hx =>
    Wire.Schema.read_null hany x ((hform .null trivial x).2 hx)
  have hjson (h : 200 ≤ code ∧ code ≤ 299) {v : Json}
      (hv : Json.parseBytes (Transport.content code body) = .ok v) :
      o.result = Envelope.ofJson data v >>= Envelope.take >>= conclude := by
    rw [hresult, Transport.receive_success h, hv]
    rfl
  have hanswer (h : 200 ≤ code ∧ code ≤ 299) {v : Json} {e : Envelope data.Carrier}
      (hv : Json.parseBytes (Transport.content code body) = .ok v) (he : IsEnvelope form v e) :
      o.result = e.take >>= conclude := by
    rw [hjson h hv, (Wire.ofJson_iff hany hform (Json.wellFormed_of_parseBytes hv)).2 he]
    rfl
  constructor
  case refused =>
    intro h
    refine ⟨_, Transport.isExcerpt_excerpt code (Transport.content code body), ?_⟩
    rw [hresult, Transport.receive_refused h]
    rfl
  case malformed =>
    intro h f hf
    rw [hresult, Transport.receive_success h, hf]
    rfl
  case misfit =>
    intro h v hv hmisfit _
    rw [hjson h hv]
    obtain ⟨e, he⟩ | ⟨m, hm⟩ := Envelope.ofJson_cases data v
    · have hform := (Wire.ofJson_iff hany hform (Json.wellFormed_of_parseBytes hv)).1 he
      exact absurd hform (hmisfit e)
    · exact ⟨m, by rw [hm]; rfl⟩
  case remote =>
    intro h v e hv he
    rw [hanswer h hv he]
    by_cases hnone : e.errors = []
    · refine iff_of_false ?_ (not_not_intro hnone)
      rintro ⟨messages, hremote⟩
      obtain ⟨-, reason, htake⟩ | ⟨x, -, htake⟩ := Envelope.take_cases hnone
      · rw [htake] at hremote
        cases hremote
      · rw [htake] at hremote
        obtain ⟨path, hpath⟩ := hfault x _ hremote
        cases hpath
    · rw [Envelope.take_of_errors hnone]
      exact iff_of_true ⟨_, rfl⟩ hnone
  case dataless =>
    intro h v e hv he hnone
    rw [hanswer h hv he, ← he.data.eq_none_iff hnull]
    obtain ⟨hdata, reason, htake⟩ | ⟨x, hdata, htake⟩ := Envelope.take_cases hnone
    · rw [htake]
      exact iff_of_true ⟨reason, rfl⟩ hdata
    · rw [htake, hdata]
      refine iff_of_false ?_ nofun
      rintro ⟨reason, hinvalid⟩
      obtain ⟨path, hpath⟩ := hfault x _ hinvalid
      cases hpath
  case concluded =>
    intro h v e hv he hnone d hd hne
    rw [hanswer h hv he]
    obtain ⟨hdata, -⟩ | ⟨x, hdata, htake⟩ := Envelope.take_cases hnone
    · have habsent := (he.data.eq_none_iff hnull).1 hdata
      rw [hd] at habsent
      simp [Absent, hne] at habsent
    · obtain ⟨w, hw, hx⟩ := (hdata ▸ he.data).of_some
      obtain rfl : d = w := Option.some.inj (hd.symm.trans hw)
      rw [htake]
      exact hconcludes d x hx
  case received =>
    rw [hevents]
    split
    · rename_i h
      rw [Transport.receive_success h]
      rfl
    · rename_i h
      rw [Transport.receive_refused h]
      rfl

end

variable {t : Transport} {network : HttpRequest → HttpReply} {q : HttpRequest} {code : Nat}
  {body : List UInt8}

theorem fetch_verdicts {filter : Filter} {limit : UInt32}
    (hq : t.request? (Client.listingRequest filter limit) = some q)
    (hreply : network q = .some code body true) :
    Verdicts IsListing (fun d result => ∃ l, IsListing d l ∧ result = .ok l.documents) code
      (Transport.content code body) (Client.fetch (t.exchange network) filter limit) := by
  have hexchange := Transport.exchange_some hq hreply
  refine verdicts_of_result .listing (fun l => .ok l.documents) nofun
    (fun w hw l => Wire.read_listing_iff hw) (fun d l hl => ⟨l, hl, rfl⟩) nofun ?result ?events
  case result =>
    rw [Client.fetch, Client.ask, hexchange]
    have hmap (answer : Except Fault Listing) :
        answer.map Listing.documents = answer >>= fun l => .ok l.documents := by
      cases answer <;> rfl
    exact hmap _
  case events =>
    rw [Client.fetch, Client.ask, hexchange]
    simp only [List.filterMap_cons, List.filterMap_append, Event.received?]
    split <;> simp [Event.received?]

/-- What a request for the article at a path comes to by the data of the answer. -/
def ConcludesArticle (path : String) (d : Json) (result : Except Fault ArticleReply) : Prop :=
  (result = .error (.noSuchArticle path) ↔ Absent d.article?) ∧
    (¬ Absent d.article? → ∃ v a, d.article? = some v ∧ IsArticle v a ∧
      result = .ok { article := a })

theorem concludesArticle_of_found {path : String} {d : Json} {found : Found} (h : IsFound d found) :
    ConcludesArticle path d (match found.article with
      | some article => .ok { article }
      | none => .error (.noSuchArticle path)) := by
  have hnull (a : Article) : ¬ IsArticle .null a := by
    rintro ⟨⟨⟩⟩
  have habsent := h.article.eq_none_iff hnull
  cases ha : found.article with
  | none => exact ⟨iff_of_true rfl (habsent.1 ha), fun hsome => absurd (habsent.1 ha) hsome⟩
  | some a =>
    have hpresent : ¬ Absent d.article? := fun habs => by simpa [ha] using habsent.2 habs
    obtain ⟨v, hv, hform⟩ := (ha ▸ h.article).of_some
    exact ⟨iff_of_false nofun hpresent, fun _ => ⟨v, a, hv, hform, rfl⟩⟩

theorem fetchArticle_verdicts {c : Client} {path : String}
    (hq : t.request? (c.articleRequest path) = some q)
    (hreply : network q = .some code body true) :
    Verdicts IsFound (ConcludesArticle path) code
      (Transport.content code body) (c.fetchArticle (t.exchange network) path) := by
  have hexchange := Transport.exchange_some hq hreply
  refine verdicts_of_result .found (fun found => match found.article with
      | some article => .ok { article }
      | none => .error (.noSuchArticle path)) nofun
    (fun w hw l => Wire.read_found_iff hw) (fun d found => concludesArticle_of_found) ?fault ?result
      ?events
  case fault =>
    intro found f hf
    cases h : found.article with
    | none =>
      rw [h] at hf
      exact ⟨path, (Except.error.inj hf).symm⟩
    | some a =>
      rw [h] at hf
      cases hf
  case result =>
    rw [Client.fetchArticle, Client.ask, hexchange]
    rfl
  case events =>
    rw [Client.fetchArticle, Client.ask, hexchange]
    rfl

/-- For both operations, every code and every body. -/
theorem reply_verdicts (t : Transport) (network : HttpRequest → HttpReply) (code : Nat)
    (body : List UInt8) :
    (∀ (filter : Filter) (limit : UInt32) (q : HttpRequest),
      t.request? (Client.listingRequest filter limit) = some q →
        network q = .some code body true →
          Verdicts IsListing (fun d result => ∃ l, IsListing d l ∧ result = .ok l.documents) code
            (Transport.content code body) (Client.fetch (t.exchange network) filter limit)) ∧
      ∀ (c : Client) (path : String) (q : HttpRequest),
        t.request? (c.articleRequest path) = some q → network q = .some code body true →
          Verdicts IsFound (ConcludesArticle path) code (Transport.content code body)
            (c.fetchArticle (t.exchange network) path) :=
  ⟨fun _ _ _ => fetch_verdicts, fun _ _ _ => fetchArticle_verdicts⟩

/-- A reply without success whose body breaks off within a character, and an answer that tells by
its place that there is no article. -/
theorem reply_verdicts_samples :
    let c : Client := { config := { sessionId := "s" } }
    let t : Transport := { apiUrl := "http://a/", headers := [] }
    let replying (code : Nat) (body : List UInt8) : HttpRequest → HttpReply :=
      fun _ => .some code body true
    let refusal : List UInt8 := [0x6e, 0x6f, 0xe2, 0x82]
    let answer : List UInt8 := Utf8.encode (Json.arr [.arr [.null]]).print.toList
    (∃ message, IsExcerpt 500 refusal message ∧
      (Client.fetch (t.exchange (replying 500 refusal)) {} 7).result =
        .error (.status 500 message)) ∧
      (c.fetchArticle (t.exchange (replying 200 answer)) "/a").result =
        .error (.noSuchArticle "/a") ∧
      (c.fetchArticle (t.exchange (replying 200 answer)) "/a").events.filterMap Event.received? =
        [answer.length] := by
  intro c t replying refusal answer
  have hq (r : Request) : ∃ q, t.request? r = some q := by
    have ha : Address.ofUrl t.naming t.apiUrl =
        .ok { scheme := "http", host := .name "a", path := "/" } := by decide +kernel
    exact ⟨_, Transport.request?_eq_some_iff.2 ⟨_, ha, rfl⟩⟩
  obtain ⟨q, hlisting⟩ := hq (Client.listingRequest {} 7)
  obtain ⟨q', harticle⟩ := hq (c.articleRequest "/a")
  have hrefused := (reply_verdicts t (replying 500 refusal) 500 refusal).1 {} 7 q hlisting rfl
  have hanswer := (reply_verdicts t (replying 200 answer) 200 answer).2 c "/a" q' harticle rfl
  have hparse : Json.parseBytes answer = .ok (.arr [.arr [.null]]) := by
    have hwhole : (Json.arr [.arr [.null]]).Arranges (.arr [.arr [.null]]) :=
      Json.WellFormed.arranges (by simp [Json.WellFormed, Json.WellFormedItems])
    have hexact : (Json.arr [.arr [.null]]).Exact := by
      simp [Json.Exact, Json.Throughout, Json.ThroughoutItems, Json.HasText]
    have htext : (Json.arr [.arr [.null]]).print.toList = (Json.arr [.arr [.null]]).write [] := by
      simp [Json.print]
    rw [Json.parseBytes_encode, htext]
    exact (Json.parseWithin_write hwhole hexact Json.levels).1 (by decide)
  have hform : IsEnvelope IsFound (.arr [.arr [.null]]) { data := some {} } :=
    .told (.array (by decide)) (by simp) (.value (.some (.told (.array (by decide)) .null))) .absent
  have hconcluded := hanswer.concluded (by decide) _ _ hparse hform rfl (.arr [.null]) rfl (by simp)
  exact ⟨hrefused.refused (by decide), hconcluded.1.2 (.inr rfl), hanswer.received⟩

end Gazette
