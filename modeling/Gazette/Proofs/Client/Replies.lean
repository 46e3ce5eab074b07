import Gazette.Client.Transport
import Gazette.Proofs.Text.Utf8

/-! # Replies over HTTP

What a reply comes to by its code, and what an exchange is by the reply to its request. -/
namespace Gazette
open Gazette.Text

/-- What a reply without success says: its first characters, or what its code is called. -/
inductive IsExcerpt (code : Nat) (body : List UInt8) : String → Prop
  | start {message : String} (h : body ≠ []) (hm : message.toList =
      (Utf8.lenient body).take (min 200 (Utf8.lenient body).length)) : IsExcerpt code body message
  | phrase {message : String} (h : body = []) (hm : (code, message) ∈ Status.phrases) :
      IsExcerpt code body message
  | unregistered (h : body = []) (hcode : code ∉ Status.phrases.map Prod.fst) :
      IsExcerpt code body ""

theorem isExcerpt_phrase (code : Nat) : IsExcerpt code [] (Status.phrase code) := by
  rw [Status.phrase]
  cases h : Status.phrases.lookup code with
  | none =>
    refine .unregistered rfl ?_
    rw [List.lookup_eq_none_iff] at h
    rintro hcode
    obtain ⟨e, he, rfl⟩ := List.mem_map.1 hcode
    simpa using h e he
  | some phrase =>
    obtain ⟨before, after, hphrases, -⟩ := List.lookup_eq_some_iff.1 h
    exact .phrase rfl (by simp [hphrases])

namespace Transport

theorem isExcerpt_excerpt (code : Nat) (body : List UInt8) :
    IsExcerpt code body (excerpt code body true) := by
  by_cases h : body = []
  · subst h
    exact isExcerpt_phrase code
  · have htake : (Utf8.lenient body).take excerptLength ≠ [] := by
      simp [excerptLength, Utf8.lenient_eq_nil_iff, h]
    refine .start h ?_
    rw [excerpt, if_pos rfl]
    split
    · contradiction
    · simp [excerptLength, List.take_eq_take_min]

/-- The body of a reply. Some codes have none. -/
def content (code : Nat) (body : List UInt8) : List UInt8 :=
  if Status.isBodiless code then [] else body

variable {code : Nat} {body : List UInt8}

theorem receive_success (h : 200 ≤ code ∧ code ≤ 299) : receive code body true =
    ((Json.parseBytes (content code body)).mapError .malformed,
      [.received (content code body).length]) := by
  have hsuccess : Status.isSuccess code = true := by simpa [Status.isSuccess] using h
  rw [receive, hsuccess]
  rfl

theorem receive_refused (h : ¬ (200 ≤ code ∧ code ≤ 299)) : receive code body true =
    (.error (.status code (excerpt code (content code body) true)), []) := by
  have hrefused : Status.isSuccess code = false := by
    rw [← Bool.not_eq_true]
    simpa [Status.isSuccess] using h
  rw [receive, hrefused]
  rfl

theorem exchange_some {t : Transport} {network : HttpRequest → HttpReply} {r : Request}
    {q : HttpRequest} (hq : t.request? r = some q) (hreply : network q = .some code body true) :
    t.exchange network r = ((receive code body true).1,
      .posting t.apiUrl r.vars.length :: (receive code body true).2) := by
  obtain ⟨a, ha, rfl⟩ := request?_eq_some_iff.1 hq
  rw [exchange, ha]
  simp only [hreply]

/-- A whole body that comes with the code of success is read as a value. -/
theorem exchange_ok {t : Transport} {network : HttpRequest → HttpReply} {r : Request}
    {q : HttpRequest} (hq : t.request? r = some q) (hreply : network q = .some 200 body true) :
    t.exchange network r = ((Json.parseBytes body).mapError .malformed,
      [.posting t.apiUrl r.vars.length, .received body.length]) := by
  rw [exchange_some hq hreply, receive_success (by decide)]
  rfl

end Transport

end Gazette
