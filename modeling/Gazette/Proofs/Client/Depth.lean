import Gazette.Proofs.Client.Articles
import Gazette.Proofs.Client.Replies
import Gazette.Proofs.Json.Parsed
import Gazette.Proofs.Wire.Written

/-! # How deep an article may be nested

An article comes through the wire whole, whatever its texts and numbers, if no more than 61 of its
nodes stand below one another. If more do, the client refuses the answer. -/
namespace Gazette
open Gazette.Text

/-- An answer in any order of its entries brings the article back, in its canonical form, exactly if
its tree is no higher than 61 nodes. An article that is higher does not come through in part. -/
theorem fetchArticle_nested {c : Client} {t : Transport} {network : HttpRequest → HttpReply}
    {path : String} {q : HttpRequest} {r : ArticleReply} {w : Json}
    (hq : t.request? (c.articleRequest path) = some q) (hw : w.Arranges (.obj [("data", r.toJson)]))
    (hreply : network q = .some 200 (Utf8.encode w.print.toList) true) :
    (Node.heightAll r.article.content.children ≤ 61 →
      (c.fetchArticle (t.exchange network) path).result = .ok r.canonical) ∧
    (62 ≤ Node.heightAll r.article.content.children →
      (∃ f, (c.fetchArticle (t.exchange network) path).result = .error (.malformed f) ∧
        f.cause = .tooDeep) ∧
      (c.articleHtml (t.exchange network) path).result = placeholder) := by
  have hexchange := Transport.exchange_ok hq hreply
  have htext : w.print.toList = w.write [] := by simp [Json.print]
  rw [htext, Json.parseBytes_encode] at hexchange
  obtain ⟨hreached, hexceeded⟩ := Json.parseWithin_write hw r.proper_answer.exact Json.levels
  have hdepth := r.depth_answer
  have hinfo := r.article.info.depth_toJson
  constructor
  · intro hheight
    rw [hreached (by simp only [Json.levels]; omega)] at hexchange
    have hask := Client.ask_data (by simp [ArticleReply.toJson]) (Found.read_sent r) hexchange
    exact congrArg Outcome.result (Client.fetchArticle_of_data hask)
  · intro hheight
    obtain ⟨f, hf, hcause⟩ := hexceeded (by simp only [Json.levels]; omega)
    rw [hf] at hexchange
    have hfault := Client.fetchArticle_of_fault (Client.ask_fault hexchange)
    exact ⟨⟨f, hfault, hcause⟩, Client.articleHtml_of_fault hfault⟩

/-- As many nodes below one another as one likes, with texts that have to be escaped. -/
def Node.nested : Nat → List Node
  | 0 => []
  | n + 1 => [{ kind := .paragraph, children := nested n, depth := -1, value := "\"\\\n\x00😀" }]

theorem Node.heightAll_nested (n : Nat) : heightAll (nested n) = n := by
  induction n with
  | zero => rfl
  | succ n ih => simp [nested, heightAll, height, ih]

/-- An article with that many nodes below one another. -/
def ArticleReply.nested (n : Nat) : ArticleReply where
  article := { content := .ofNodes (Node.nested n) }

/-- The highest article that comes through, and one a node higher. -/
theorem fetchArticle_nested_limits :
    let c : Client := { config := { sessionId := "s" } }
    let t : Transport := { apiUrl := "http://a/", headers := [] }
    let answering (n : Nat) : HttpRequest → HttpReply := fun _ => .some 200
      (Utf8.encode (Json.obj [("data", (ArticleReply.nested n).toJson)]).print.toList) true
    (c.fetchArticle (t.exchange (answering 61)) "/a").result =
        .ok (ArticleReply.nested 61).canonical ∧
      (∃ f, (c.fetchArticle (t.exchange (answering 62)) "/a").result = .error (.malformed f) ∧
        f.cause = .tooDeep) ∧
      (c.articleHtml (t.exchange (answering 62)) "/a").result = placeholder := by
  intro c t answering
  let r : Request := c.articleRequest "/a"
  let a : Address := { scheme := "http", host := .name "a", path := "/" }
  have ha : Address.ofUrl t.naming t.apiUrl = .ok a := by decide +kernel
  have hq : t.request? r = some (t.request a r) := Transport.request?_eq_some_iff.2 ⟨a, ha, rfl⟩
  have hw (n : Nat) := (ArticleReply.nested n).proper_answer.wellFormed.arranges
  have hsent (n : Nat) : answering n (t.request a r) = .some 200
      (Utf8.encode (Json.obj [("data", (ArticleReply.nested n).toJson)]).print.toList) true := rfl
  have hheight (n : Nat) : Node.heightAll (ArticleReply.nested n).article.content.children = n :=
    Node.heightAll_nested n
  have hlow := (fetchArticle_nested hq (hw 61) (hsent 61)).1 (hheight 61).le
  have hhigh := (fetchArticle_nested hq (hw 62) (hsent 62)).2 (hheight 62).ge
  exact ⟨hlow, hhigh⟩

end Gazette
