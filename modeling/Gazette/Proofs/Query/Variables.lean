import Mathlib.Data.List.Induction
import Gazette.Client.Basic
import Gazette.Proofs.Json.Parsed
import Gazette.Proofs.Wire.Written

/-! # Requests read back

What is sent for a request says what the request is about, whatever stands in its texts: the query
as it was given, and every variable with the value of the last call for it. Calls for different
variables may change places. -/
namespace Gazette.Request
open Gazette.Text

/-- The request that some calls build, one after the other. -/
def build (query : String) (calls : List (String × Json)) : Request :=
  calls.foldl (fun r call => r.var call.1 call.2) { query }

/-- The value of the last call for a variable. -/
def last? (calls : List (String × Json)) (name : String) : Option Json :=
  (calls.filter (·.1 = name)).getLast?.map Prod.snd

/-- The variables after some calls: those that were set, each once and in the order of the names,
with the value of its last call. -/
structure Latest (calls vars : List (String × Json)) : Prop where
  ascending : Json.Ascending vars
  names : ∀ name, name ∈ vars.map Prod.fst ↔ name ∈ calls.map Prod.fst
  values : ∀ name, vars.lookup name = last? calls name

/-- The same calls in another order, but in the same one among those for a variable. -/
def Rearranged (calls calls' : List (String × Json)) : Prop :=
  ∀ name, calls'.filter (·.1 = name) = calls.filter (·.1 = name)

/-- A query and its variables as a value. -/
def said (query : String) (vars : List (String × Json)) : Json :=
  .obj [("query", .str query), ("variables", .obj vars)]

variable {query name : String} {calls calls' vars vars' : List (String × Json)}

theorem build_concat (query : String) (calls : List (String × Json)) (call : String × Json) :
    build query (calls ++ [call]) = (build query calls).var call.1 call.2 := by
  rw [build, List.foldl_concat]
  rfl

theorem last?_concat (calls : List (String × Json)) (call : String × Json) (name : String) :
    last? (calls ++ [call]) name = if name = call.1 then some call.2 else last? calls name := by
  unfold last?
  rw [List.filter_append, List.filter_singleton]
  by_cases h : name = call.1 <;> simp [h, eq_comm]

/-- What a request without variables has, and a call keeps, a request has after some calls. -/
theorem build_keeps {P : Request → Prop} (start : P { query })
    (step : ∀ r, P r → ∀ call ∈ calls, P (r.var call.1 call.2)) : P (build query calls) := by
  induction calls using List.reverseRecOn with
  | nil => exact start
  | append_singleton calls call ih =>
    rw [build_concat]
    apply step
    · exact ih fun r hr c hc => step r hr c (List.mem_append_left _ hc)
    · exact List.mem_append_right _ (List.mem_singleton_self _)

theorem query_build : (build query calls).query = query :=
  build_keeps (P := fun r => r.query = query) rfl fun _ hr _ _ => hr

theorem ascending_build : Json.Ascending (build query calls).vars :=
  build_keeps (P := fun r => Json.Ascending r.vars) List.Pairwise.nil
    fun _ hr _ _ => Json.ascending_insert hr

theorem mem_calls_of_mem_vars {e : String × Json} (h : e ∈ (build query calls).vars) :
    e ∈ calls := by
  revert e
  apply build_keeps (P := fun r => ∀ e ∈ r.vars, e ∈ calls)
  · nofun
  · intro r hr call hcall e he
    rcases Json.mem_of_mem_insert he with rfl | he
    · exact hcall
    · exact hr e he

theorem lookup_build : (build query calls).vars.lookup name = last? calls name := by
  induction calls using List.reverseRecOn with
  | nil => rfl
  | append_singleton calls call ih => rw [build_concat, lookup_var, last?_concat, ih]

theorem mem_keys_build :
    name ∈ (build query calls).vars.map Prod.fst ↔ name ∈ calls.map Prod.fst := by
  induction calls using List.reverseRecOn with
  | nil => rfl
  | append_singleton calls call ih =>
    have hstep : (build query (calls ++ [call])).vars =
        Json.insert call.1 call.2 (build query calls).vars := by
      rw [build_concat]
      rfl
    rw [hstep, Json.mem_keys_insert, ih]
    simp [or_comm]

theorem latest_build : Latest calls (build query calls).vars where
  ascending := ascending_build
  names _ := mem_keys_build
  values _ := lookup_build

theorem mem_of_last? {v : Json} (h : last? calls name = some v) : ∃ call ∈ calls, call.2 = v := by
  obtain ⟨call, hcall, hv⟩ := Option.map_eq_some_iff.1 h
  exact ⟨call, List.mem_of_mem_filter (List.mem_of_getLast? hcall), hv⟩

namespace Latest

theorem mem_iff (h : Latest calls vars) {v : Json} :
    (name, v) ∈ vars ↔ last? calls name = some v := by
  rw [← h.values, Json.lookup_iff h.ascending.nodup_keys]

/-- The last calls leave no choice. -/
theorem eq_of_last? (h : Latest calls vars) (h' : Latest calls' vars')
    (hlast : ∀ name, last? calls' name = last? calls name) : vars' = vars := by
  apply h'.ascending.ext h.ascending
  intro e
  rw [h'.mem_iff, h.mem_iff, hlast]

end Latest

theorem Rearranged.build_eq (h : Rearranged calls calls') (query : String) :
    build query calls' = build query calls := by
  have hlast (name : String) : last? calls' name = last? calls name := by
    rw [last?, h name, last?]
  have hvars : (build query calls').vars = (build query calls).vars :=
    latest_build.eq_of_last? latest_build hlast
  have hquery : (build query calls').query = (build query calls).query :=
    query_build.trans query_build.symm
  calc build query calls'
      = ⟨(build query calls').query, (build query calls').vars⟩ := rfl
    _ = ⟨(build query calls).query, (build query calls).vars⟩ := by rw [hquery, hvars]
    _ = build query calls := rfl

/-- Two calls for different variables change places. -/
theorem rearranged_swap (calls : List (String × Json)) {a b : String} (h : a ≠ b) (v w : Json) :
    Rearranged (calls ++ [(a, v), (b, w)]) (calls ++ [(b, w), (a, v)]) := by
  intro name
  rw [List.filter_append, List.filter_append]
  congr 1
  by_cases ha : a = name
  · have hb : b ≠ name := fun hb => h (ha.trans hb.symm)
    simp [ha, hb]
  · simp [ha, List.filter_cons]

theorem var_comm {a b : String} (h : a ≠ b) (v w : Json) :
    ((build query calls).var a v).var b w = ((build query calls).var b w).var a v := by
  have hboth (c d : String × Json) : build query (calls ++ [c, d]) =
      ((build query calls).var c.1 c.2).var d.1 d.2 := by
    rw [build, List.foldl_append]
    rfl
  have hswap := (rearranged_swap calls h v w).build_eq query
  rw [hboth, hboth] at hswap
  exact hswap.symm

/-! ## The text of a request -/

theorem depthEntries_le_iff {es : List (String × Json)} {d : Nat} :
    Json.depthEntries es ≤ d ↔ ∀ e ∈ es, e.2.depth ≤ d := by
  induction es with
  | nil => simp [Json.depthEntries]
  | cons e es ih => rw [Json.depthEntries, max_le_iff, ih, List.forall_mem_cons]

theorem depth_said (query : String) (vars : List (String × Json)) :
    (said query vars).depth = Json.depthEntries vars + 2 := by
  simp [said, Json.depth, Json.depthEntries]

theorem parse_body (r : Request) :
    Json.parse r.body = Json.parseWithin Json.levels (r.toJson.write []) := by
  simp [Json.parse, body, Json.print]

theorem toJson_build : (build query calls).toJson = said query (build query calls).vars := by
  rw [toJson, query_build, said]

theorem proper_said (h : ∀ call ∈ calls, call.2.Throughout Json.Proper) (query : String) :
    (said query (build query calls).vars).Throughout Json.Proper := by
  have hvars : (Json.obj (build query calls).vars).Throughout Json.Proper :=
    Json.proper_obj (List.pairwise_map.2 ascending_build)
      fun e he => h e (mem_calls_of_mem_vars he)
  exact Json.proper_obj (by simp only [List.map_cons, List.map_nil]; decide) (by simp [hvars])

/-- Two brackets stand around the values of the variables. -/
theorem parse_build (h : ∀ call ∈ calls, call.2.Throughout Json.Proper) (query : String) :
    ((∀ name v, last? calls name = some v → v.depth ≤ 125) →
      Json.parse (build query calls).body = .ok (said query (build query calls).vars)) ∧
    ∀ name v, last? calls name = some v → 125 < v.depth →
      ∃ f, Json.parse (build query calls).body = .error f ∧ f.cause = .tooDeep := by
  have hproper := proper_said h query
  have hlatest : Latest calls (build query calls).vars := latest_build
  obtain ⟨hreached, hexceeded⟩ :=
    Json.parseWithin_write hproper.wellFormed.arranges hproper.exact Json.levels
  rw [← toJson_build, ← parse_body, toJson_build, depth_said] at hreached hexceeded
  constructor
  · intro hdepth
    have hvars : Json.depthEntries (build query calls).vars ≤ 125 :=
      depthEntries_le_iff.2 fun e he => hdepth e.1 e.2 (hlatest.mem_iff.1 he)
    exact hreached (by simp only [Json.levels]; omega)
  · intro name v hlast hv
    have hvars : ¬ Json.depthEntries (build query calls).vars ≤ 125 := by
      intro hle
      have hdeep := depthEntries_le_iff.1 hle (name, v) (hlatest.mem_iff.2 hlast)
      exact absurd hv (by simpa using hdeep)
    exact hexceeded (by simp only [Json.levels]; omega)

theorem body_of_request? {t : Transport} {r : Request} {q : HttpRequest}
    (h : t.request? r = some q) : q.body = r.body := by
  obtain ⟨a, -, rfl⟩ := Transport.request?_eq_some_iff.1 h
  rfl

/-- The request of an article is built by one call. -/
theorem parse_articleRequest (c : Client) (path : String) :
    Json.parse (c.articleRequest path).body = .ok (said c.query.text [("path", .str path)]) := by
  have hcall : ∀ call ∈ [("path", Json.str path)], call.2.Throughout Json.Proper := by simp
  have hlast (name : String) (v : Json) (h : last? [("path", Json.str path)] name = some v) :
      v.depth ≤ 125 := by
    obtain ⟨call, hmem, rfl⟩ := mem_of_last? h
    rw [List.mem_singleton.1 hmem]
    exact Nat.zero_le _
  exact (parse_build hcall c.query.text).1 hlast

end Gazette.Request
