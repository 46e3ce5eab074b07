import Gazette.Proofs.Client.Answers
import Gazette.Proofs.Wire.Entries

/-! # What becomes of reported errors

An answer is read with its data before its errors are looked at. The errors are passed on only if
the data are absent or have their form. Data that have not are the fault instead, and nothing of the
errors remains. -/
namespace Gazette
namespace Json

/-- A report of an error, with a text as its message and an array as its path, where it has any. -/
def IsReport : Json → Prop
  | .obj es => Ascending es ∧
      (Absent (es.lookup "message") ∨ ∃ s, es.lookup "message" = some (.str s)) ∧
      (Absent (es.lookup "path") ∨ ∃ vs, es.lookup "path" = some (.arr vs))
  | _ => False

def reportText (v : Json) : String :=
  match v.get? "message" with
  | some (.str s) => s
  | _ => ""

def reportPath (v : Json) : List Json :=
  match v.get? "path" with
  | some (.arr vs) => vs
  | _ => []

theorem reportText_absent {es : List (String × Json)} (h : Absent (es.lookup "message")) :
    (obj es).reportText = "" := by
  rcases h with h | h <;> rw [reportText, get?, h]

theorem reportPath_absent {es : List (String × Json)} (h : Absent (es.lookup "path")) :
    (obj es).reportPath = [] := by
  rcases h with h | h <;> rw [reportPath, get?, h]

/-- An answer with errors, each of them reported as it should be. -/
structure Reports (es : List (String × Json)) (items : List Json) : Prop where
  ascending : Ascending es
  errors : es.lookup "errors" = some (.arr items)
  nonempty : items ≠ []
  wellFormed : ∀ v ∈ items, v.IsReport

end Json

/-- The fault of an answer with errors, by what stands in the place of its data. -/
def Fault.ofReports (data : Wire.Schema) (sent : Option Json) (items : List Json) : Fault :=
  let remote := .remote ("; ".intercalate (items.map Json.reportText))
  match sent with
  | none | some .null => remote
  | some v =>
    match data.read v with
    | .ok _ => remote
    | .error m => .form m

namespace Fault

variable {data : Wire.Schema} {items : List Json} {v : Json}

theorem ofReports_absent {sent : Option Json} (h : Json.Absent sent) :
    ofReports data sent items = .remote ("; ".intercalate (items.map Json.reportText)) := by
  rcases h with rfl | rfl <;> rfl

theorem ofReports_read {x : data.Carrier} (hv : v ≠ .null) (hx : data.read v = .ok x) :
    ofReports data (some v) items = .remote ("; ".intercalate (items.map Json.reportText)) := by
  rw [ofReports, hx]
  exact hv

theorem ofReports_misfit {m : Wire.Mismatch} (hv : v ≠ .null) (hx : data.read v = .error m) :
    ofReports data (some v) items = .form m := by
  rw [ofReports, hx]
  exact hv

end Fault

def ErrorEntry.ofReport (v : Json) : ErrorEntry := { message := v.reportText, path := v.reportPath }

namespace Wire

theorem read_path (vs : List Json) : (Schema.list .any).read (.arr vs) = .ok vs := by
  have hitems : readItems .any (vs.map id) = .ok (vs.map id) :=
    readItems_map fun v _ => by rw [id, Schema.read]
  rwa [List.map_id] at hitems

theorem read_report {v : Json} (h : v.IsReport) :
    Schema.errorEntry.read v = .ok (.ofReport v) := by
  cases v with
  | obj es =>
    obtain ⟨hes, hmessage, hpath⟩ := h
    have hkeys : Record.errorEntry.keys.Pairwise (· < ·) := by decide
    have hfirst : readEntries .errorEntry .errorEntry (Json.under ["message", "path"] es) {} =
        readEntries .errorEntry .errorEntry (Json.under ["path"] es)
          { message := (Json.obj es).reportText } := by
      rcases hmessage with hm | ⟨s, hm⟩
      · rw [readEntries_absent rfl rfl hm, Json.reportText_absent hm]
      · rw [readEntries_present rfl hm rfl rfl, Json.reportText, Json.get?, hm]
    have hsecond : readEntries .errorEntry .errorEntry (Json.under ["path"] es)
        { message := (Json.obj es).reportText } = .ok (.ofReport (.obj es)) := by
      rcases hpath with hp | ⟨vs, hp⟩
      · rw [readEntries_absent rfl rfl hp, ErrorEntry.ofReport, Json.reportPath_absent hp]
        rfl
      · rw [readEntries_present rfl hp rfl (read_path vs), ErrorEntry.ofReport, Json.reportPath,
          Json.get?, hp]
        rfl
    rw [Schema.read_obj_under rfl hkeys (by decide) hes]
    exact hfirst.trans hsecond
  | null | bool _ | int _ | float _ | str _ | arr _ => exact h.elim

theorem read_reports {vs : List Json} (h : ∀ v ∈ vs, v.IsReport) :
    (Schema.list .errorEntry).read (.arr vs) = .ok (vs.map ErrorEntry.ofReport) := by
  have hitems : readItems .errorEntry (vs.map id) = .ok (vs.map ErrorEntry.ofReport) :=
    readItems_map fun v hv => read_report (h v hv)
  rwa [List.map_id] at hitems

end Wire

namespace Envelope

variable {data : Wire.Schema} {es : List (String × Json)} {items : List Json}

theorem take_of_errors {α : Type} {e : Envelope α} (h : e.errors ≠ []) :
    e.take = .error (.remote ("; ".intercalate (e.errors.map ErrorEntry.message))) := by
  cases he : e.errors with
  | nil => exact absurd he h
  | cons _ _ => simp [take, he]

theorem take_reports (h : items ≠ []) (x : Option data.Carrier) :
    take { data := x, errors := items.map .ofReport } =
      .error (.remote ("; ".intercalate (items.map Json.reportText))) := by
  rw [take_of_errors (by simpa using h), List.map_map]
  rfl

theorem read_reports (h : Json.Reports es items) (x : Option data.Carrier) :
    Wire.readEntries (.envelope data) (Wire.Record.envelope data) (Json.under ["errors"] es)
        { data := x } =
      .ok { data := x, errors := items.map .ofReport } := by
  rw [Wire.readEntries_present rfl h.errors rfl (Wire.read_reports h.wellFormed)]
  rfl

theorem ofJson_obj (h : Json.Ascending es) : ofJson data (.obj es) =
    (Wire.readEntries (.envelope data) (Wire.Record.envelope data)
      (Json.under ["data", "errors"] es) {}).mapError .form := by
  have hkeys : (Wire.Record.envelope data).keys.Pairwise (· < ·) := by
    change ["data", "errors"].Pairwise (· < ·)
    decide
  have hfree : ∀ f ∈ (Wire.Record.envelope data).fields, f.absence ≠ .never := by
    simp [Wire.Record.envelope]
  rw [ofJson, Wire.Schema.read_obj_under (s := .envelope data) rfl hkeys hfree h]
  rfl

/-- With errors reported an answer is a fault, whatever its data are. -/
theorem take_of_reports (h : Json.Reports es items) :
    (ofJson data (.obj es) >>= take) = .error (.ofReports data (es.lookup "data") items) := by
  rw [ofJson_obj h.ascending]
  by_cases habsent : Json.Absent (es.lookup "data")
  · rw [Fault.ofReports_absent habsent, Wire.readEntries_absent rfl rfl habsent, read_reports h]
    exact take_reports h.nonempty none
  obtain ⟨v, hv⟩ : ∃ v, es.lookup "data" = some v :=
    Option.ne_none_iff_exists'.1 fun hnone => habsent (.inl hnone)
  have hnull : v ≠ .null := fun hn => habsent (.inr (hn ▸ hv))
  have hskip (f : Wire.Field (Envelope data.Carrier)) : f.skips v = false :=
    Wire.Field.skips_of_ne_null hnull
  -- The data stand before the errors, so a misfit among them is met first.
  cases hx : data.read v with
  | ok x =>
    rw [hv, Fault.ofReports_read hnull hx, Wire.readEntries_present rfl hv (hskip _) hx,
      read_reports h]
    exact take_reports h.nonempty (some x)
  | error m =>
    rw [hv, Fault.ofReports_misfit hnull hx, Wire.readEntries_misfit rfl hv (hskip _) hx]
    rfl

end Envelope

namespace Client

variable {exchange : Exchange} {logged : List Event} {es : List (String × Json)} {items : List Json}

theorem ask_reports {data : Wire.Schema} {r : Request} (hes : Json.Reports es items)
    (h : exchange r = (.ok (.obj es), logged)) :
    ask data exchange r = (.error (.ofReports data (es.lookup "data") items), logged) := by
  rw [ask_answered h, Envelope.take_of_reports hes]

theorem fetch_reports {filter : Filter} {limit : UInt32} (hes : Json.Reports es items)
    (h : exchange (listingRequest filter limit) = (.ok (.obj es), logged)) :
    (fetch exchange filter limit).result =
      .error (.ofReports .listing (es.lookup "data") items) :=
  fetch_of_fault (ask_reports hes h)

theorem fetchArticle_reports {c : Client} {path : String} (hes : Json.Reports es items)
    (h : exchange (c.articleRequest path) = (.ok (.obj es), logged)) :
    (c.fetchArticle exchange path).result =
      .error (.ofReports .found (es.lookup "data") items) :=
  fetchArticle_of_fault (ask_reports hes h)

end Client

/-- Both operations fail when errors are reported, and with their messages unless the data have not
the form that is asked for. -/
theorem fault_of_reported_errors {es : List (String × Json)} {items : List Json}
    (hes : Json.Reports es items) :
    (∀ (exchange : Exchange) (filter : Filter) (limit : UInt32) (logged : List Event),
      exchange (Client.listingRequest filter limit) = (.ok (.obj es), logged) →
        (Client.fetch exchange filter limit).result =
          .error (.ofReports .listing (es.lookup "data") items)) ∧
      ∀ (c : Client) (exchange : Exchange) (path : String) (logged : List Event),
        exchange (c.articleRequest path) = (.ok (.obj es), logged) →
          (c.fetchArticle exchange path).result =
            .error (.ofReports .found (es.lookup "data") items) :=
  ⟨fun _ _ _ _ h => Client.fetch_reports hes h, fun _ _ _ _ h => Client.fetchArticle_reports hes h⟩

/-- Two errors, the second without a message. -/
def Json.twoReports : List Json :=
  [.obj [("message", .str "api/incomplete"), ("path", .arr [.str "documents", .int 0])], .obj []]

/-- An answer that holds a value where a place of a listing or a node of a text belongs. -/
def Json.incomplete (place : Json) : List (String × Json) :=
  [("data", .obj [
      ("article", .obj [("content", .obj [("children", .arr [place])])]),
      ("documents", .obj [("nodes", .arr [place])])]),
    ("errors", .arr twoReports)]

theorem Json.reports_incomplete (place : Json) : Reports (incomplete place) twoReports where
  ascending := List.pairwise_pair.2 (by decide : "data" < "errors")
  errors := rfl
  nonempty := by simp [twoReports]
  wellFormed := by
    rw [twoReports, List.forall_mem_cons, List.forall_mem_singleton]
    have hkeys : "message" < "path" := by decide
    refine ⟨⟨List.pairwise_pair.2 hkeys, .inr ⟨_, rfl⟩, .inr ⟨_, rfl⟩⟩, ?_⟩
    exact ⟨.nil, .inl (.inl rfl), .inl (.inl rfl)⟩

theorem fault_of_reported_errors_incomplete :
    let exchange : Exchange := fun _ => (.ok (.obj (Json.incomplete (.obj []))), [])
    let c : Client := { config := { sessionId := "s" } }
    Json.Reports (Json.incomplete (.obj [])) Json.twoReports ∧
      (Client.fetch exchange {} 7).result = .error (.remote "api/incomplete; ") ∧
      (c.fetchArticle exchange "/a").result = .error (.remote "api/incomplete; ") := by
  intro exchange c
  have hes := Json.reports_incomplete (.obj [])
  obtain ⟨hfetch, harticle⟩ := fault_of_reported_errors hes
  exact ⟨hes, hfetch exchange {} 7 [] rfl, harticle c exchange "/a" [] rfl⟩

/-- A `null` among the data is enough for the reported errors to get lost. -/
theorem errors_lost_to_null :
    let exchange : Exchange := fun _ => (.ok (.obj (Json.incomplete .null)), [])
    let c : Client := { config := { sessionId := "s" } }
    Json.Reports (Json.incomplete .null) Json.twoReports ∧
      (Client.fetch exchange {} 7).result =
        .error (.form (.wrongType .null "struct SearchNode")) ∧
      (c.fetchArticle exchange "/a").result =
        .error (.form (.wrongType .null "struct Node")) := by
  intro exchange c
  have hes := Json.reports_incomplete .null
  have hfetch : exchange (Client.listingRequest {} 7) = (.ok (.obj (Json.incomplete .null)), []) :=
    rfl
  have harticle : exchange (c.articleRequest "/a") = (.ok (.obj (Json.incomplete .null)), []) := rfl
  exact ⟨hes, Client.fetch_reports hes hfetch, Client.fetchArticle_reports hes harticle⟩

end Gazette
