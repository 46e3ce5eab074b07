import Gazette.Proofs.Address.Visible
import Gazette.Proofs.Client.Session
import Gazette.Proofs.Text.Utf8

/-! # The head of a request

A session can stand in a header, or it is refused before there is anything to send it with. The head
of a request has its own lines and no others, whatever the session and the url: one for each header
of the client, and one for who asks if the url says so. -/
namespace Gazette
open Gazette.Text

/-- The bytes of a text. -/
def octets (s : String) : List UInt8 := Utf8.encode s.toList

/-- The bytes of a header value: tabs, what ASCII has from the blank on but for the delete control,
and everything outside ASCII. -/
def IsFieldByte (b : UInt8) : Prop := b.toNat = 9 ∨ 0x20 ≤ b.toNat ∧ b.toNat ≠ 0x7f

/-- A control that is no tab. -/
def IsControl (c : Char) : Prop :=
  c.toNat ≤ 0x08 ∨ 0x0a ≤ c.toNat ∧ c.toNat ≤ 0x1f ∨ c.toNat = 0x7f

instance : DecidablePred IsControl := fun c =>
  inferInstanceAs (Decidable (c.toNat ≤ 0x08 ∨ 0x0a ≤ c.toNat ∧ c.toNat ≤ 0x1f ∨ c.toNat = 0x7f))

theorem octets_append (s t : String) : octets (s ++ t) = octets s ++ octets t := by
  rw [octets, String.toList_append, Utf8.encode, List.flatMap_append]
  rfl

/-- A character is one byte of ASCII, or some bytes that are all outside of it. -/
theorem utf8EncodeChar_cases (c : Char) :
    (c.toNat < 0x80 ∧ String.utf8EncodeChar c = [UInt8.ofNat c.toNat]) ∨
      (0x80 ≤ c.toNat ∧ ∀ b ∈ String.utf8EncodeChar c, 0x80 ≤ b.toNat) := by
  have hhigh : ∀ n, 0x80 ≤ n → n < 256 → 0x80 ≤ (UInt8.ofNat n).toNat := by
    intro n hn hlt
    rwa [Utf8.toNat_byte hlt]
  have htoNat : c.val.toNat = c.toNat := rfl
  unfold String.utf8EncodeChar
  rw [htoNat]
  simp only
  split_ifs
  · exact .inl ⟨by omega, rfl⟩
  all_goals
    refine .inr ⟨by omega, ?_⟩
    simp only [List.forall_mem_cons]
  · exact ⟨hhigh _ (by omega) (by omega), hhigh _ (by omega) (by omega), List.forall_mem_nil _⟩
  · exact ⟨hhigh _ (by omega) (by omega), hhigh _ (by omega) (by omega),
      hhigh _ (by omega) (by omega), List.forall_mem_nil _⟩
  · exact ⟨hhigh _ (by omega) (by omega), hhigh _ (by omega) (by omega),
      hhigh _ (by omega) (by omega), hhigh _ (by omega) (by omega), List.forall_mem_nil _⟩

/-- Exactly the controls have bytes that no header value has. -/
theorem not_isControl_iff (c : Char) :
    ¬ IsControl c ↔ ∀ b ∈ String.utf8EncodeChar c, IsFieldByte b := by
  rcases utf8EncodeChar_cases c with ⟨hc, hbytes⟩ | ⟨hc, hbytes⟩
  · have hbyte : (UInt8.ofNat c.toNat).toNat = c.toNat := Utf8.toNat_byte (by omega)
    rw [hbytes, List.forall_mem_singleton, IsFieldByte, hbyte, IsControl]
    omega
  · constructor
    · exact fun _ b hb => .inr ⟨by have := hbytes b hb; omega, by have := hbytes b hb; omega⟩
    · intro _ hcontrol
      unfold IsControl at hcontrol
      omega

theorem isHeaderValue_iff {s : String} :
    Config.isHeaderValue s = true ↔ ∀ c ∈ s.toList, ¬ IsControl c := by
  rw [Config.isHeaderValue, List.all_eq_true]
  refine forall₂_congr fun c _ => ?_
  have htab : c = '\t' ↔ c.toNat = 9 := Char.toNat_inj.symm
  simp only [Bool.or_eq_true, Bool.and_eq_true, decide_eq_true_eq, htab, IsControl]
  omega

theorem isHeaderValue_iff_octets {s : String} :
    Config.isHeaderValue s = true ↔ ∀ b ∈ octets s, IsFieldByte b := by
  simp only [isHeaderValue_iff, octets, Utf8.encode, List.forall_mem_flatMap, not_isControl_iff]

theorem isHeaderValue_append {s t : String} : Config.isHeaderValue (s ++ t) = true ↔
    Config.isHeaderValue s = true ∧ Config.isHeaderValue t = true := by
  simp only [isHeaderValue_iff, String.toList_append, List.forall_mem_append]

theorem isHeaderValue_of_visible {s : String} (h : Address.Visible s.toList) :
    Config.isHeaderValue s = true := by
  rw [isHeaderValue_iff]
  intro c hc hcontrol
  obtain ⟨hblank, hdelete⟩ := h c hc
  unfold IsControl at hcontrol
  omega

theorem isHeaderValue_authorization {l : Address.Login} {told : String}
    (h : l.authorization? = some told) : Config.isHeaderValue told = true := by
  obtain ⟨⟨name, password⟩, -, rfl⟩ := Option.map_eq_some_iff.1 h
  have hscheme : Config.isHeaderValue "Basic " = true := by decide
  refine isHeaderValue_append.2 ⟨hscheme, isHeaderValue_of_visible ?_⟩
  rw [String.toList_ofList]
  exact Address.visible_base64 _

/-! ## Lines -/

/-- What stands between the line breaks. -/
def cutLines : List UInt8 → List (List UInt8)
  | [] => [[]]
  | [b] => [[b]]
  | b :: b' :: bs =>
    if b = 13 ∧ b' = 10 then [] :: cutLines bs
    else match cutLines (b' :: bs) with
      | [] => [[b]]
      | l :: ls => (b :: l) :: ls

/-- The request line and the headers. -/
def HttpRequest.lines (q : HttpRequest) : List String :=
  q.line :: q.headers.map fun h => h.1 ++ ": " ++ h.2

theorem cutLines_cons {b : UInt8} {bs line : List UInt8} {lines : List (List UInt8)} (h : b ≠ 13)
    (hbs : cutLines bs = line :: lines) : cutLines (b :: bs) = (b :: line) :: lines := by
  cases bs with
  | nil =>
    cases hbs
    rfl
  | cons b' bs => rw [cutLines, if_neg fun hbreak => h hbreak.1, hbs]

theorem cutLines_append {bs rest : List UInt8} (h : 13 ∉ bs) :
    cutLines (bs ++ 13 :: 10 :: rest) = bs :: cutLines rest := by
  induction bs with
  | nil => exact if_pos ⟨rfl, rfl⟩
  | cons b bs ih =>
    obtain ⟨hb, hbs⟩ := List.ne_and_not_mem_of_not_mem_cons h
    exact cutLines_cons hb.symm (ih hbs)

theorem not_mem_octets {s : String} (h : Config.isHeaderValue s = true) : 13 ∉ octets s := by
  intro hmem
  have hbyte := isHeaderValue_iff_octets.1 h 13 hmem
  revert hbyte
  unfold IsFieldByte
  decide

theorem cutLines_join {ls : List String} (h : ∀ l ∈ ls, Config.isHeaderValue l = true) :
    cutLines (octets (String.join (ls.map (· ++ "\r\n")))) = ls.map octets ++ [[]] := by
  induction ls with
  | nil => rfl
  | cons l ls ih =>
    rw [List.forall_mem_cons] at h
    have hbreak : octets "\r\n" = [13, 10] := by decide
    rw [List.map_cons, String.join_cons, octets_append, octets_append, hbreak, List.append_assoc]
    exact (cutLines_append (not_mem_octets h.1)).trans (congrArg _ (ih h.2))

theorem cutLines_head {q : HttpRequest} (h : ∀ l ∈ q.lines, Config.isHeaderValue l = true) :
    cutLines (octets q.head) = q.lines.map octets ++ [[]] :=
  cutLines_join h

/-- The request has the session in one cookie, and its head has six lines, a seventh for who asks if
the url says so, and no more. -/
structure HttpRequest.Fixed (c : Config) (naming : Address.Naming) (q : HttpRequest) : Prop where
  cookie : ∃ value, q.values "cookie" = [value] ∧
    octets value = octets "connect.sid=" ++ octets c.sessionId
  lines : ∃ a : Address, Address.ofUrl naming c.apiUrl = .ok a ∧
    cutLines (octets q.head) =
      octets ("POST " ++ a.target ++ " HTTP/1.1") ::
        (a.login.authorization?.map fun told => octets ("authorization: " ++ told)).toList ++ [
      octets "content-type: application/json",
      octets "accept: application/json",
      octets "cookie: connect.sid=" ++ octets c.sessionId,
      octets ("host: " ++ a.authority),
      octets ("content-length: " ++ toString q.body.utf8ByteSize),
      []]
  plain : ∀ line ∈ cutLines (octets q.head), ∀ b ∈ line, IsFieldByte b

/-- There is a control among the characters of the session. -/
def Config.HasControl (c : Config) : Prop := ∃ ch ∈ c.sessionId.toList, IsControl ch

/-- What a session that cannot stand in a header comes to. -/
def Fault.badSession : Fault := .config "session id is not a valid header value"

namespace Config

variable {c : Config} {naming : Address.Naming}

theorem isHeaderValue_cookie : isHeaderValue c.cookie = true ↔ ¬ c.HasControl := by
  have hname : isHeaderValue "connect.sid=" = true := by decide
  rw [cookie, isHeaderValue_append, and_iff_right hname, isHeaderValue_iff, HasControl]
  simp only [not_exists, not_and]

theorem hasControl_iff_octets : c.HasControl ↔ ∃ b ∈ octets c.cookie, ¬ IsFieldByte b := by
  rw [← not_iff_not, ← isHeaderValue_cookie, isHeaderValue_iff_octets]
  simp only [not_exists, not_and, not_not]

theorem ofConfig_of_control (h : c.HasControl) :
    Transport.ofConfig c naming = .error .badSession :=
  if_neg fun hcookie => isHeaderValue_cookie.1 hcookie h

theorem ofConfig_of_not_control (h : ¬ c.HasControl) :
    Transport.ofConfig c naming = .ok (c.transport naming) :=
  if_pos (isHeaderValue_cookie.2 h)

theorem connect_of_control (h : c.HasControl) :
    Client.connect c naming = .error .badSession := by
  rw [Client.connect, ofConfig_of_control h]
  rfl

theorem connect_of_not_control (h : ¬ c.HasControl) : Client.connect c naming =
    .ok ({ config := c }, c.transport naming, [.transportReady c.apiUrl, .clientReady c.apiUrl]) := by
  rw [Client.connect, ofConfig_of_not_control h]
  rfl

theorem lines_request (c : Config) (naming : Address.Naming) (a : Address) (r : Request) :
    ((c.transport naming).request a r).lines =
      ("POST " ++ a.target ++ " HTTP/1.1") ::
        (a.login.authorization?.map fun told => "authorization: " ++ told).toList ++ [
      "content-type: application/json",
      "accept: application/json",
      "cookie: " ++ c.cookie,
      "host: " ++ a.authority,
      "content-length: " ++ toString r.body.utf8ByteSize] := by
  unfold HttpRequest.lines Transport.request
  cases a.login.authorization? <;> rfl

theorem isHeaderValue_line (h : ¬ c.HasControl) {a : Address}
    (ha : Address.ofUrl naming c.apiUrl = .ok a) (r : Request) :
    ∀ l ∈ ((c.transport naming).request a r).lines, isHeaderValue l = true := by
  obtain ⟨hauthority, htarget⟩ := Address.visible_ofUrl ha
  have hlength : Address.Visible (toString r.body.utf8ByteSize).toList := by
    simpa using Address.visible_toDigits (by decide) (by decide) r.body.utf8ByteSize
  have hlogin : ∀ l ∈ (a.login.authorization?.map fun told => "authorization: " ++ told).toList,
      isHeaderValue l = true := by
    intro l hl
    obtain ⟨told, htold, rfl⟩ := Option.map_eq_some_iff.1 (Option.mem_toList.1 hl)
    exact isHeaderValue_append.2 ⟨by decide, isHeaderValue_authorization htold⟩
  rw [lines_request, List.cons_append, List.forall_mem_cons, List.forall_mem_append]
  simp only [List.forall_mem_cons, isHeaderValue_append]
  exact ⟨⟨⟨by decide, isHeaderValue_of_visible htarget⟩, by decide⟩, hlogin, by decide, by decide,
    ⟨by decide, isHeaderValue_cookie.2 h⟩, ⟨by decide, isHeaderValue_of_visible hauthority⟩,
    ⟨by decide, isHeaderValue_of_visible hlength⟩, List.forall_mem_nil _⟩

theorem fixed_request (h : ¬ c.HasControl) {a : Address}
    (ha : Address.ofUrl naming c.apiUrl = .ok a) (r : Request) :
    ((c.transport naming).request a r).Fixed c naming := by
  have hlines := isHeaderValue_line h ha r
  have hcookie : octets c.cookie = octets "connect.sid=" ++ octets c.sessionId := octets_append ..
  have hname : octets "cookie: " ++ octets "connect.sid=" = octets "cookie: connect.sid=" := by
    decide
  refine ⟨⟨c.cookie, values_request c naming a r, hcookie⟩, ⟨a, ha, ?_⟩, ?_⟩
  · rw [cutLines_head hlines, lines_request]
    simp only [List.map_cons, List.map_nil, List.map_append, octets_append "cookie: ", hcookie,
      ← List.append_assoc, hname]
    cases a.login.authorization? <;> rfl
  · rw [cutLines_head hlines, List.forall_mem_append, List.forall_mem_map]
    refine ⟨fun l hl => isHeaderValue_iff_octets.1 (hlines l hl), ?_⟩
    simp

theorem fixed_request? (h : ¬ c.HasControl) {r : Request} {q : HttpRequest}
    (hq : (c.transport naming).request? r = some q) : q.Fixed c naming := by
  obtain ⟨a, ha, rfl⟩ := Transport.request?_eq_some_iff.1 hq
  exact fixed_request h ha r

end Config

/-- What is given back while there is neither a transport nor a client. -/
inductive Answer.Refused (f : Fault) : Answer → Prop
  | nothing : Refused f .nothing
  | transport : Refused f (.transport (.error f))
  | connected : Refused f (.connected (.error f))
  | text (description : String) : Refused f (.text description)

/-- What is sent are requests of the transport of a configuration. Without one nothing happens. -/
structure Turn.Founded (c : Config) (naming : Address.Naming) (turn : Turn) : Prop where
  sent : ∀ q ∈ turn.sent, ∃ t r, Transport.ofConfig c naming = .ok t ∧ t.request? r = some q
  refused : ∀ f, Transport.ofConfig c naming = .error f →
    turn.events = [] ∧ turn.sent = [] ∧ turn.answer.Refused f

namespace Turn

variable {c : Config} {naming : Address.Naming} {turn : Turn}

theorem founded_of_ok {t : Transport} (ht : Transport.ofConfig c naming = .ok t)
    (hsent : ∀ q ∈ turn.sent, ∃ r, t.request? r = some q) : turn.Founded c naming where
  sent q hq := by
    obtain ⟨r, hr⟩ := hsent q hq
    exact ⟨t, r, ht, hr⟩
  refused f hf := by
    rw [ht] at hf
    cases hf

theorem founded_of_error {f : Fault} (hf : Transport.ofConfig c naming = .error f)
    (hanswer : turn.answer.Refused f) (hevents : turn.events = []) (hsent : turn.sent = []) :
    turn.Founded c naming where
  sent := by simp [hsent]
  refused f' hf' := by
    obtain rfl : f = f' := Except.error.inj (hf.symm.trans hf')
    exact ⟨hevents, hsent, hanswer⟩

theorem founded_of_silent (hanswer : ∀ f, turn.answer.Refused f) (hevents : turn.events = [])
    (hsent : turn.sent = []) : turn.Founded c naming where
  sent := by simp [hsent]
  refused f _ := ⟨hevents, hsent, hanswer f⟩

end Turn

namespace Session

/-- The client of a session has the transport of its configuration. -/
structure Founded (c : Config) (naming : Address.Naming) (s : Session) : Prop where
  config : s.config = c
  transport : ∀ p, s.connected = some p → Transport.ofConfig c naming = .ok p.2
  naming : s.naming = naming

variable {c : Config} {naming : Address.Naming} {s : Session}

theorem perform_founded {α : Type} (h : Founded c naming s) (answer : α → Answer)
    (operation : Client → Exchange → Outcome α) :
    Founded c naming (s.perform answer operation).1 ∧
      (s.perform answer operation).2.Founded c naming := by
  cases hconnected : s.connected with
  | none =>
    have hperform : s.perform answer operation = (s, { answer := .nothing }) := by
      rw [perform, hconnected]
    rw [hperform]
    exact ⟨h, Turn.founded_of_silent (fun _ => .nothing) rfl rfl⟩
  | some p =>
    have hp := h.transport p hconnected
    rw [perform, hconnected]
    refine ⟨⟨h.config, fun p' hp' => h.transport p' (hconnected ▸ hp'), h.naming⟩,
      Turn.founded_of_ok hp ?_⟩
    intro q hq
    obtain ⟨r, -, hr⟩ := List.mem_filterMap.1 hq
    exact ⟨r, hr⟩

theorem step_founded (h : Founded c naming s) (op : Operation) :
    Founded c naming (s.step op).1 ∧ (s.step op).2.Founded c naming := by
  cases op with
  | transport =>
    rw [step, h.config, h.naming]
    cases ht : Transport.ofConfig c naming with
    | ok t => exact ⟨h, Turn.founded_of_ok ht (List.forall_mem_nil _)⟩
    | error f => exact ⟨h, Turn.founded_of_error ht .transport rfl rfl⟩
  | connect query? =>
    rw [step, h.config, h.naming, Client.connect]
    cases ht : Transport.ofConfig c naming with
    | ok t =>
      refine ⟨⟨rfl, ?_, rfl⟩, Turn.founded_of_ok ht (List.forall_mem_nil _)⟩
      intro p hp
      cases hp
      exact ht
    | error f => exact ⟨h, Turn.founded_of_error ht .connected rfl rfl⟩
  | describeConfig => exact ⟨h, Turn.founded_of_silent (fun _ => .text _) rfl rfl⟩
  | describeClient =>
    refine ⟨h, Turn.founded_of_silent (fun f => ?_) rfl rfl⟩
    rw [step]
    cases s.connected with
    | none => exact .nothing
    | some p => exact .text _
  | fetch filter limit =>
    rw [step]
    exact perform_founded h ..
  | fetchArticle path =>
    rw [step]
    exact perform_founded h ..
  | articleHtml path =>
    rw [step]
    exact perform_founded h ..

theorem run_founded (h : Founded c naming s) (ops : List Operation) :
    ∀ turn ∈ s.run ops, turn.Founded c naming := by
  induction ops generalizing s with
  | nil => exact List.forall_mem_nil _
  | cons op ops ih =>
    obtain ⟨hstep, hturn⟩ := step_founded h op
    exact List.forall_mem_cons.2 ⟨hturn, ih hstep⟩

end Session

end Gazette
