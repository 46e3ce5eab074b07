import Mathlib.Data.List.Basic
import Gazette.Query.Filter

/-! # Filters built call by call

A flag that is set stays set, and a text takes the place of the one before it. So the last call for
each restriction decides, and calls for different ones may change places. An empty text is no
exception: it takes back the text before it. Only where none stands before it, or another one
follows, can it be left out. -/
namespace Gazette.Filter

/-- The restrictions. -/
inductive Part where
  | feed | audio | kind | format
  deriving DecidableEq, Repr

/-- A call that sets a restriction. -/
inductive Call where
  | feed
  | audio
  | kind (text : String)
  | format (text : String)
  deriving DecidableEq, Repr

namespace Call

def apply (f : Filter) : Call → Filter
  | .feed => f.inFeed
  | .audio => f.withAudio
  | .kind text => f.ofAudioSourceKind text
  | .format text => f.ofFormat text

/-- The restriction that a call is for. -/
def part : Call → Part
  | .feed => .feed
  | .audio => .audio
  | .kind _ => .kind
  | .format _ => .format

/-- The text that a call has for a restriction. -/
def text? (part : Part) : Call → Option String
  | .kind text => if part = .kind then some text else none
  | .format text => if part = .format then some text else none
  | _ => none

/-- A call with an empty text. -/
def isEmpty (c : Call) : Bool := c = .kind "" || c = .format ""

end Call

/-- The filter that some calls build, one after the other. -/
def build (calls : List Call) : Filter := calls.foldl Call.apply {}

/-- The texts for a restriction, in the order of the calls. -/
def texts (part : Part) (calls : List Call) : List String := calls.filterMap (Call.text? part)

/-- The calls without those that have an empty text. -/
def telling (calls : List Call) : List Call := calls.filter fun c => !c.isEmpty

/-- The same calls in another order, but in the same one among those for a restriction. -/
def Rearranged (calls calls' : List Call) : Prop :=
  ∀ part, calls'.filter (·.part = part) = calls.filter (·.part = part)

/-- The last text is not an empty one that takes back another. -/
def Kept (texts : List String) : Prop := texts.getLast? = some "" → ∀ text ∈ texts, text = ""

instance (texts : List String) : Decidable (Kept texts) := inferInstanceAs (Decidable (_ → _))

/-- A flag that one call sets, and no call takes back. -/
theorem flag_foldl {flag : Filter → Bool} {call : Call}
    (h : ∀ f c, flag (Call.apply f c) = (flag f || c = call)) (f : Filter) (calls : List Call) :
    flag (calls.foldl Call.apply f) = (flag f || decide (call ∈ calls)) := by
  induction calls generalizing f with
  | nil => simp
  | cons c cs ih =>
    have hcall : (decide (c = call) || decide (call ∈ cs)) = decide (call ∈ c :: cs) := by
      simp [eq_comm]
    rw [List.foldl_cons, ih, h, Bool.or_assoc, hcall]

theorem feed_build (calls : List Call) : (build calls).feed = true ↔ .feed ∈ calls := by
  have hstep (f : Filter) (c : Call) : (c.apply f).feed = (f.feed || c = .feed) := by
    cases c <;> simp [Call.apply, inFeed, withAudio, ofAudioSourceKind, ofFormat]
  rw [build, flag_foldl hstep]
  simp

theorem hasAudio_build (calls : List Call) : (build calls).hasAudio = true ↔ .audio ∈ calls := by
  have hstep (f : Filter) (c : Call) : (c.apply f).hasAudio = (f.hasAudio || c = .audio) := by
    cases c <;> simp [Call.apply, inFeed, withAudio, ofAudioSourceKind, ofFormat]
  rw [build, flag_foldl hstep]
  simp

/-- The text that a filter holds for a restriction. -/
def held (f : Filter) : Part → Option String
  | .kind => f.audioSourceKind
  | .format => f.format
  | _ => none

theorem held_apply (f : Filter) (c : Call) (part : Part) :
    (c.apply f).held part = ((c.text? part).map nonEmpty?).getD (f.held part) := by
  cases c <;> cases part <;> rfl

theorem held_foldl (f : Filter) (calls : List Call) (part : Part) :
    (calls.foldl Call.apply f).held part =
      ((texts part calls).getLast?.map nonEmpty?).getD (f.held part) := by
  induction calls generalizing f with
  | nil => rfl
  | cons c cs ih =>
    rw [List.foldl_cons, ih, held_apply, texts, texts]
    cases h : c.text? part with
    | none => rw [List.filterMap_cons_none h, Option.map_none, Option.getD_none]
    | some text =>
      rw [List.filterMap_cons_some h, List.getLast?_cons]
      cases (cs.filterMap (Call.text? part)).getLast? <;> rfl

theorem held_build (calls : List Call) (part : Part) :
    (build calls).held part = (texts part calls).getLast?.bind nonEmpty? := by
  have hempty : held {} part = none := by cases part <;> rfl
  rw [build, held_foldl, hempty]
  cases (texts part calls).getLast? <;> rfl

/-- A filter is known by its flags and its texts. -/
theorem ext_held {f g : Filter} (hfeed : f.feed = true ↔ g.feed = true)
    (haudio : f.hasAudio = true ↔ g.hasAudio = true) (hheld : ∀ part, f.held part = g.held part) :
    f = g := by
  have hkind : f.audioSourceKind = g.audioSourceKind := hheld .kind
  have hformat : f.format = g.format := hheld .format
  rw [Bool.coe_iff_coe] at hfeed haudio
  cases f
  cases g
  simp_all

section
variable {calls calls' : List Call}

theorem Rearranged.mem_iff (h : Rearranged calls calls') (c : Call) : c ∈ calls' ↔ c ∈ calls := by
  have hpart : c ∈ calls'.filter (·.part = c.part) ↔ c ∈ calls.filter (·.part = c.part) := by
    rw [h c.part]
  simpa using hpart

/-- The texts for a restriction are those of its own calls. -/
theorem texts_filter_part (part : Part) (calls : List Call) :
    texts part (calls.filter (·.part = part)) = texts part calls := by
  have hother (c : Call) (h : c.part ≠ part) : c.text? part = none := by
    cases c <;> simp_all [Call.part, Call.text?, eq_comm]
  induction calls with
  | nil => rfl
  | cons c cs ih =>
    unfold texts at ih ⊢
    by_cases h : c.part = part
    · rw [List.filter_cons_of_pos (by simpa using h), List.filterMap_cons, List.filterMap_cons, ih]
    · rw [List.filter_cons_of_neg (by simpa using h), List.filterMap_cons_none (hother c h), ih]

theorem Rearranged.texts_eq (h : Rearranged calls calls') (part : Part) :
    texts part calls' = texts part calls := by
  rw [← texts_filter_part, h part, texts_filter_part]

theorem Rearranged.build_eq (h : Rearranged calls calls') : build calls' = build calls := by
  apply ext_held
  · rw [feed_build, feed_build, h.mem_iff]
  · rw [hasAudio_build, hasAudio_build, h.mem_iff]
  · intro part
    rw [held_build, held_build, h.texts_eq]

theorem mem_telling {c : Call} (h : c.isEmpty = false) : c ∈ telling calls ↔ c ∈ calls := by
  simp [telling, h]

theorem texts_telling (part : Part) (calls : List Call) :
    texts part (telling calls) = (texts part calls).filter (· ≠ "") := by
  unfold texts telling
  rw [List.filterMap_filter, List.filter_filterMap]
  apply List.filterMap_congr
  intro c _
  cases c with
  | feed | audio => rfl
  | kind text | format text =>
    by_cases h : text = "" <;> cases part <;> simp [Call.isEmpty, Call.text?, h, Option.filter]

end

/-- Empty texts count for nothing if and only if the last text is kept. -/
theorem last_filter_iff (texts : List String) :
    texts.getLast?.bind nonEmpty? = (texts.filter (· ≠ "")).getLast? ↔ Kept texts := by
  rcases List.eq_nil_or_concat' texts with rfl | ⟨before, last, rfl⟩
  · simp [Kept]
  · by_cases h : last = ""
    · have hbefore : (before.filter (· ≠ "")).getLast? = none ↔ ∀ text ∈ before, text = "" := by
        rw [List.getLast?_eq_none_iff, List.filter_eq_nil_iff]
        simp
      have hfilter : (before ++ [last]).filter (· ≠ "") = before.filter (· ≠ "") := by simp [h]
      rw [hfilter, eq_comm, List.getLast?_concat, h, Option.bind_some, nonEmpty?, if_pos rfl,
        hbefore]
      simp [Kept, or_imp]
    · simp [h, nonEmpty?, Kept]

/-- The calls with a text can stand alone if and only if the last texts are kept. -/
theorem build_telling_iff (calls : List Call) : build (telling calls) = build calls ↔
    Kept (texts .kind calls) ∧ Kept (texts .format calls) := by
  have hheld (part : Part) : (build (telling calls)).held part = (build calls).held part ↔
      Kept (texts part calls) := by
    have hlast : ((texts part calls).filter (· ≠ "")).getLast?.bind nonEmpty? =
        ((texts part calls).filter (· ≠ "")).getLast? := by
      cases h : ((texts part calls).filter (· ≠ "")).getLast? with
      | none => rfl
      | some text =>
        have hne : text ≠ "" := by simpa using List.of_mem_filter (List.mem_of_getLast? h)
        simp [nonEmpty?, hne]
    rw [held_build, held_build, texts_telling, hlast, eq_comm, last_filter_iff]
  constructor
  · intro h
    exact ⟨(hheld .kind).1 (h ▸ rfl), (hheld .format).1 (h ▸ rfl)⟩
  · rintro ⟨hkind, hformat⟩
    apply ext_held
    · rw [feed_build, feed_build, mem_telling rfl]
    · rw [hasAudio_build, hasAudio_build, mem_telling rfl]
    · intro part
      cases part with
      | feed | audio => rfl
      | kind => exact (hheld .kind).2 hkind
      | format => exact (hheld .format).2 hformat

/-- Each restriction of a filter is what the last call for it says, and so is not changed by calls
in another order. An empty text counts for nothing if and only if the last text is kept. -/
theorem build_by_last_calls (calls : List Call) :
    ((build calls).feed = true ↔ .feed ∈ calls) ∧
      ((build calls).hasAudio = true ↔ .audio ∈ calls) ∧
      (build calls).audioSourceKind = (texts .kind calls).getLast?.bind nonEmpty? ∧
      (build calls).format = (texts .format calls).getLast?.bind nonEmpty? ∧
      ((build calls).audioSourceKind = ((texts .kind calls).filter (· ≠ "")).getLast? ↔
        Kept (texts .kind calls)) ∧
      ((build calls).format = ((texts .format calls).filter (· ≠ "")).getLast? ↔
        Kept (texts .format calls)) ∧
      (build (telling calls) = build calls ↔
        Kept (texts .kind calls) ∧ Kept (texts .format calls)) ∧
      ∀ calls', Rearranged calls calls' →
        build calls' = build calls ∧ (build calls').text = (build calls).text := by
  have hkind : (build calls).audioSourceKind = (texts .kind calls).getLast?.bind nonEmpty? :=
    held_build calls .kind
  have hformat : (build calls).format = (texts .format calls).getLast?.bind nonEmpty? :=
    held_build calls .format
  refine ⟨feed_build calls, hasAudio_build calls, hkind, hformat, ?_, ?_, build_telling_iff calls,
    ?_⟩
  · rw [hkind, last_filter_iff]
  · rw [hformat, last_filter_iff]
  · intro calls' h
    have heq : build calls' = build calls := h.build_eq
    exact ⟨heq, congrArg text heq⟩

/-- Calls that change places, an empty text before another one among them. -/
theorem build_by_last_calls_rearranged :
    let calls : List Call := [.format "", .feed, .kind "a", .format "b", .kind "c"]
    let calls' : List Call := [.kind "a", .kind "c", .format "", .format "b", .feed]
    Rearranged calls calls' ∧ build calls' = build calls ∧
      (build calls').text = (build calls).text ∧ build (telling calls) = build calls := by
  intro calls calls'
  have h : Rearranged calls calls' := by
    intro part
    cases part <;> rfl
  obtain ⟨-, -, -, -, -, -, htelling, horder⟩ := build_by_last_calls calls
  have hkept : Kept (texts .kind calls) ∧ Kept (texts .format calls) := by decide
  exact ⟨h, (horder calls' h).1, (horder calls' h).2, htelling.2 hkept⟩

/-- An empty text is not passed over: it takes back the one before it. -/
theorem empty_text_takes_back :
    let calls : List Call := [.format "a", .format ""]
    (build calls).format = none ∧ (build (telling calls)).format = some "a" ∧
      build (telling calls) ≠ build calls := by
  decide

end Gazette.Filter
