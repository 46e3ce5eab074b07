import Gazette.Query.Search
import Gazette.Text.Basic

/-! # What the text of a filter tells

The restrictions that are set stand one after the other, and what one of them holds may look like
others. The text tells them apart all the same if the kind of recording, which stands between two of
them without quotes, has no comma. The query of a listing holds the text between two fixed ones. -/
namespace Gazette
open Gazette.Text

namespace Query

def opening : String := lines front ++ "\n" ++ "    "

def closing : String := "\n" ++ lines back

theorem lines_between {ls ms : List String} (hl : ls ≠ []) (hm : ms ≠ []) (l : String) :
    lines (ls ++ l :: ms) = lines ls ++ "\n" ++ (l ++ "\n" ++ lines ms) := by
  have hrest : lines (l :: ms) = l ++ "\n" ++ lines ms := String.intercalate_cons_of_ne_nil hm
  rw [← hrest]
  exact String.intercalate_append_of_ne_nil hl (List.cons_ne_nil l ms)

theorem search_eq (f : Filter) : search f = opening ++ f.text ++ closing := by
  rw [search, lines_between (by simp [front]) (by simp [back]), opening, closing]
  simp only [String.append_assoc]

theorem search_inj {f g : Filter} : search f = search g ↔ f.text = g.text := by
  rw [search_eq, search_eq]
  simp [← String.toList_inj]

section
variable {word cs rest : List Char}

theorem isPrefixOf_line (hw : '\n' ∉ word) (cs rest : List Char) :
    word.isPrefixOf (cs ++ '\n' :: rest) = word.isPrefixOf cs := by
  induction word generalizing cs with
  | nil => simp
  | cons d word ih =>
    rw [List.mem_cons, not_or] at hw
    cases cs with
    | nil => simp [List.isPrefixOf, Ne.symm hw.1]
    | cons c cs => simp [List.isPrefixOf, ih hw.2]

theorem occurs_line (hne : word ≠ []) (hw : '\n' ∉ word) :
    occurs word (cs ++ '\n' :: rest) = (occurs word cs || occurs word rest) := by
  induction cs with
  | nil =>
    have hprefix := isPrefixOf_line hw [] rest
    have hempty : word.isPrefixOf [] = false := by cases word <;> simp_all [List.isPrefixOf]
    rw [List.nil_append] at hprefix ⊢
    rw [occurs, occurs, hprefix, hempty, List.isEmpty_eq_false_iff.2 hne]
  | cons c cs ih =>
    have hprefix := isPrefixOf_line hw (c :: cs) rest
    rw [List.cons_append] at hprefix ⊢
    rw [occurs, occurs, hprefix, ih, Bool.or_assoc]

/-- A word that breaks no line occurs in one of them. -/
theorem occurs_lines {ls : List String} (hls : ls ≠ []) (hne : word ≠ []) (hw : '\n' ∉ word) :
    occurs word (lines ls).toList = ls.any fun l => occurs word l.toList := by
  induction ls with
  | nil => exact absurd rfl hls
  | cons l ls ih =>
    by_cases h : ls = []
    · simp [h, lines]
    · have hcons : lines (l :: ls) = l ++ "\n" ++ lines ls := String.intercalate_cons_of_ne_nil h
      have hlist : (lines (l :: ls)).toList = l.toList ++ '\n' :: (lines ls).toList := by
        simp [hcons]
      rw [hlist, occurs_line hne hw, ih h, List.any_cons]

end

end Query

namespace Filter

/-- The filter with no text in the place of an empty one. -/
def normal (f : Filter) : Filter :=
  { f with audioSourceKind := f.audioSourceKind.bind nonEmpty?, format := f.format.bind nonEmpty? }

/-- Clauses with a separator in front of each. -/
def separated (clauses : List String) : List Char :=
  clauses.flatMap fun c => ", ".toList ++ c.toList

theorem separated_eq {clauses : List String} (h : clauses ≠ []) :
    separated clauses = ", ".toList ++ (", ".intercalate clauses).toList := by
  induction clauses with
  | nil => exact absurd rfl h
  | cons c cs ih =>
    by_cases hcs : cs = []
    · simp [separated, hcs]
    · have hrest : separated (c :: cs) = ", ".toList ++ c.toList ++ separated cs :=
        List.flatMap_cons
      rw [hrest, ih hcs, String.intercalate_cons_of_ne_nil hcs]
      simp

theorem text_of_none {f : Filter} (h : f.clauses = []) : f.text = "" := by
  simp [text, isEmpty, h]

theorem text_of_some {f : Filter} (h : f.clauses ≠ []) :
    f.text = "filter: \x7b" ++ ", ".intercalate f.clauses ++ "\x7d" := by
  simp [text, isEmpty, h]

theorem text_eq_empty_iff {f : Filter} : f.text = "" ↔ f.clauses = [] := by
  refine ⟨?_, text_of_none⟩
  intro h
  by_cases hne : f.clauses = []
  · exact hne
  · rw [text_of_some hne] at h
    simp [← String.toList_inj] at h

theorem separated_of_text {f g : Filter} (h : f.text = g.text) :
    separated f.clauses = separated g.clauses := by
  by_cases hf : f.clauses = []
  · have hg : g.clauses = [] := text_eq_empty_iff.1 (h ▸ text_of_none hf)
    rw [hf, hg]
  · have hg : g.clauses ≠ [] := fun hg => hf (text_eq_empty_iff.1 (h.trans (text_of_none hg)))
    rw [text_of_some hf, text_of_some hg, ← String.toList_inj] at h
    simp only [String.toList_append, List.append_cancel_left_eq,
      List.append_cancel_right_eq] at h
    rw [separated_eq hf, separated_eq hg, h]

/-- A word that is there or not. -/
def flagged (word : String) (b : Bool) : List Char := if b then word.toList else []

/-- A value behind a word and in front of another, if there is one. -/
def valued (word close : String) : Option String → List Char
  | none => []
  | some s => word.toList ++ (s.toList ++ close.toList)

section
variable {word close : String} {c : Char} {x y : List Char}

theorem flagged_append (hw : word.toList[3]? = some c) (b : Bool) :
    (flagged word b ++ x)[3]? = if b then some c else x[3]? := by
  cases b with
  | false => rfl
  | true =>
    obtain ⟨hlt, -⟩ := List.getElem?_eq_some_iff.1 hw
    simp [flagged, List.getElem?_append_left hlt, hw]

theorem valued_append (hw : word.toList[3]? = some c) (o : Option String) :
    (valued word close o ++ x)[3]? = if o.isSome then some c else x[3]? := by
  cases o with
  | none => rfl
  | some s =>
    obtain ⟨hlt, -⟩ := List.getElem?_eq_some_iff.1 hw
    simp [valued, List.getElem?_append_left hlt, hw]

/-- Whether a word stands first shows in one letter. -/
theorem flagged_inj (hw : word.toList[3]? = some c) (hx : x[3]? ≠ some c) (hy : y[3]? ≠ some c)
    {b b' : Bool} (h : flagged word b ++ x = flagged word b' ++ y) : b = b' ∧ x = y := by
  have hletter := congrArg (·[3]?) h
  simp only [flagged_append hw] at hletter
  cases b <;> cases b'
  · exact ⟨rfl, h⟩
  · exact absurd hletter hx
  · exact absurd hletter.symm hy
  · exact ⟨rfl, List.append_cancel_left h⟩

theorem takeWhile_comma {s x : List Char} (hs : ',' ∉ s) (hx : ∀ c ∈ x.head?, c = ',') :
    (s ++ x).takeWhile (· ≠ ',') = s := by
  rw [List.takeWhile_append_of_pos (by grind)]
  cases x with
  | nil => simp
  | cons c x => simp [hx c rfl]

/-- A value without a comma ends where a comma stands, or the text. -/
theorem append_inj_of_comma {s s' : List Char} (hs : ',' ∉ s) (hs' : ',' ∉ s')
    (hx : ∀ c ∈ x.head?, c = ',') (hy : ∀ c ∈ y.head?, c = ',') (h : s ++ x = s' ++ y) :
    s = s' ∧ x = y := by
  have heq : s = s' := by
    rw [← takeWhile_comma hs hx, h, takeWhile_comma hs' hy]
  subst heq
  exact ⟨rfl, List.append_cancel_left h⟩

theorem valued_inj (hw : word.toList[3]? = some c) {o o' : Option String}
    (ho : ∀ s ∈ o, ',' ∉ s.toList) (ho' : ∀ s ∈ o', ',' ∉ s.toList)
    (hx : ∀ c ∈ x.head?, c = ',') (hy : ∀ c ∈ y.head?, c = ',')
    (hx' : x[3]? ≠ some c) (hy' : y[3]? ≠ some c)
    (h : valued word "" o ++ x = valued word "" o' ++ y) : o = o' ∧ x = y := by
  have hletter := congrArg (·[3]?) h
  simp only [valued_append hw] at hletter
  cases o with
  | none =>
    cases o' with
    | none => exact ⟨rfl, h⟩
    | some s' => exact absurd hletter hx'
  | some s =>
    cases o' with
    | none => exact absurd hletter.symm hy'
    | some s' =>
      simp only [valued, String.toList_empty, List.append_nil, List.append_assoc,
        List.append_cancel_left_eq] at h
      obtain ⟨hs, hxy⟩ := append_inj_of_comma (ho s rfl) (ho' s' rfl) hx hy h
      exact ⟨congrArg some (String.toList_inj.1 hs), hxy⟩

theorem valued_last_inj (hw : word.toList[3]? = some c) {o o' : Option String}
    (h : valued word close o = valued word close o') : o = o' := by
  have hletter := congrArg (fun l => (l ++ [])[3]?) h
  simp only [valued_append hw] at hletter
  cases o with
  | none =>
    cases o' with
    | none => rfl
    | some s' => simp at hletter
  | some s =>
    cases o' with
    | none => simp at hletter
    | some s' =>
      simp only [valued, List.append_cancel_left_eq, List.append_cancel_right_eq] at h
      exact congrArg some (String.toList_inj.1 h)

end

theorem nonEmpty?_eq_some {s k : String} (h : nonEmpty? s = some k) : s = k := by
  rw [nonEmpty?] at h
  split at h
  · cases h
  · exact Option.some.inj h

/-- The kind of recording has no comma. -/
def CommaFree (f : Filter) : Prop := ∀ kind ∈ f.audioSourceKind, ',' ∉ kind.toList

theorem CommaFree.normal {f : Filter} (h : f.CommaFree) :
    ∀ s ∈ f.normal.audioSourceKind, ',' ∉ s.toList := by
  intro s hs
  obtain ⟨kind, hkind, hs⟩ := Option.bind_eq_some_iff.1 hs
  exact nonEmpty?_eq_some hs ▸ h kind hkind

/-! ## The restrictions from the last one on -/

def fromFormat (f : Filter) : List Char := valued ", format: \"" "\"" f.normal.format

def fromKind (f : Filter) : List Char :=
  valued ", audioSourceKind: " "" f.normal.audioSourceKind ++ f.fromFormat

def fromAudio (f : Filter) : List Char := flagged ", hasAudio: true" f.hasAudio ++ f.fromKind

theorem separated_clauses (f : Filter) :
    separated f.clauses = flagged ", feed: true" f.feed ++ f.fromAudio := by
  rw [separated, clauses]
  simp only [List.flatMap_append, List.append_assoc, fromAudio, fromKind, fromFormat, normal]
  congr 1
  · cases f.feed <;> rfl
  congr 1
  · cases f.hasAudio <;> rfl
  congr 1
  · cases f.audioSourceKind.bind nonEmpty? <;> simp [valued]
  · cases f.format.bind nonEmpty? <;> simp [valued]

theorem fromFormat_letter (f : Filter) :
    f.fromFormat[3]? = if f.normal.format.isSome then some 'o' else none := by
  rw [← List.append_nil f.fromFormat]
  exact valued_append rfl _

theorem fromFormat_head (f : Filter) : ∀ c ∈ f.fromFormat.head?, c = ',' := by
  unfold fromFormat
  cases f.normal.format <;> simp [valued]

theorem fromKind_letter (f : Filter) : f.fromKind[3]? =
    if f.normal.audioSourceKind.isSome then some 'u' else f.fromFormat[3]? := valued_append rfl _

theorem fromAudio_letter (f : Filter) :
    f.fromAudio[3]? = if f.hasAudio then some 'a' else f.fromKind[3]? := flagged_append rfl _

theorem normal_of_separated {f g : Filter} (hf : f.CommaFree) (hg : g.CommaFree)
    (h : separated f.clauses = separated g.clauses) : f.normal = g.normal := by
  have hformat (f : Filter) : f.fromFormat[3]? ≠ some 'u' := by grind [fromFormat_letter]
  have hkind (f : Filter) : f.fromKind[3]? ≠ some 'a' := by
    grind [fromKind_letter, fromFormat_letter]
  have haudio (f : Filter) : f.fromAudio[3]? ≠ some 'e' := by
    grind [fromAudio_letter, fromKind_letter, fromFormat_letter]
  rw [separated_clauses, separated_clauses] at h
  obtain ⟨hfeed, h⟩ := flagged_inj rfl (haudio f) (haudio g) h
  obtain ⟨haudio, h⟩ := flagged_inj rfl (hkind f) (hkind g) h
  obtain ⟨hkind, h⟩ := valued_inj rfl hf.normal hg.normal (fromFormat_head f) (fromFormat_head g)
    (hformat f) (hformat g) h
  have hformat := valued_last_inj (c := 'o') rfl h
  rw [normal, normal, hfeed, haudio]
  exact congr (congrArg (Filter.mk g.feed g.hasAudio) hkind) hformat

theorem clauses_normal (f : Filter) : f.normal.clauses = f.clauses := by
  have hbind (o : Option String) : (o.bind nonEmpty?).bind nonEmpty? = o.bind nonEmpty? := by
    cases o with
    | none => rfl
    | some s =>
      by_cases hs : s = "" <;> simp [nonEmpty?, hs]
  rw [clauses, clauses, normal, hbind, hbind]

theorem text_of_normal {f g : Filter} (h : f.normal = g.normal) : f.text = g.text := by
  have hclauses : f.clauses = g.clauses := by rw [← clauses_normal f, h, clauses_normal]
  rw [text, text, isEmpty, isEmpty, hclauses]

theorem text_inj {f g : Filter} (hf : f.CommaFree) (hg : g.CommaFree) :
    f.text = g.text ↔ f.normal = g.normal :=
  ⟨fun h => normal_of_separated hf hg (separated_of_text h), text_of_normal⟩

theorem nonEmpty?_eq_none {o : Option String} :
    o.bind nonEmpty? = none ↔ o ∈ [none, some ""] := by
  cases o <;> simp [nonEmpty?]

theorem clauses_eq_nil_iff {f : Filter} : f.clauses = [] ↔ f.feed = false ∧ f.hasAudio = false ∧
    f.audioSourceKind ∈ [none, some ""] ∧ f.format ∈ [none, some ""] := by
  rw [← nonEmpty?_eq_none, ← nonEmpty?_eq_none, clauses]
  cases f.audioSourceKind.bind nonEmpty? <;> cases f.format.bind nonEmpty? <;> simp

theorem search_names_filter {f : Filter} (h : f.clauses ≠ []) :
    "filter:".toList <:+: (Query.search f).toList := by
  rw [Query.search_eq, text_of_some h]
  refine ⟨Query.opening.toList, " \x7b".toList ++ (", ".intercalate f.clauses).toList ++
    "\x7d".toList ++ Query.closing.toList, ?_⟩
  simp

theorem search_names_no_filter {f : Filter} (h : f.clauses = []) :
    ¬ "filter:".toList <:+: (Query.search f).toList := by
  have hlines : ∀ l ∈ Query.front ++ "    " :: Query.back,
      occurs "filter:".toList l.toList = false := by decide +kernel
  rw [← occurs_iff, Query.search, text_of_none h, Query.occurs_lines (by simp) (by simp)
    (by decide), List.any_eq_true]
  rintro ⟨l, hl, hoccurs⟩
  rw [hlines l hl] at hoccurs
  exact Bool.false_ne_true hoccurs

/-- Filters whose kinds have no comma have the same text exactly if they are the same but for empty
texts, and the query of the listing tells as much. There is no text, and no filter in the query, if
and only if nothing is set. -/
theorem text_determines_filter :
    (∀ f g : Filter, f.CommaFree → g.CommaFree → (f.text = g.text ↔ f.normal = g.normal) ∧
      (Query.search f = Query.search g ↔ f.normal = g.normal)) ∧
    ∀ f : Filter, (f.text = "" ↔ f.isEmpty = true) ∧
      ("filter:".toList <:+: (Query.search f).toList ↔ f.isEmpty = false) ∧
      (f.isEmpty = true ↔ f.feed = false ∧ f.hasAudio = false ∧
        f.audioSourceKind ∈ [none, some ""] ∧ f.format ∈ [none, some ""]) := by
  refine ⟨fun f g hf hg => ⟨text_inj hf hg, Query.search_inj.trans (text_inj hf hg)⟩, ?_⟩
  intro f
  have hempty : f.isEmpty = true ↔ f.clauses = [] := List.isEmpty_iff
  refine ⟨text_eq_empty_iff.trans hempty.symm, ?_, hempty.trans clauses_eq_nil_iff⟩
  rw [← Bool.not_eq_true, hempty]
  exact ⟨fun h hnone => search_names_no_filter hnone h, search_names_filter⟩

/-- A format that looks like further restrictions, and an empty one. -/
theorem text_determines_filter_lookalike :
    let f : Filter := { audioSourceKind := some "a\x7d", format := some "b\", feed: true" }
    let g : Filter := { audioSourceKind := some "a\x7d", format := some "" }
    f.CommaFree ∧ g.CommaFree ∧ f.text ≠ g.text ∧ Query.search f ≠ Query.search g ∧
      g.text = Filter.text { audioSourceKind := some "a\x7d" } := by
  intro f g
  have hcomma (format : Option String) :
      CommaFree { audioSourceKind := some "a\x7d", format } := by
    simp [CommaFree]
  obtain ⟨hsame, -⟩ := text_determines_filter
  obtain ⟨htext, hsearch⟩ := hsame f g (hcomma _) (hcomma _)
  have hdiffer : f.normal ≠ g.normal := by decide
  exact ⟨hcomma _, hcomma _, (not_congr htext).2 hdiffer, (not_congr hsearch).2 hdiffer,
    (hsame g _ (hcomma _) (hcomma none)).1.2 (by decide)⟩

end Filter
end Gazette
