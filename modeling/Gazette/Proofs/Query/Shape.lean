import Gazette.Proofs.Query.FilterText
import Gazette.Proofs.Query.Tokens

/-! # The shape of the query of a listing

The filter writes its texts as they are. The kind of recording is a name of the language or it is
not; the format stands between quotes, where it is one token exactly if nothing in it is read as
anything but itself. A format that is read otherwise never comes back to the tokens it should be:
what is between the quotes is then too short. -/
namespace Gazette.Query
open State

/-! ## The tokens -/

def enclosed (opens closes : Char) (ts : List Token) : List Token :=
  .punctuator opens :: (ts ++ [.punctuator closes])

def argument (key : String) (value : List Token) : List Token :=
  .name key :: .punctuator ':' :: value

/-- A field of the result with what is selected of it. -/
def selected (field : String) (fields : List Token) : List Token :=
  .name field :: enclosed '\x7b' '\x7d' fields

/-- The documents of a template are left out. -/
def exclusionTokens (template : String) : List Token :=
  enclosed '\x7b' '\x7d' (argument "key" [.string "template"] ++
    argument "not" [.name "true"] ++ argument "value" [.string template])

def orderTokens : List Token :=
  enclosed '\x7b' '\x7d' (argument "key" [.name "publishedAt"] ++
    argument "direction" [.name "DESC"])

def infoTokens : List Token :=
  selected "meta" (
    ["title", "path", "image", "description", "publishDate", "template",
      "estimatedReadingMinutes", "estimatedConsumptionMinutes"].map .name ++
    selected "audioCoverCrop" (["x", "y", "width", "height"].map .name) ++
    selected "audioSource" (["mp3", "kind", "durationMs"].map .name) ++
    selected "format" (selected "meta" (["path", "title", "kind"].map .name)))

def selectionTokens : List Token :=
  enclosed '\x7b' '\x7d' (selected "nodes" (selected "entity"
    (.spread :: .name "on" :: selected "Document" (.name "id" :: infoTokens))))

def flagTokens (key : String) (b : Bool) : List Token :=
  if b then argument key [.name "true"] else []

def kindTokens (kind : Option String) : List Token :=
  (kind.map fun kind => argument "audioSourceKind" [.name kind]).getD []

def formatTokens (format : Option String) : List Token :=
  (format.map fun format => argument "format" [.string format]).getD []

/-- The restrictions in front of the format. -/
def leadTokens (f : Filter) : List Token :=
  flagTokens "feed" f.feed ++
    (flagTokens "hasAudio" f.hasAudio ++ kindTokens f.normal.audioSourceKind)

/-- The restrictions that are set. -/
def clauseTokens (f : Filter) : List Token := leadTokens f ++ formatTokens f.normal.format

def filterTokens (f : Filter) : List Token :=
  if f.isEmpty then [] else argument "filter" (enclosed '\x7b' '\x7d' (clauseTokens f))

/-- What the query of a listing is meant to say. -/
def searchTokens (f : Filter) : List Token :=
  .name "query" ::
    enclosed '(' ')' (.punctuator '$' :: argument "limit" [.name "Int", .punctuator '!']) ++
    enclosed '\x7b' '\x7d' (argument "documents" (.name "search" ::
      enclosed '(' ')' (
        argument "filters" (enclosed '[' ']' (excludedTemplates.flatMap exclusionTokens)) ++
        filterTokens f ++
        argument "sort" orderTokens ++
        argument "first" [.punctuator '$', .name "limit"]) ++
      selectionTokens))

/-- The tokens in front of the filter. -/
def headTokens : List Token :=
  .name "query" ::
    enclosed '(' ')' (.punctuator '$' :: argument "limit" [.name "Int", .punctuator '!']) ++
    .punctuator '\x7b' :: argument "documents" (.name "search" :: .punctuator '(' ::
      argument "filters" (enclosed '[' ']' (excludedTemplates.flatMap exclusionTokens)))

/-- The tokens behind it. -/
def tailTokens : List Token :=
  argument "sort" orderTokens ++ argument "first" [.punctuator '$', .name "limit"] ++
    .punctuator ')' :: selectionTokens ++ [.punctuator '\x7d']

theorem searchTokens_eq (f : Filter) :
    searchTokens f = headTokens ++ (filterTokens f ++ tailTokens) := by
  simp [searchTokens, headTokens, tailTokens, enclosed, argument]

/-! ## The lines around the filter -/

/-- The text is read as these tokens, whatever follows. -/
def Spells (cs : List Char) (ts : List Token) : Prop :=
  ∀ ds, between.tokens (cs ++ ds) = (between.tokens ds).map (ts ++ ·)

theorem spells_of_run {cs : List Char} {ts : List Token}
    (h : between.run cs = some (ts, between)) : Spells cs ts := fun _ => tokens_of_run h

theorem Spells.append {cs cs' : List Char} {ts ts' : List Token} (h : Spells cs ts)
    (h' : Spells cs' ts') : Spells (cs ++ cs') (ts ++ ts') := by
  intro ds
  rw [List.append_assoc, h, h', Option.map_map]
  simp [Function.comp_def]

/-- Lines, each with its end. -/
def ended (ls : List String) : List Char := ls.flatMap fun l => l.toList ++ ['\n']

theorem toList_lines (ls : List String) (l : String) :
    (lines (ls ++ [l])).toList = ended ls ++ l.toList := by
  induction ls with
  | nil => simp [lines, ended]
  | cons m ls ih =>
    have hcons : lines (m :: (ls ++ [l])) = m ++ "\n" ++ lines (ls ++ [l]) :=
      String.intercalate_cons_of_ne_nil (by simp)
    rw [List.cons_append, hcons]
    simp [ih, ended]

theorem ended_append (ls ms : List String) : ended (ls ++ ms) = ended ls ++ ended ms :=
  List.flatMap_append

theorem toList_opening : opening.toList = ended front ++ "    ".toList := by
  have hlines : lines (front ++ ["    "]) = lines front ++ "\n" ++ "    " :=
    String.intercalate_append_of_ne_nil (by simp [front]) (by simp)
  rw [opening, ← hlines, toList_lines]

theorem toList_closing : closing.toList = '\n' :: (ended back.dropLast ++ ['\x7d']) := by
  have hback : back = back.dropLast ++ ["\x7d"] := rfl
  rw [closing, hback, String.toList_append, toList_lines]
  rfl

theorem spells_exclusion {template : String} (hne : template ≠ "")
    (h : template.toList.all isPlain = true) :
    Spells (exclusion template).toList (exclusionTokens template) := by
  intro ds
  have hopening : between.run "\x7b key: \"template\", not: true, value: \"".toList =
      some (.punctuator '\x7b' :: (argument "key" [.string "template"] ++
        argument "not" [.name "true"] ++ [.name "value", .punctuator ':']), quote) := by
    decide +kernel
  have hclosing : Spells " \x7d".toList [.punctuator '\x7d'] := spells_of_run rfl
  have hlist : (exclusion template).toList ++ ds =
      "\x7b key: \"template\", not: true, value: \"".toList ++
        (template.toList ++ '"' :: (" \x7d".toList ++ ds)) := by
    simp [exclusion]
  rw [hlist, tokens_of_run hopening,
    tokens_quoted (by simpa using hne) (List.all_eq_true.1 h), hclosing]
  simp [exclusionTokens, enclosed, argument, Function.comp_def]

theorem spells_exclusions {templates : List String}
    (h : ∀ t ∈ templates, t ≠ "" ∧ t.toList.all isPlain = true) :
    Spells (ended (templates.map fun t => "      " ++ exclusion t))
      (templates.flatMap exclusionTokens) := by
  induction templates with
  | nil => exact spells_of_run rfl
  | cons t ts ih =>
    obtain ⟨ht, hts⟩ := List.forall_mem_cons.1 h
    have hindent : Spells "      ".toList [] := spells_of_run rfl
    have hline := (hindent.append (spells_exclusion ht.1 ht.2)).append
      (spells_of_run rfl : Spells ['\n'] [])
    have hlines := hline.append (ih hts)
    simpa [ended] using hlines

theorem spells_front : Spells (ended front) headTokens := by
  have hopening : Spells (ended ["query ($limit: Int!) \x7b", "  documents: search(",
      "    filters: ["]) (.name "query" ::
        enclosed '(' ')' (.punctuator '$' :: argument "limit" [.name "Int", .punctuator '!']) ++
        .punctuator '\x7b' :: argument "documents" (.name "search" :: .punctuator '(' ::
          argument "filters" [.punctuator '['])) := spells_of_run (by decide +kernel)
  have hexclusions : Spells _ (excludedTemplates.flatMap exclusionTokens) :=
    spells_exclusions (by decide)
  have hclosing : Spells (ended ["    ]"]) [.punctuator ']'] := spells_of_run rfl
  have hfront := (hopening.append hexclusions).append hclosing
  rw [← ended_append, ← ended_append] at hfront
  simpa [front, headTokens, enclosed, argument] using hfront

theorem tokens_closing : between.tokens closing.toList = some tailTokens := by
  have hback : between.run ('\n' :: ended back.dropLast) =
      some (tailTokens.dropLast, between) := by decide +kernel
  rw [toList_closing, ← List.cons_append, tokens_of_run hback]
  rfl

theorem tokens_search (f : Filter) : tokens (search f) =
    (between.tokens (f.text.toList ++ closing.toList)).map (headTokens ++ ·) := by
  have hopening : Spells opening.toList headTokens := by
    rw [toList_opening, ← List.append_nil headTokens]
    exact spells_front.append (spells_of_run rfl)
  rw [tokens, search_eq, String.toList_append, String.toList_append, List.append_assoc, hopening]

/-! ## The filter -/

/-- The text starts with a character that ends a name. -/
def EndsName (cs : List Char) : Prop := ∃ c ds, cs = c :: ds ∧ isNameLetter c = false

section
variable {word close key : String} {cs : List Char}

theorem endsName_comma (hword : word.toList.head? = some ',') (ds : List Char) :
    EndsName (word.toList ++ ds) := by
  cases h : word.toList with
  | nil => simp [h] at hword
  | cons c cs =>
    obtain rfl : c = ',' := by simpa [h] using hword
    exact ⟨',', cs ++ ds, rfl, rfl⟩

theorem endsName_flagged (hword : word.toList.head? = some ',') (hcs : EndsName cs) (b : Bool) :
    EndsName (Filter.flagged word b ++ cs) := by
  cases b with
  | false => exact hcs
  | true => exact endsName_comma hword cs

theorem endsName_valued (hword : word.toList.head? = some ',') (hcs : EndsName cs)
    (value : Option String) : EndsName (Filter.valued word close value ++ cs) := by
  cases value with
  | none => exact hcs
  | some s =>
    rw [Filter.valued, List.append_assoc]
    exact endsName_comma hword _

theorem tokens_flagged (hword : between.run word.toList =
      some ([.name key, .punctuator ':'], name "eurt".toList))
    (hcs : EndsName cs) (b : Bool) : between.tokens (Filter.flagged word b ++ cs) =
      (between.tokens cs).map (flagTokens key b ++ ·) := by
  cases b with
  | false => simp [Filter.flagged, flagTokens]
  | true =>
    obtain ⟨c, ds, rfl, hc⟩ := hcs
    have hname : (name "eurt".toList).tokens (c :: ds) =
        (between.tokens (c :: ds)).map (.name "true" :: ·) :=
      tokens_of_after (by simp [step, hc]; rfl)
    rw [Filter.flagged, if_pos rfl, tokens_of_run hword, hname, Option.map_map]
    rfl

theorem tokens_kind {kind : Option String} (hkind : ∀ k ∈ kind, isName k = true)
    (hcs : EndsName cs) :
    between.tokens (Filter.valued ", audioSourceKind: " "" kind ++ cs) =
      (between.tokens cs).map (kindTokens kind ++ ·) := by
  cases kind with
  | none => simp [Filter.valued, kindTokens]
  | some k =>
    obtain ⟨c, ds, rfl, hc⟩ := hcs
    have hrun : between.run ", audioSourceKind: ".toList =
        some ([.name "audioSourceKind", .punctuator ':'], between) := by decide +kernel
    rw [Filter.valued, String.toList_empty, List.append_nil, List.append_assoc,
      tokens_of_run hrun, tokens_isName (hkind k rfl) hc, Option.map_map]
    rfl

theorem tokens_format (format : String) :
    between.tokens (Filter.valued ", format: \"" "\"" (some format) ++ cs) =
      (quote.tokens (format.toList ++ '"' :: cs)).map
        (.name "format" :: .punctuator ':' :: ·) := by
  have hrun : between.run ", format: \"".toList =
      some ([.name "format", .punctuator ':'], quote) := by decide +kernel
  rw [Filter.valued, List.append_assoc, List.append_assoc]
  exact tokens_of_run hrun

end

/-- The kind of recording is a name of the language, if there is one. -/
def NamedKind (f : Filter) : Prop :=
  ∀ kind ∈ f.audioSourceKind, kind = "" ∨ isName kind = true

theorem NamedKind.normal {f : Filter} (h : NamedKind f) :
    ∀ kind ∈ f.normal.audioSourceKind, isName kind = true := by
  intro k hk
  obtain ⟨kind, hkind, hk⟩ := Option.bind_eq_some_iff.1 hk
  obtain rfl := Filter.nonEmpty?_eq_some hk
  obtain rfl | hname := h kind hkind
  · cases hk
  · exact hname

theorem tokens_separated {f : Filter} (hkind : NamedKind f) {cs : List Char} (hcs : EndsName cs) :
    between.tokens (Filter.separated f.clauses ++ cs) =
      (between.tokens (f.fromFormat ++ cs)).map (leadTokens f ++ ·) := by
  have hformat : EndsName (f.fromFormat ++ cs) := endsName_valued rfl hcs _
  have hkinds : EndsName (f.fromKind ++ cs) := by
    rw [Filter.fromKind, List.append_assoc]
    exact endsName_valued rfl hformat _
  have haudio : EndsName (f.fromAudio ++ cs) := by
    rw [Filter.fromAudio, List.append_assoc]
    exact endsName_flagged rfl hkinds _
  have hfeed : between.run ", feed: true".toList =
      some ([.name "feed", .punctuator ':'], name "eurt".toList) := by decide +kernel
  have hhasAudio : between.run ", hasAudio: true".toList =
      some ([.name "hasAudio", .punctuator ':'], name "eurt".toList) := by decide +kernel
  rw [Filter.separated_clauses, List.append_assoc, tokens_flagged hfeed haudio,
    Filter.fromAudio, List.append_assoc, tokens_flagged hhasAudio hkinds,
    Filter.fromKind, List.append_assoc, tokens_kind hkind.normal hformat]
  simp [leadTokens, Function.comp_def]

theorem tokens_text {f : Filter} (hkind : NamedKind f) (hne : f.clauses ≠ []) (cs : List Char) :
    between.tokens (f.text.toList ++ cs) =
      (between.tokens (f.fromFormat ++ '\x7d' :: cs)).map fun ts =>
        argument "filter" (.punctuator '\x7b' :: (leadTokens f ++ ts)) := by
  have hopening : between.run "filter: \x7b".toList =
      some ([.name "filter", .punctuator ':', .punctuator '\x7b'], between) := by decide +kernel
  -- A separator in front of the first restriction means nothing.
  have hcomma : Spells ", ".toList [] := spells_of_run rfl
  have hseparated : between.tokens ((", ".intercalate f.clauses).toList ++ '\x7d' :: cs) =
      between.tokens (Filter.separated f.clauses ++ '\x7d' :: cs) := by
    rw [Filter.separated_eq hne, List.append_assoc, hcomma]
    simp
  have hends : EndsName ('\x7d' :: cs) := ⟨'\x7d', cs, rfl, rfl⟩
  rw [Filter.text_of_some hne, String.toList_append, String.toList_append, List.append_assoc,
    List.append_assoc, tokens_of_run hopening]
  simp only [String.reduceToList, List.cons_append, List.nil_append]
  rw [hseparated, tokens_separated hkind hends, Option.map_map]
  rfl

theorem quoteless_closing : '"' ∉ '\x7d' :: closing.toList := by
  rw [toList_closing]
  decide +kernel

theorem tokens_braced_closing :
    between.tokens ('\x7d' :: closing.toList) = some (.punctuator '\x7d' :: tailTokens) := by
  rw [tokens_of_isPunctuator rfl rfl, tokens_closing]
  rfl

theorem search_tokens_of_no_format {f : Filter} (hkind : NamedKind f)
    (hformat : f.normal.format = none) : tokens (search f) = some (searchTokens f) := by
  rw [tokens_search, searchTokens_eq]
  by_cases h : f.clauses = []
  · have htokens : filterTokens f = [] := if_pos (List.isEmpty_iff.2 h)
    have htext : f.text.toList = [] := by simp [Filter.text_of_none h]
    rw [htokens, htext, List.nil_append, tokens_closing]
    rfl
  · have htokens : filterTokens f =
        argument "filter" (enclosed '\x7b' '\x7d' (leadTokens f)) := by
      simp [filterTokens, Filter.isEmpty, h, clauseTokens, formatTokens, hformat]
    have hnone : f.fromFormat = [] := by rw [Filter.fromFormat, hformat]; rfl
    rw [htokens, tokens_text hkind h, hnone, List.nil_append, tokens_braced_closing]
    simp [enclosed, argument]

theorem search_tokens_of_format {f : Filter} {format : String} (hkind : NamedKind f)
    (hformat : f.normal.format = some format) (hne : format ≠ "") :
    tokens (search f) = some (searchTokens f) ↔ ∀ c ∈ format.toList, isPlain c = true := by
  have h : f.clauses ≠ [] := by
    intro h
    rw [← Filter.clauses_normal] at h
    simp [Filter.clauses_eq_nil_iff, hformat, hne] at h
  have htokens : filterTokens f = argument "filter" (.punctuator '\x7b' ::
      (leadTokens f ++ (argument "format" [.string format] ++ [.punctuator '\x7d']))) := by
    simp [filterTokens, Filter.isEmpty, h, clauseTokens, formatTokens, hformat, enclosed]
  have hsome : f.fromFormat = Filter.valued ", format: \"" "\"" (some format) := by
    rw [Filter.fromFormat, hformat]
  rw [← tokens_quote_iff (by simpa using hne) quoteless_closing tokens_braced_closing,
    tokens_search, searchTokens_eq, tokens_text hkind h, hsome, tokens_format, htokens]
  simp [argument, String.ofList_toList]

/-- The query of a listing reads as it is meant to exactly if the format reads as it stands. -/
theorem search_tokens_iff (f : Filter) (hkind : NamedKind f) :
    tokens (search f) = some (searchTokens f) ↔
      ∀ format ∈ f.format, Without ['"', '\\', '\r', '\n'] format := by
  have hplain (c : Char) : isPlain c = true ↔ c ∉ ['"', '\\', '\r', '\n'] := by
    simp [isPlain, isLineEnd]; grind
  cases hformat : f.normal.format with
  | none =>
    refine iff_of_true (search_tokens_of_no_format hkind hformat) ?_
    obtain h | h : f.format = none ∨ f.format = some "" := by
      simpa using Filter.nonEmpty?_eq_none.1 hformat
    · simp [h]
    · simp [h, Without]
  | some format =>
    obtain ⟨s, hs, hnormal⟩ := Option.bind_eq_some_iff.1 hformat
    have hne : format ≠ "" := by
      rintro rfl
      rw [Filter.nonEmpty?] at hnormal
      split at hnormal <;> simp_all
    obtain rfl := Filter.nonEmpty?_eq_some hnormal
    rw [search_tokens_of_format hkind hformat hne, hs]
    simp only [hplain, Option.mem_some_iff, forall_eq', Without]

/-- A format that reads as it stands, and one with an escape for a letter. -/
theorem search_tokens_iff_escape :
    let f : Filter := { feed := true, audioSourceKind := some "podcast", format := some "dossier" }
    let g : Filter := { audioSourceKind := some "", format := some "d\\u006fssier" }
    NamedKind f ∧ tokens (search f) = some (searchTokens f) ∧
      NamedKind g ∧ tokens (search g) ≠ some (searchTokens g) := by
  intro f g
  have hf : NamedKind f := by
    rintro kind ⟨⟩
    exact .inr (by decide)
  have hg : NamedKind g := by
    rintro kind ⟨⟩
    exact .inl rfl
  refine ⟨hf, (search_tokens_iff f hf).2 ?_, hg, (not_congr (search_tokens_iff g hg)).2 ?_⟩
  · rintro format ⟨⟩
    decide
  · intro h
    have hformat : Without ['"', '\\', '\r', '\n'] "d\\u006fssier" := h _ rfl
    revert hformat
    decide

end Gazette.Query
