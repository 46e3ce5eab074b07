import Mathlib.Data.List.TakeWhile
import Gazette.Client.Basic
import Gazette.Proofs.Query.Tokens
import Gazette.Proofs.Text.Utf8

/-! # The variables that a query mentions

A text is looked through for the variable of the path letter by letter, so that a variable with a
longer name passes for it. What is taken as a query is told by the names that stand in it, and it is
the same for a text at hand and for one in a file. -/
namespace Gazette.DocumentQuery
open Gazette.Text Gazette.Query

/-- The names of the variables in a text: behind each dollar sign all letters up to what ends a
name. -/
def mentions : List Char → List (List Char)
  | [] => []
  | c :: cs => if c = '$' then cs.takeWhile isNameLetter :: mentions cs else mentions cs

/-- Somewhere in a text stands the variable of the path, and its name ends there. -/
def UsesPath (text : String) : Prop :=
  ∃ before after, text.toList = before ++ "$path".toList ++ after ∧
    ∀ c ∈ after.head?, isNameLetter c = false

/-- A text from a place of some name is refused for a reason. -/
def Refused (place reason : String) (result : Except Fault DocumentQuery) : Prop :=
  ∃ flaw, result = .error (.query place flaw) ∧ flaw.message = reason

/-- What a text from a place of some name comes to: a name that begins with that of the path is
enough for it to be taken. -/
structure Judged (place text : String) (result : Except Fault DocumentQuery) : Prop where
  total : result = .ok ⟨text⟩ ∨ Refused place "query is empty" result ∨
    Refused place "query does not use the $path variable" result
  taken : (∃ q, result = .ok q) ↔ ∃ name ∈ mentions text.toList, "path".toList <+: name
  blank : Refused place "query is empty" result ↔ ∀ c ∈ text.toList, isBlank c = true
  pathless : Refused place "query does not use the $path variable" result ↔
    (∃ c ∈ text.toList, isBlank c = false) ∧
      ∀ name ∈ mentions text.toList, ¬ "path".toList <+: name

section
variable {p : Char → Bool} {word name cs : List Char}

theorem mem_mentions_iff : name ∈ mentions cs ↔
    ∃ before rest, cs = before ++ '$' :: rest ∧ rest.takeWhile isNameLetter = name := by
  induction cs with
  | nil => simp [mentions]
  | cons c cs ih =>
    have hsplit : (∃ before rest, c :: cs = before ++ '$' :: rest ∧
        rest.takeWhile isNameLetter = name) ↔
          (c = '$' ∧ cs.takeWhile isNameLetter = name) ∨ name ∈ mentions cs := by
      rw [ih]
      constructor
      · rintro ⟨before, rest, heq, hname⟩
        rcases List.cons_eq_append_iff.1 heq with ⟨-, hhere⟩ | ⟨before, -, hbelow⟩
        · cases hhere
          exact .inl ⟨rfl, hname⟩
        · exact .inr ⟨before, rest, hbelow, hname⟩
      · rintro (⟨rfl, hname⟩ | ⟨before, rest, rfl, hname⟩)
        · exact ⟨[], cs, rfl, hname⟩
        · exact ⟨c :: before, rest, rfl, hname⟩
    rw [hsplit, mentions]
    by_cases hc : c = '$' <;> simp [hc, eq_comm]

theorem prefix_takeWhile_iff (h : ∀ c ∈ word, p c = true) :
    word <+: cs.takeWhile p ↔ word <+: cs := by
  constructor
  · exact fun hprefix => hprefix.trans (List.takeWhile_prefix p)
  · rintro ⟨rest, rfl⟩
    rw [List.takeWhile_append_of_pos h]
    exact List.prefix_append ..

theorem takeWhile_eq_iff (h : ∀ c ∈ word, p c = true) : cs.takeWhile p = word ↔
    ∃ after, cs = word ++ after ∧ ∀ c ∈ after.head?, p c = false := by
  constructor
  · rintro rfl
    refine ⟨cs.dropWhile p, List.takeWhile_append_dropWhile.symm, ?_⟩
    intro c hc
    have hends := List.head?_dropWhile_not p cs
    rwa [hc] at hends
  · rintro ⟨after, rfl, hafter⟩
    rw [List.takeWhile_append_of_pos h]
    cases after with
    | nil => simp
    | cons c after => simp [hafter c rfl]

end

theorem path_letters : ∀ c ∈ "path".toList, isNameLetter c = true :=
  List.all_eq_true.1 (by decide)

/-- The variable stands somewhere, whatever follows it, if some name begins with that of the
path. -/
theorem occurs_path_iff {cs : List Char} : occurs "$path".toList cs = true ↔
    ∃ name ∈ mentions cs, "path".toList <+: name := by
  rw [occurs_iff]
  constructor
  · rintro ⟨before, after, rfl⟩
    have hprefix : "path".toList <+: ("path".toList ++ after).takeWhile isNameLetter :=
      (prefix_takeWhile_iff path_letters).2 (List.prefix_append ..)
    exact ⟨_, mem_mentions_iff.2 ⟨before, "path".toList ++ after, by simp, rfl⟩, hprefix⟩
  · rintro ⟨name, hmem, hname⟩
    obtain ⟨before, rest, rfl, rfl⟩ := mem_mentions_iff.1 hmem
    obtain ⟨after, rfl⟩ := (prefix_takeWhile_iff path_letters).1 hname
    exact ⟨before, after, by simp⟩

theorem usesPath_iff {text : String} : UsesPath text ↔ "path".toList ∈ mentions text.toList := by
  rw [mem_mentions_iff]
  constructor
  · rintro ⟨before, after, heq, hafter⟩
    have hname := (takeWhile_eq_iff path_letters).2 ⟨after, rfl, hafter⟩
    exact ⟨before, "path".toList ++ after, by simp [heq], hname⟩
  · rintro ⟨before, rest, heq, hname⟩
    obtain ⟨after, rfl, hafter⟩ := (takeWhile_eq_iff path_letters).1 hname
    exact ⟨before, after, by simp [heq], hafter⟩

theorem visible_of_mention {text : String} {name : List Char}
    (h : name ∈ mentions text.toList) : ∃ c ∈ text.toList, isBlank c = false := by
  obtain ⟨before, rest, heq, -⟩ := mem_mentions_iff.1 h
  exact ⟨'$', by simp [heq], by decide⟩

theorem refused_error_iff {place reason : String} {flaw : QueryFlaw} :
    Refused place reason (.error (.query place flaw)) ↔ flaw.message = reason := by
  simp [Refused]

theorem not_refused_ok {place reason : String} {q : DocumentQuery} :
    ¬ Refused place reason (.ok q) := by
  simp [Refused]

theorem judged_ofText (place text : String) :
    Judged place text ((ofText text).mapError (.query place)) := by
  have hblank : allBlank text = true ↔ ∀ c ∈ text.toList, isBlank c = true := List.all_eq_true
  have hvisible : ¬ allBlank text = true ↔ ∃ c ∈ text.toList, isBlank c = false := by
    simp [hblank]
  rw [ofText]
  by_cases hb : allBlank text = true
  · have hnone (name : List Char) : name ∉ mentions text.toList :=
      fun hmem => hvisible.2 (visible_of_mention hmem) hb
    rw [if_pos hb]
    constructor
    case total => exact .inr (.inl ⟨.blank, rfl, rfl⟩)
    case taken => simp [hnone, Except.mapError]
    case blank => exact iff_of_true ⟨.blank, rfl, rfl⟩ (hblank.1 hb)
    case pathless =>
      refine iff_of_false ?_ (fun h => hvisible.2 h.1 hb)
      exact fun h => absurd (refused_error_iff.1 h) (by decide)
  · rw [if_neg hb]
    by_cases hp : occurs "$path".toList text.toList = true
    · rw [if_pos hp]
      have hmention := occurs_path_iff.1 hp
      constructor
      case total => exact .inl rfl
      case taken => exact iff_of_true ⟨⟨text⟩, rfl⟩ hmention
      case blank => exact iff_of_false not_refused_ok fun h => hb (hblank.2 h)
      case pathless =>
        obtain ⟨name, hmem, hname⟩ := hmention
        exact iff_of_false not_refused_ok fun h => h.2 name hmem hname
    · rw [if_neg hp]
      have hnone := mt occurs_path_iff.2 hp
      constructor
      case total => exact .inr (.inr ⟨.noPath, rfl, rfl⟩)
      case taken => exact iff_of_false (fun ⟨q, hq⟩ => by cases hq) hnone
      case blank =>
        refine iff_of_false ?_ fun h => hb (hblank.2 h)
        exact fun h => absurd (refused_error_iff.1 h) (by decide)
      case pathless =>
        refine iff_of_true ⟨.noPath, rfl, rfl⟩ ⟨hvisible.1 hb, ?_⟩
        exact fun name hmem hname => hnone ⟨name, hmem, hname⟩

theorem ofFile_encode (path text : String) : (ofFile path (.bytes (Utf8.encode text.toList))).1 =
    (ofText text).mapError (.query path) := by
  simp [ofFile, File.text, Utf8.strict?_encode]

/-- A text is taken as it stands if and only if a name in it begins with that of the path, and else
refused, as blank or for want of the variable; a file with the text is judged alike, under its own
name. The judgement is right about the use of the variable unless only longer names begin so. -/
theorem taken_iff_mention (text : String) :
    Judged "<inline>" text (inline text) ∧
    (∀ path, Judged path text (ofFile path (.bytes (Utf8.encode text.toList))).1) ∧
    (UsesPath text ↔ "path".toList ∈ mentions text.toList) ∧
    (((∃ q, inline text = .ok q) ↔ UsesPath text) ↔
      ("path".toList ∈ mentions text.toList ∨
        ∀ name ∈ mentions text.toList, ¬ "path".toList <+: name)) := by
  have hinline : Judged "<inline>" text (inline text) := judged_ofText inlineName text
  refine ⟨hinline, ?_, usesPath_iff, ?_⟩
  · intro path
    rw [ofFile_encode]
    exact judged_ofText path text
  · rw [hinline.taken, usesPath_iff]
    constructor
    · intro hsame
      by_cases h : "path".toList ∈ mentions text.toList
      · exact .inl h
      · exact .inr fun name hmem hname => h (hsame.1 ⟨name, hmem, hname⟩)
    · rintro (h | h)
      · exact iff_of_true ⟨_, h, List.prefix_rfl⟩ h
      · exact iff_of_false (fun ⟨name, hmem, hname⟩ => h name hmem hname)
          fun hmem => h _ hmem List.prefix_rfl

/-- A query with a longer name beside that of the path. -/
theorem taken_iff_mention_beside :
    let text := "query ($path: String!, $pathology: Int) \x7b id(path: $path, n: $pathology) \x7d"
    Judged "<inline>" text (inline text) ∧
      Judged "a.gql" text (ofFile "a.gql" (.bytes (Utf8.encode text.toList))).1 ∧
      UsesPath text ∧ ∃ q, inline text = .ok q := by
  intro text
  have huses : UsesPath text := usesPath_iff.2 (by decide)
  obtain ⟨hinline, hfile, hname, hright⟩ := taken_iff_mention text
  exact ⟨hinline, hfile "a.gql", huses, (hright.2 (.inl (hname.1 huses))).2 huses⟩

/-- A longer name is enough for a query that has no use for the path. -/
theorem longer_name_taken :
    let text := "query ($pathology: String!) \x7b article: document(path: $pathology) \x7d"
    inline text = .ok ⟨text⟩ ∧ ¬ UsesPath text := by
  intro text
  have hvisible : allBlank text = false := by decide
  have hoccurs : occurs "$path".toList text.toList = true := by decide
  constructor
  · rw [inline, ofText, hvisible, hoccurs]
    rfl
  · rw [usesPath_iff]
    decide

end Gazette.DocumentQuery
