import Gazette.Json.Draft
import Gazette.Proofs.Tree.Traversal
import Gazette.Text.Basic

/-! # The tokens of a query

The lexical rules of GraphQL, one character after the other. A number, a name and an empty string
end where the character after them says so; every other token ends with its own last character. -/
namespace Gazette.Query
open Gazette.Text

inductive Token where
  | punctuator (c : Char)
  | spread
  | name (letters : String)
  | number (numeral : String)
  /-- A quoted text or a block, by what it stands for. -/
  | string (value : String)
  deriving DecidableEq, Repr

def isLineEnd (c : Char) : Bool := c = '\n' || c = '\r'

/-- What may stand between tokens and means nothing. -/
def isIgnored (c : Char) : Bool :=
  isLineEnd c || c = ' ' || c = '\t' || c = ',' || c = '\ufeff'

def isPunctuator (c : Char) : Bool := c ∈ "!$&():=@[]\x7b|\x7d".toList

def isNameStart (c : Char) : Bool := c.isAlpha || c = '_'

def isNameLetter (c : Char) : Bool := c.isAlphanum || c = '_'

def isName (s : String) : Bool :=
  match s.toList with
  | [] => false
  | c :: cs => isNameStart c && cs.all isNameLetter

/-! ## Escapes and blocks -/

/-- An escape under way, behind its backslash. -/
inductive Escape where
  | letter
  | opened
  /-- Some of four digits, behind the first half of a surrogate pair or not. -/
  | digits (high : Option Nat) (count value : Nat)
  /-- Digits between braces, if there is one yet. -/
  | braced (value : Option Nat)
  | slash (high : Nat)
  | pair (high : Nat)
  deriving DecidableEq

def scalar? (n : Nat) : Option Char := if n.isValidChar then some (Char.ofNat n) else none

/-- The escape with one more character, or the character it stands for. -/
def Escape.step : Escape → Char → Option (Escape ⊕ Char)
  | .letter, c => if c = 'u' then some (.inl .opened) else (Json.Draft.plainEscape? c).map .inr
  | .opened, c =>
    if c = '{' then some (.inl (.braced none))
    else (hexValue? c).map fun d => .inl (.digits none 1 d)
  | .digits high count value, c => do
    let n := 16 * value + (← hexValue? c)
    if count < 3 then some (.inl (.digits high (count + 1) n))
    else match high with
      | none => if 0xd800 ≤ n ∧ n ≤ 0xdbff then some (.inl (.slash n)) else (scalar? n).map .inr
      | some high =>
        if 0xdc00 ≤ n ∧ n ≤ 0xdfff then
          (scalar? ((high - 0xd800) * 0x400 + (n - 0xdc00) + 0x10000)).map .inr
        else none
  | .braced value, c =>
    if c = '}' then (value.bind scalar?).map .inr
    else (hexValue? c).map fun d => .inl (.braced (some (16 * value.getD 0 + d)))
  | .slash high, c => if c = '\\' then some (.inl (.pair high)) else none
  | .pair high, c => if c = 'u' then some (.inl (.digits (some high) 0 0)) else none

/-- A text whose lines all end the same way. -/
def oneLineEnd : List Char → List Char
  | '\r' :: '\n' :: cs => '\n' :: oneLineEnd cs
  | '\r' :: cs => '\n' :: oneLineEnd cs
  | c :: cs => c :: oneLineEnd cs
  | [] => []

def isIndent (c : Char) : Bool := c = ' ' || c = '\t'

/-- How far a line is indented, unless nothing stands in it. -/
def indent? (line : List Char) : Option Nat :=
  if line.all isIndent then none else some (line.takeWhile isIndent).length

/-- The lines without what indents all of them but the first, which stands behind the quotes. -/
def outdented : List (List Char) → List (List Char)
  | [] => []
  | l :: ls => l :: ls.map (List.drop ((ls.filterMap indent?).min?.getD 0))

/-- The lines from the first one to the last one in which something stands. -/
def trimmed (ls : List (List Char)) : List (List Char) :=
  ((ls.dropWhile (·.all isIndent)).reverse.dropWhile (·.all isIndent)).reverse

/-- What a block stands for. -/
def blockValue (cs : List Char) : List Char :=
  ['\n'].intercalate (trimmed (outdented (fields (· = '\n') (oneLineEnd cs))))

/-! ## The reading of a query -/

/-- What has been read of a token. Its characters are kept in reverse. -/
inductive State where
  | between
  | comment
  | name (seen : List Char)
  | number (seen : List Char)
  | dot
  | dots
  | quote
  | quotes
  | string (seen : List Char) (escape : Option Escape)
  /-- The quotes just read may close the block, and a backslash in front of three escapes them. -/
  | block (seen : List Char) (slash : Bool) (marks : Nat)
  deriving DecidableEq

def named (seen : List Char) : Token := .name (String.ofList seen.reverse)

/-- Numbers are those of JSON. -/
def numbered? (seen : List Char) : Option Token :=
  match Json.Numeral.take seen.reverse with
  | .ok (_, []) => some (.number (String.ofList seen.reverse))
  | _ => none

/-- Whether the number goes on: behind it no letter, digit or point begins another token. -/
def continues (seen : List Char) (c : Char) : Bool :=
  isNameLetter c || c = '.' ||
    ((c = '+' || c = '-') && seen.head?.any (fun e => e = 'e' || e = 'E'))

/-- The characters of a block, with the quotes that have not closed it. -/
def pending (seen : List Char) (slash : Bool) (marks : Nat) : List Char :=
  List.replicate marks '"' ++ ((if slash then ['\\'] else []) ++ seen)

/-- The first character of a token. -/
def first (c : Char) : Option State :=
  if isNameStart c then some (.name [c])
  else if c.isDigit || c = '-' then some (.number [c])
  else if c = '#' then some .comment
  else if c = '.' then some .dot
  else if c = '"' then some .quote
  else none

namespace State

def start (c : Char) : Option (List Token × State) :=
  if isIgnored c then some ([], between)
  else if isPunctuator c then some ([.punctuator c], between)
  else (first c).map ([], ·)

/-- A character that ends the token in front of it. -/
def after (t : Token) (c : Char) : Option (List Token × State) :=
  (start c).map fun (ts, s) => (t :: ts, s)

def stringStep (seen : List Char) (c : Char) : Option (List Token × State) :=
  if c = '"' then some ([.string (String.ofList seen.reverse)], between)
  else if c = '\\' then some ([], string seen (some .letter))
  else if isLineEnd c then none
  else some ([], string (c :: seen) none)

def blockStep (seen : List Char) (slash : Bool) (marks : Nat) (c : Char) : List Token × State :=
  if c = '"' then
    if marks < 2 then ([], block seen slash (marks + 1))
    else if slash then ([], block ('"' :: '"' :: '"' :: seen) false 0)
    else ([.string (String.ofList (blockValue seen.reverse))], between)
  else if c = '\\' then ([], block (pending seen slash marks) true 0)
  else ([], block (c :: pending seen slash marks) false 0)

/-- The tokens that end with a character, and what has been read of the next one. -/
def step : State → Char → Option (List Token × State)
  | between, c => start c
  | comment, c => some ([], if isLineEnd c then between else comment)
  | name seen, c => if isNameLetter c then some ([], name (c :: seen)) else after (named seen) c
  | number seen, c =>
    if continues seen c then some ([], number (c :: seen))
    else (numbered? seen).bind fun t => after t c
  | dot, c => if c = '.' then some ([], dots) else none
  | dots, c => if c = '.' then some ([.spread], between) else none
  | quote, c => if c = '"' then some ([], quotes) else stringStep [] c
  | quotes, c => if c = '"' then some ([], block [] false 0) else after (.string "") c
  | string seen none, c => stringStep seen c
  | string seen (some e), c =>
    (e.step c).map fun
      | .inl e => ([], string seen (some e))
      | .inr d => ([], string (d :: seen) none)
  | block seen slash marks, c => some (blockStep seen slash marks c)

/-- The token that ends with the text. -/
def finish : State → Option (List Token)
  | between | comment => some []
  | name seen => some [named seen]
  | number seen => (numbered? seen).map ([·])
  | quotes => some [.string ""]
  | dot | dots | quote | string .. | block .. => none

def tokens (s : State) : List Char → Option (List Token)
  | [] => s.finish
  | c :: cs => do
    let (ts, s) ← s.step c
    (s.tokens cs).map (ts ++ ·)

/-- The tokens that end within a text, and what has been read of the next one. -/
def run (s : State) : List Char → Option (List Token × State)
  | [] => some ([], s)
  | c :: cs => do
    let (ts, s) ← s.step c
    (s.run cs).map fun (us, s) => (ts ++ us, s)

end State

/-- The tokens of a text, if it has no other parts. -/
def tokens (text : String) : Option (List Token) := State.between.tokens text.toList

namespace State
variable {c : Char} {cs ds seen : List Char} {t : Token} {ts us : List Token} {s s' : State}

theorem tokens_cons : s.tokens (c :: cs) =
    (s.step c).bind fun (ts, s') => (s'.tokens cs).map (ts ++ ·) := rfl

theorem tokens_of_step (h : s.step c = some ([], s')) : s.tokens (c :: cs) = s'.tokens cs := by
  simp [tokens_cons, h]

theorem tokens_of_emit (h : s.step c = some ([t], s')) :
    s.tokens (c :: cs) = (s'.tokens cs).map (t :: ·) := by
  simp [tokens_cons, h]

theorem tokens_of_run (h : s.run cs = some (ts, s')) :
    s.tokens (cs ++ ds) = (s'.tokens ds).map (ts ++ ·) := by
  induction cs generalizing s ts with
  | nil =>
    obtain ⟨rfl, rfl⟩ : [] = ts ∧ s = s' := by simpa [run] using h
    simp
  | cons c cs ih =>
    simp only [run, Option.bind_eq_bind, Option.bind_eq_some_iff, Option.map_eq_some_iff,
      Prod.exists, Prod.mk.injEq] at h
    obtain ⟨us, u, hstep, vs, v, hrun, rfl, rfl⟩ := h
    simp [tokens_cons, hstep, ih hrun, Function.comp_def]

/-- A character that ends a token is read like one that stands alone. -/
theorem tokens_of_after (h : s.step c = after t c) :
    s.tokens (c :: cs) = (between.tokens (c :: cs)).map (t :: ·) := by
  have hstart : between.step c = start c := rfl
  rw [tokens_cons, tokens_cons, h, hstart, after]
  cases start c <;> simp [Function.comp_def]

theorem tokens_of_isPunctuator (hi : isIgnored c = false) (h : isPunctuator c = true) :
    between.tokens (c :: cs) = (between.tokens cs).map (.punctuator c :: ·) :=
  tokens_of_emit (by simp [step, start, hi, h])

theorem tokens_name (hcs : ∀ d ∈ cs, isNameLetter d = true) (hc : isNameLetter c = false) :
    (name seen).tokens (cs ++ c :: ds) =
      (between.tokens (c :: ds)).map (named (cs.reverse ++ seen) :: ·) := by
  induction cs generalizing seen with
  | nil => exact tokens_of_after (by simp [step, hc])
  | cons d cs ih =>
    have hstep : (name seen).step d = some ([], name (d :: seen)) := by
      simp [step, hcs d List.mem_cons_self]
    rw [List.cons_append, tokens_of_step hstep, ih fun e he => hcs e (List.mem_cons_of_mem d he)]
    simp

theorem not_isIgnored_of_isNameStart (h : isNameStart c = true) : isIgnored c = false := by
  rw [Bool.eq_false_iff]
  intro hc
  simp only [isIgnored, isLineEnd, Bool.or_eq_true, decide_eq_true_eq] at hc
  rcases hc with ((((rfl | rfl) | rfl) | rfl) | rfl) | rfl <;> cases h

theorem not_isPunctuator_of_isNameStart (h : isNameStart c = true) : isPunctuator c = false := by
  rw [Bool.eq_false_iff]
  intro hc
  simp only [isPunctuator, decide_eq_true_eq] at hc
  have hnone : "!$&():=@[]\x7b|\x7d".toList.any isNameStart = false := by decide
  exact Bool.eq_false_iff.1 hnone (List.any_eq_true.2 ⟨c, hc, h⟩)

theorem step_of_isNameStart (h : isNameStart c = true) :
    between.step c = some ([], name [c]) := by
  simp [step, start, not_isIgnored_of_isNameStart h, not_isPunctuator_of_isNameStart h, first, h]

theorem tokens_isName {word : String} (h : isName word = true) (hc : isNameLetter c = false) :
    between.tokens (word.toList ++ c :: ds) =
      (between.tokens (c :: ds)).map (.name word :: ·) := by
  have hword : String.ofList word.toList = word := String.ofList_toList
  revert h hword
  rw [isName]
  cases word.toList with
  | nil => simp
  | cons d cs =>
    rintro h rfl
    obtain ⟨hd, hcs⟩ := Bool.and_eq_true_iff.1 h
    rw [List.cons_append, tokens_of_step (step_of_isNameStart hd),
      tokens_name (List.all_eq_true.1 hcs) hc]
    simp [named]

/-! ## Texts between quotes -/

/-- What stands between quotes for itself. -/
def isPlain (c : Char) : Bool := c ≠ '"' && c ≠ '\\' && !isLineEnd c

theorem step_of_isPlain (h : isPlain c = true) :
    (string seen none).step c = some ([], string (c :: seen) none) := by
  simp_all [step, stringStep, isPlain]

theorem tokens_string (hcs : ∀ d ∈ cs, isPlain d = true) :
    (string seen none).tokens (cs ++ '"' :: ds) =
      (between.tokens ds).map (.string (String.ofList (seen.reverse ++ cs)) :: ·) := by
  induction cs generalizing seen with
  | nil =>
    rw [List.nil_append, List.append_nil]
    exact tokens_of_emit rfl
  | cons d cs ih =>
    rw [List.cons_append, tokens_of_step (step_of_isPlain (hcs d List.mem_cons_self)),
      ih fun e he => hcs e (List.mem_cons_of_mem d he), List.reverse_cons, List.append_assoc,
      List.singleton_append]

/-- A text between quotes that is read as it stands. -/
theorem tokens_quoted {text : List Char} (hne : text ≠ [])
    (h : ∀ c ∈ text, isPlain c = true) : quote.tokens (text ++ '"' :: ds) =
      (between.tokens ds).map (.string (String.ofList text) :: ·) := by
  obtain ⟨c, text, rfl⟩ := List.exists_cons_of_ne_nil hne
  have hc : isPlain c = true := h c List.mem_cons_self
  have hquote : c ≠ '"' := by rintro rfl; cases hc
  have hstep : quote.step c = (string [] none).step c := by simp [step, hquote]
  rw [List.cons_append, tokens_cons, hstep, ← tokens_cons]
  exact tokens_string h

/-- The text goes on to another quote, and what stands in front of that is one token. -/
def EndsAtQuote (P : List Char → List Char → Prop) (cs : List Char) (ts : List Token) : Prop :=
  ∃ inside rest us value, cs = inside ++ '"' :: rest ∧
    ts = .string (String.ofList value) :: us ∧ P inside value

theorem endsAtQuote_here {P : List Char → List Char → Prop} {value : List Char}
    (h : P [] value) : EndsAtQuote P ('"' :: cs) (.string (String.ofList value) :: us) :=
  ⟨[], cs, us, value, rfl, rfl, h⟩

theorem EndsAtQuote.cons {P Q : List Char → List Char → Prop} (h : EndsAtQuote P cs ts)
    (hPQ : ∀ inside value, P inside value → Q (c :: inside) value) :
    EndsAtQuote Q (c :: cs) ts := by
  obtain ⟨inside, rest, us, value, hcs, hts, hvalue⟩ := h
  exact ⟨c :: inside, rest, us, value, by simp [hcs], hts, hPQ inside value hvalue⟩

/-- The token is as long as what it stands for only if every character of that stands for itself. -/
def Exact (seen inside value : List Char) : Prop :=
  (∀ c ∈ inside, isPlain c = true) ∧ value = seen.reverse ++ inside ∨
    value.length < seen.length + inside.length

/-- Some character in front of the text or in it does not stand for itself. -/
def Short (bound : Nat) (inside value : List Char) : Prop := value.length ≤ bound + inside.length

theorem Short.cons {bound bound' : Nat} {inside value : List Char} (hb : bound' ≤ bound + 1)
    (h : Short bound' inside value) : Short bound (c :: inside) value := by
  simp only [Short, List.length_cons] at h ⊢
  omega

theorem Exact.short {inside value : List Char} (h : Exact seen inside value) :
    Short seen.length inside value := by
  obtain ⟨-, rfl⟩ | hlt := h
  · simp [Short]
  · exact Nat.le_of_lt hlt

theorem Exact.cons {inside value : List Char} (hc : isPlain c = true)
    (h : Exact (c :: seen) inside value) : Exact seen (c :: inside) value := by
  obtain ⟨hplain, rfl⟩ | hlt := h
  · exact .inl ⟨List.forall_mem_cons.2 ⟨hc, hplain⟩, by simp⟩
  · exact .inr (by simp only [List.length_cons] at hlt ⊢; omega)

/-- A character that counts for nothing. -/
theorem Short.exact {inside value : List Char} (h : Short seen.length inside value) :
    Exact seen (c :: inside) value := by
  simp only [Short] at h
  exact .inr (by simp only [List.length_cons]; omega)

theorem string_cases (seen : List Char) (c : Char) :
    c = '"' ∨ c = '\\' ∨ isPlain c = true ∨ (string seen none).step c = none := by
  by_cases hquote : c = '"'
  · exact .inl hquote
  by_cases hslash : c = '\\'
  · exact .inr (.inl hslash)
  cases hline : isLineEnd c with
  | false => exact .inr (.inr (.inl (by simp [isPlain, hquote, hslash, hline])))
  | true => exact .inr (.inr (.inr (by simp [step, stringStep, hquote, hslash, hline])))

/-- By induction on the text, both from between two characters of it and from within an escape. -/
theorem endsAtQuote_of_string (cs : List Char) :
    (∀ seen ts, (string seen none).tokens cs = some ts → EndsAtQuote (Exact seen) cs ts) ∧
    ∀ seen e ts, (string seen (some e)).tokens cs = some ts →
      EndsAtQuote (Short seen.length) cs ts := by
  induction cs with
  | nil => simp [tokens, finish]
  | cons c cs ih =>
    obtain ⟨hplain, hescaped⟩ := ih
    constructor
    · intro seen ts h
      obtain rfl | rfl | hc | hc := string_cases seen c
      · rw [tokens_of_emit rfl, Option.map_eq_some_iff] at h
        obtain ⟨us, -, rfl⟩ := h
        exact endsAtQuote_here (.inl (by simp))
      · rw [tokens_of_step rfl] at h
        exact (hescaped seen .letter ts h).cons fun _ _ => Short.exact
      · rw [tokens_of_step (step_of_isPlain hc)] at h
        exact (hplain (c :: seen) ts h).cons fun _ _ => Exact.cons hc
      · simp [tokens_cons, hc] at h
    · intro seen e ts h
      match he : e.step c with
      | none => simp [tokens_cons, step, he] at h
      | some (.inl e') =>
        have hstep : (string seen (some e)).step c = some ([], string seen (some e')) := by
          simp [step, he]
        rw [tokens_of_step hstep] at h
        exact (hescaped seen e' ts h).cons fun _ _ => Short.cons (by omega)
      | some (.inr d) =>
        have hstep : (string seen (some e)).step c = some ([], string (d :: seen) none) := by
          simp [step, he]
        rw [tokens_of_step hstep] at h
        exact (hplain (d :: seen) ts h).cons fun _ _ hexact => hexact.short.cons (by simp)

/-! ## Blocks -/

theorem length_oneLineEnd_le (cs : List Char) : (oneLineEnd cs).length ≤ cs.length := by
  fun_induction oneLineEnd cs <;> simp <;> omega

/-- The length of the text that the lines come from, with an end for each. -/
def extent : List (List Char) → Nat
  | [] => 0
  | l :: ls => l.length + 1 + extent ls

theorem extent_fields (isMark : Char → Bool) (cs : List Char) :
    extent (fields isMark cs) = cs.length + 1 := by
  induction cs with
  | nil => rfl
  | cons c cs ih =>
    rw [fields]
    split
    · simp [extent, ih]; omega
    · split
      · rename_i h; exact absurd h (fields_ne_nil isMark cs)
      · rename_i h
        rw [h, extent] at ih
        simp only [extent, List.length_cons]
        omega

theorem extent_drop_le (n : Nat) (ls : List (List Char)) :
    extent (ls.map (List.drop n)) ≤ extent ls := by
  induction ls with
  | nil => exact Nat.le_refl 0
  | cons l ls ih => simp only [List.map_cons, extent, List.length_drop]; omega

theorem extent_outdented_le (ls : List (List Char)) : extent (outdented ls) ≤ extent ls := by
  cases ls with
  | nil => exact Nat.le_refl 0
  | cons l ls => exact Nat.add_le_add_left (extent_drop_le _ ls) _

theorem extent_le_of_sublist {ls ms : List (List Char)} (h : ls.Sublist ms) :
    extent ls ≤ extent ms := by
  induction h with
  | slnil => exact Nat.le_refl 0
  | cons l h ih => exact Nat.le_add_left_of_le ih
  | cons_cons l h ih => exact Nat.add_le_add_left ih _

theorem trimmed_sublist (ls : List (List Char)) : (trimmed ls).Sublist ls := by
  have hback := (List.dropWhile_sublist (l := (ls.dropWhile (·.all isIndent)).reverse)
    (·.all isIndent)).reverse
  rw [List.reverse_reverse] at hback
  exact hback.trans (List.dropWhile_sublist _)

theorem length_intercalate_le (ls : List (List Char)) :
    (['\n'].intercalate ls).length ≤ extent ls - 1 := by
  induction ls with
  | nil => exact Nat.le_refl 0
  | cons l ls ih =>
    cases ls with
    | nil => simp [extent]
    | cons m ms =>
      rw [List.intercalate_cons_cons]
      simp only [extent, List.length_append, List.length_singleton] at ih ⊢
      omega

theorem length_blockValue_le (cs : List Char) : (blockValue cs).length ≤ cs.length := by
  let ls := fields (· = '\n') (oneLineEnd cs)
  have hjoined : (blockValue cs).length ≤ extent (trimmed (outdented ls)) - 1 :=
    length_intercalate_le _
  have htrimmed : extent (trimmed (outdented ls)) ≤ extent (outdented ls) :=
    extent_le_of_sublist (trimmed_sublist _)
  have houtdented : extent (outdented ls) ≤ extent ls := extent_outdented_le ls
  have hlines : extent ls = (oneLineEnd cs).length + 1 := extent_fields _ _
  have hends := length_oneLineEnd_le cs
  omega

theorem length_pending (seen : List Char) (slash : Bool) (marks : Nat) :
    (pending seen slash marks).length = marks + ((if slash then 1 else 0) + seen.length) := by
  cases slash <;> simp [pending]; omega

/-- A character closes the block, or goes to what it holds. -/
theorem step_block (seen : List Char) (slash : Bool) (marks : Nat) (c : Char) :
    (c = '"' ∧ (block seen slash marks).step c =
      some ([.string (String.ofList (blockValue seen.reverse))], between)) ∨
    ∃ seen' slash' marks', (block seen slash marks).step c = some ([], block seen' slash' marks') ∧
      (pending seen' slash' marks').length ≤ (pending seen slash marks).length + 1 := by
  simp only [step, blockStep]
  by_cases hquote : c = '"'
  · by_cases hmarks : marks < 2
    · exact .inr ⟨seen, slash, marks + 1, by simp [hquote, hmarks],
        by simp only [length_pending]; omega⟩
    · cases slash with
      | true =>
        exact .inr ⟨'"' :: '"' :: '"' :: seen, false, 0, by simp [hquote, hmarks],
          by simp [length_pending]; omega⟩
      | false => exact .inl ⟨hquote, by simp [hquote, hmarks]⟩
  · by_cases hslash : c = '\\'
    · exact .inr ⟨pending seen slash marks, true, 0, by simp [hslash], by simp [pending]⟩
    · exact .inr ⟨c :: pending seen slash marks, false, 0, by simp [hquote, hslash],
        by simp [pending]⟩

theorem endsAtQuote_of_block {slash : Bool} {marks : Nat}
    (h : (block seen slash marks).tokens cs = some ts) :
    EndsAtQuote (Short (pending seen slash marks).length) cs ts := by
  induction cs generalizing seen slash marks ts with
  | nil => simp [tokens, finish] at h
  | cons c cs ih =>
    obtain ⟨rfl, hstep⟩ | ⟨seen', slash', marks', hstep, hlength⟩ := step_block seen slash marks c
    · rw [tokens_of_emit hstep, Option.map_eq_some_iff] at h
      obtain ⟨us, -, rfl⟩ := h
      have hvalue := length_blockValue_le seen.reverse
      rw [List.length_reverse] at hvalue
      exact endsAtQuote_here (by rw [Short, length_pending]; omega)
    · rw [tokens_of_step hstep] at h
      exact (ih h).cons fun _ _ => Short.cons hlength

/-- Behind an opening quote. Where two more follow, they are part of what the block closes. -/
theorem endsAtQuote_of_quote (h : quote.tokens cs = some ts) : EndsAtQuote (Exact []) cs ts := by
  cases cs with
  | nil => simp [tokens, finish] at h
  | cons c cs =>
    by_cases hc : c = '"'
    · subst hc
      rw [tokens_of_step rfl] at h
      cases cs with
      | nil =>
        simp only [tokens, finish, Option.some.injEq] at h
        exact h ▸ endsAtQuote_here (.inl (by simp))
      | cons d cs =>
        by_cases hd : d = '"'
        · subst hd
          rw [tokens_of_step rfl] at h
          have hblock : EndsAtQuote (Short ([] : List Char).length) ('"' :: cs) ts :=
            (endsAtQuote_of_block h).cons fun _ _ => Short.cons (by simp [pending])
          exact hblock.cons fun _ _ => Short.exact
        · have hstep : quotes.step d = after (.string "") d := by simp [step, hd]
          rw [tokens_of_after hstep, Option.map_eq_some_iff] at h
          obtain ⟨us, -, rfl⟩ := h
          exact endsAtQuote_here (.inl (by simp))
    · have hstep : quote.tokens (c :: cs) = (string [] none).tokens (c :: cs) := by
        simp [tokens_cons, step, hc]
      exact (endsAtQuote_of_string (c :: cs)).1 [] ts (hstep ▸ h)

/-- If no other quote follows, a text between quotes is read as it stands exactly if every character
of it is. -/
theorem tokens_quote_iff {text rest : List Char} (hne : text ≠ []) (hrest : '"' ∉ rest)
    (hts : between.tokens rest = some ts) :
    quote.tokens (text ++ '"' :: rest) = some (.string (String.ofList text) :: ts) ↔
      ∀ c ∈ text, isPlain c = true := by
  constructor
  · intro h
    obtain ⟨inside, rest', us, v, hcs, htoken, hv⟩ := endsAtQuote_of_quote h
    have heq : text = v := by
      simpa [String.ofList_inj] using (List.cons.inj htoken).1
    -- No quote comes later, so what is inside ends with the text or before.
    have hlength : inside.length ≤ text.length := by
      obtain ⟨more, rfl, hmore⟩ | ⟨more, rfl, -⟩ := List.append_eq_append_iff.1 hcs
      · cases more with
        | nil => simp
        | cons c more =>
          rw [List.cons_append, List.cons.injEq] at hmore
          simp [hmore.2] at hrest
      · simp
    subst heq
    obtain ⟨hplain, hinside⟩ | hshort := hv
    · rw [hinside]
      exact hplain
    · simp only [List.length_nil, Nat.zero_add] at hshort
      omega
  · intro h
    rw [tokens_quoted hne h, hts]
    rfl

-- Two quotes at either end of the text, and a block without them is read.
example : quote.tokens "\"\"a\"\"\"".toList = some [.string "a"] := by decide +kernel

end State
end Gazette.Query
