import Mathlib.Tactic.IntervalCases
import Gazette.Json.Draft
import Gazette.Json.Printer
import Gazette.Proofs.Wire.ReadLaws

/-! # Numbers and strings read back

A whole number that fits 64 bits and any string are read back from what is written for them. A number
has no mark at its end, so what comes next matters. -/
namespace Gazette.Json
open Gazette.Text Gazette.Wire

/-- What may stand behind a value: nothing, a comma or a closing bracket. -/
def Ends (k : List Char) : Prop := ∀ c ∈ k.head?, c = ',' ∨ c = ']' ∨ c = '}'

section numbers
variable {k ds : List Char} {n : Nat}

theorem natOfDigits_toDigits (n : Nat) : natOfDigits (Nat.toDigits 10 n) = n := by
  have h : Nat.ofDigitChars 10 (Nat.toDigits 10 n) 0 = n := Nat.ofDigitChars_ten_toDigits
  rwa [Nat.ofDigitChars_eq_foldl] at h

theorem isDigit_toDigits {c : Char} (h : c ∈ Nat.toDigits 10 n) : c.isDigit = true :=
  Nat.isDigit_of_mem_toDigits (by decide) (by decide) h

/-- Only zero starts with the digit zero. -/
theorem head?_toDigits (h : 0 < n) : (Nat.toDigits 10 n).head? ≠ some '0' := by
  induction n using Nat.strong_induction_on with
  | _ n ih =>
    rw [Nat.toDigits_eq_if (by decide)]
    split
    · rename_i hlt
      interval_cases n <;> decide
    · have hrec := ih (n / 10) (by omega) (by omega)
      rw [List.head?_append]
      cases hd : (Nat.toDigits 10 (n / 10)).head? with
      | none => exact absurd (List.head?_eq_none_iff.1 hd) Nat.toDigits_ne_nil
      | some c => rwa [hd] at hrec

theorem Ends.not_digit (hk : Ends k) : ∀ c ∈ k.head?, c.isDigit = false := by
  intro c hc
  rcases hk c hc with rfl | rfl | rfl <;> rfl

theorem takeDigits_append (hne : ds ≠ []) (hds : ∀ c ∈ ds, c.isDigit = true) (hk : Ends k) :
    takeDigits (ds ++ k) = .ok (ds, k) := by
  have htake : (ds ++ k).takeWhile Char.isDigit = ds := by
    rw [List.takeWhile_append_of_pos hds]
    cases k with
    | nil => simp
    | cons c k => simp [hk.not_digit c rfl]
  have hdrop : (ds ++ k).dropWhile Char.isDigit = k := by
    rw [List.dropWhile_append_of_pos hds]
    cases k with
    | nil => rfl
    | cons c k => simp [hk.not_digit c rfl]
  rw [takeDigits, htake, hdrop]
  cases ds with
  | nil => exact absurd rfl hne
  | cons d ds => rfl

theorem takePlaces_ends (hk : Ends k) : takePlaces k = .ok (none, k) := by
  cases k with
  | nil => rfl
  | cons c k => rcases hk c rfl with rfl | rfl | rfl <;> rfl

theorem takePower_ends (hk : Ends k) : takePower k = .ok (none, k) := by
  cases k with
  | nil => rfl
  | cons c k => rcases hk c rfl with rfl | rfl | rfl <;> rfl

/-- The digits of a number, with or without a sign, are its whole part, and there is nothing else. -/
theorem take_toDigits (n : Nat) (hk : Ends k) :
    Numeral.take (Nat.toDigits 10 n ++ k) = .ok (⟨false, Nat.toDigits 10 n, none, none⟩, k) ∧
      Numeral.take ('-' :: (Nat.toDigits 10 n ++ k)) =
        .ok (⟨true, Nat.toDigits 10 n, none, none⟩, k) := by
  by_cases hn : n = 0
  · have hdigits : Nat.toDigits 10 n = ['0'] := by rw [hn]; decide
    have hend : k.head?.any Char.isDigit = false := by
      cases k with
      | nil => rfl
      | cons c k => exact hk.not_digit c rfl
    rw [hdigits]
    simp [Numeral.take, hend, takePlaces_ends hk, takePower_ends hk]
  · have hdigits : takeDigits (Nat.toDigits 10 n ++ k) = .ok (Nat.toDigits 10 n, k) :=
      takeDigits_append Nat.toDigits_ne_nil (fun _ => isDigit_toDigits) hk
    have hhead := head?_toDigits (Nat.pos_of_ne_zero hn)
    cases hd : Nat.toDigits 10 n with
    | nil => exact absurd hd Nat.toDigits_ne_nil
    | cons c ds =>
      rw [hd] at hdigits hhead
      have hc : c.isDigit = true := isDigit_toDigits (n := n) (by simp [hd])
      have hminus : c ≠ '-' := by rintro rfl; cases hc
      have hzero : c ≠ '0' := by simpa using hhead
      rw [List.cons_append] at hdigits ⊢
      simp [Numeral.take, hdigits, takePlaces_ends hk, takePower_ends hk, hminus, hzero]

theorem number_writtenInt {n : Int} (hlow : -0x8000000000000000 ≤ n)
    (hhigh : n < 0x10000000000000000) (hk : Ends k) : Draft.number (writtenInt n ++ k) = (.int n, .ok k) := by
  cases n with
  | ofNat n =>
    have hlt : (n : Int) < 0x10000000000000000 := hhigh
    have hfits : n < UInt64.size := by simp only [UInt64.size]; omega
    have hvalue : Numeral.value? ⟨false, Nat.toDigits 10 n, none, none⟩ = some (.int n) := by
      simp [Numeral.value?, natOfDigits_toDigits, hfits]
    rw [writtenInt, Draft.number, (take_toDigits n hk).1]
    simp [hvalue]
  | negSucc n =>
    have hfits : n + 1 ≤ 0x8000000000000000 := by omega
    have hvalue : Numeral.value? ⟨true, Nat.toDigits 10 (n + 1), none, none⟩ =
        some (.int (.negSucc n)) := by
      simp [Numeral.value?, natOfDigits_toDigits, hfits, Int.negSucc_eq]
    rw [writtenInt, List.cons_append, Draft.number, (take_toDigits (n + 1) hk).2]
    simp [hvalue]

theorem isSpace_of_isDigit {c : Char} (h : c.isDigit = true) : Draft.isSpace c = false := by
  rw [Bool.eq_false_iff]
  intro hspace
  simp only [Draft.isSpace, Bool.or_eq_true, decide_eq_true_eq] at hspace
  rcases hspace with ((rfl | rfl) | rfl) | rfl <;> cases h

theorem writtenInt_cases (n : Int) :
    ∃ c ds, writtenInt n = c :: ds ∧ (c = '-' ∨ c.isDigit = true) := by
  cases n with
  | ofNat n =>
    cases hd : Nat.toDigits 10 n with
    | nil => exact absurd hd Nat.toDigits_ne_nil
    | cons c ds => exact ⟨c, ds, hd, .inr (isDigit_toDigits (n := n) (by simp [hd]))⟩
  | negSucc n => exact ⟨'-', Nat.toDigits 10 (n + 1), rfl, .inl rfl⟩

end numbers

section strings
open Draft

variable {fuel n : Nat} {acc rest : List Char}

theorem takeHex_control (h : n < 0x20) :
    takeHex ('0' :: '0' :: hexDigit (n / 16) :: hexDigit (n % 16) :: rest) = .ok (n, rest) := by
  have hhigh : hexValue? (hexDigit (n / 16)) = some (n / 16) := hexValue?_hexDigit _ (by omega)
  have hlow : hexValue? (hexDigit (n % 16)) = some (n % 16) := hexValue?_hexDigit _ (by omega)
  have hzero : hexValue? '0' = some 0 := by decide
  have hn : n / 16 * 16 + n % 16 = n := by omega
  simp [takeHex, hzero, hhigh, hlow, hn]

/-- What is written for a character gives it back in one step. -/
theorem takeString_escapedChar (c : Char) :
    takeString (fuel + 1) (.ok acc) (escapedChar c ++ rest) =
      takeString fuel (.ok (c :: acc)) rest := by
  unfold escapedChar
  split
  case h_8 =>
    split
    · rename_i hcontrol
      have hhex : takeHex ('0' :: '0' :: hexDigit (c.toNat / 16) :: hexDigit (c.toNat % 16) ::
          rest) = .ok (c.toNat, rest) := takeHex_control hcontrol
      have hlow : ¬ (0xdc00 ≤ c.toNat ∧ c.toNat ≤ 0xdfff) := by omega
      have hhigh : ¬ (0xd800 ≤ c.toNat ∧ c.toNat ≤ 0xdbff) := by omega
      simp [takeString, hhex, hlow, hhigh, Spelled.push, Except.map]
    · rename_i hcontrol
      rw [List.cons_append, List.nil_append, takeString]
      · simp [hcontrol, Spelled.push, Except.map]
      all_goals grind
  all_goals rfl

theorem takeString_written (cs : List Char) (hfuel : cs.length < fuel) :
    takeString fuel (.ok acc) (cs.flatMap escapedChar ++ '"' :: rest) =
      .ok (.ok (cs.reverse ++ acc), rest) := by
  induction cs generalizing fuel acc with
  | nil =>
    cases fuel with
    | zero => simp at hfuel
    | succ fuel => rfl
  | cons c cs ih =>
    cases fuel with
    | zero => simp at hfuel
    | succ fuel =>
      have hrest : cs.length < fuel := by simpa using hfuel
      rw [List.flatMap_cons, List.append_assoc, takeString_escapedChar, ih hrest]
      simp

theorem length_le_written (cs : List Char) : cs.length ≤ (cs.flatMap escapedChar).length := by
  induction cs with
  | nil => simp
  | cons c cs ih =>
    have hc : 1 ≤ (escapedChar c).length := by
      unfold escapedChar
      split <;> [skip; skip; skip; skip; skip; skip; skip; split] <;> simp
    simp only [List.flatMap_cons, List.length_append, List.length_cons]
    omega

theorem string_written (s : String) (rest : List Char) :
    Draft.string (s.toList.flatMap escapedChar ++ '"' :: rest) = .ok (.ok s, rest) := by
  have hfuel : s.toList.length <
      (s.toList.flatMap escapedChar ++ '"' :: rest).length + 1 := by
    have := length_le_written s.toList
    simp only [List.length_append]
    omega
  rw [Draft.string, takeString_written s.toList hfuel]
  simp [Except.map]

theorem writtenString_append (s : String) (k : List Char) :
    writtenString s ++ k = '"' :: (s.toList.flatMap escapedChar ++ '"' :: k) := by
  simp [writtenString]

end strings

end Gazette.Json
