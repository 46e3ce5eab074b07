import Gazette.Address.Basic

/-! # Addresses on one line

What is read of a url has nothing in it that could end a line, whatever the url and whatever the
rules for names in other scripts. -/
namespace Gazette.Address
open Gazette.Text

/-- There are no blanks and no controls. -/
def Visible (cs : List Char) : Prop := ∀ c ∈ cs, 0x21 ≤ c.toNat ∧ c.toNat ≠ 0x7f

theorem visible_nil : Visible [] := List.forall_mem_nil _

theorem visible_append {cs ds : List Char} : Visible (cs ++ ds) ↔ Visible cs ∧ Visible ds :=
  List.forall_mem_append

theorem visible_cons {c : Char} {cs : List Char} :
    Visible (c :: cs) ↔ (0x21 ≤ c.toNat ∧ c.toNat ≠ 0x7f) ∧ Visible cs :=
  List.forall_mem_cons

theorem visible_toDigits {base : Nat} (h : 1 < base) (h' : base ≤ 16) (n : Nat) :
    Visible (Nat.toDigits base n) := by
  have hdigit : ∀ m < 16, 0x21 ≤ (Nat.digitChar m).toNat ∧ (Nat.digitChar m).toNat ≠ 0x7f := by
    decide
  have hsingle : ∀ m < base, Visible [Nat.digitChar m] := fun m hm =>
    visible_cons.2 ⟨hdigit m (by omega), visible_nil⟩
  induction n using Nat.strongRecOn with
  | ind n ih =>
    rw [Nat.toDigits_eq_if h]
    split
    · rename_i hlt
      exact hsingle n hlt
    · have hsmaller : n / base < n := Nat.div_lt_self (by omega) h
      exact visible_append.2 ⟨ih _ hsmaller, hsingle _ (Nat.mod_lt n (by omega))⟩

theorem visible_fourText (n : Nat) : Visible (fourText n) := by
  have hdecimal (m : Nat) : Visible (decimal m) := visible_toDigits (by decide) (by decide) m
  simp [fourText, visible_append, visible_cons, hdecimal]

theorem visible_pieceList (ns : List Nat) : Visible (pieceList ns) := by
  have hpiece (n : Nat) : Visible (Nat.toDigits 16 n) := visible_toDigits (by decide) (by decide) n
  unfold pieceList
  induction ns with
  | nil => exact visible_nil
  | cons n ns ih =>
    cases ns with
    | nil => simpa using hpiece n
    | cons m ms =>
      simp only [List.map_cons] at ih ⊢
      rw [List.intercalate_cons_cons, visible_append, visible_append, visible_cons]
      exact ⟨⟨hpiece n, by decide, visible_nil⟩, ih⟩

theorem visible_eightText (ns : List Nat) : Visible (eightText ns) := by
  have hend : Visible [']'] := visible_cons.2 ⟨by decide, visible_nil⟩
  simp only [eightText]
  split <;> simp [visible_append, visible_cons, visible_pieceList, hend]

namespace Host

variable {naming : Naming}

theorem visible_name? {bytes : List UInt8} {name : List Char}
    (h : name? naming bytes = some name) : Visible name := by
  simp only [name?, Option.bind_eq_bind, Option.bind_eq_some_iff, Option.ite_none_left_eq_some,
    Option.some.injEq] at h
  obtain ⟨cs, -, ls, -, hname, rfl⟩ := h
  intro c hc
  have hallowed : isForbidden c = false := by
    have hnone := (not_or.1 hname).2
    rw [List.any_eq_true] at hnone
    exact Bool.eq_false_iff.2 fun hforbidden => hnone ⟨c, hc, hforbidden⟩
  simp only [isForbidden, Bool.or_eq_false_iff, decide_eq_false_iff_not] at hallowed
  obtain ⟨⟨hblank, hdelete⟩, -⟩ := hallowed
  exact ⟨by omega, by simpa using hdelete⟩

theorem visible_text {cs : List Char} {host : Host} (h : ofText? naming cs = some host) :
    Visible host.text.toList := by
  cases host with
  | name letters =>
    unfold ofText? at h
    split at h
    · split at h
      · obtain ⟨pieces, -, hpieces⟩ := Option.map_eq_some_iff.1 h
        cases hpieces
      · cases h
    · obtain ⟨spelt, hspelt, h⟩ := Option.bind_eq_some_iff.1 h
      split at h
      · obtain ⟨bytes, -, hbytes⟩ := Option.map_eq_some_iff.1 h
        cases hbytes
      · cases h
        rw [text, String.toList_ofList]
        exact visible_name? hspelt
  | four bytes =>
    rw [text, String.toList_ofList]
    exact visible_fourText bytes
  | eight pieces =>
    rw [text, String.toList_ofList]
    exact visible_eightText pieces

end Host

theorem visible_sextet (n : Nat) : 0x21 ≤ (sextet n).toNat ∧ (sextet n).toNat ≠ 0x7f := by
  have hdigit : ∀ m < 64, 0x21 ≤ (sextet m).toNat ∧ (sextet m).toNat ≠ 0x7f := by decide
  by_cases h : n < 64
  · exact hdigit n h
  · have hlast : sextet n = '/' := by
      unfold sextet
      rw [if_neg (by omega), if_neg (by omega), if_neg (by omega), if_neg (by omega)]
    rw [hlast]
    decide

theorem visible_base64 (bs : List UInt8) : Visible (base64 bs) := by
  fun_induction base64 bs with
  | case1 => exact visible_nil
  | case2 | case3 => simp [visible_cons, visible_sextet, visible_nil]
  | case4 a b c bs n ih => simp [visible_cons, visible_sextet, ih]

theorem visible_authority {a : Address} (h : Visible a.host.text.toList) :
    Visible a.authority.toList := by
  unfold authority
  split
  · exact h
  · rename_i n _
    have hnumber : Visible (Nat.toDigits 10 n) := visible_toDigits (by decide) (by decide) n
    simp [visible_append, visible_cons, h, hnumber]

theorem visible_write (p : Part) (cs : List Char) : Visible (p.write cs) := by
  intro c hc
  have hrange := Part.visible_write hc
  omega

theorem visible_marked (q : Option (List Char)) :
    Visible (marked "?" (q.map fun cs => String.ofList (Part.query.write cs))).toList := by
  cases q with
  | none => exact visible_nil
  | some cs => simp [marked, visible_cons, visible_write]

theorem visible_ofRest? {naming : Naming} {scheme : String} {own : Nat} {cs : List Char}
    {a : Address} (h : ofRest? naming scheme own cs = some a) :
    Visible a.authority.toList ∧ Visible a.target.toList := by
  simp only [ofRest?, Option.bind_eq_bind, Option.bind_eq_some_iff, Option.some.injEq] at h
  obtain ⟨host, hhost, service, -, rfl⟩ := h
  refine ⟨visible_authority (Host.visible_text hhost), ?_⟩
  rw [target, String.toList_append, visible_append, String.toList_ofList]
  refine ⟨?_, visible_marked _⟩
  intro c hc
  have hrange := visible_pathOf hc
  omega

/-- Neither the server nor what is asked of it has a blank or a control in its name. -/
theorem visible_ofUrl {naming : Naming} {url : String} {a : Address}
    (h : ofUrl naming url = .ok a) :
    Visible a.authority.toList ∧ Visible a.target.toList := by
  unfold ofUrl at h
  split at h
  · cases h
  · simp only at h
    split at h
    · cases h
    · split at h
      · cases h
      · rename_i hrest
        split at h
        · cases h
          exact visible_ofRest? hrest
        · cases h

end Gazette.Address
