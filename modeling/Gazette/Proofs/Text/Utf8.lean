import Mathlib.Tactic.SplitIfs
import Gazette.Text.Utf8

/-! # Characters read back from their bytes

The first byte of a character tells how many follow and which range the next one has; each of the
others adds six bits. -/
namespace Gazette.Text.Utf8

variable {b bits low high more v : Nat} {bs : List UInt8}

theorem toNat_byte (h : b < 256) : (UInt8.ofNat b).toNat = b := by
  rw [UInt8.toNat_ofNat']
  omega

theorem decodeFrom_small (h : b < 0x80) :
    decodeFrom none (UInt8.ofNat b :: bs) = some (Char.ofNat b) :: decodeFrom none bs := by
  have hb : (UInt8.ofNat b).toNat = b := toNat_byte (by omega)
  simp [decodeFrom, step, start, hb, h]

theorem decodeFrom_lead {p : Pending} (hb : 0x80 ≤ b) (hlt : b < 256) (h : lead? b = some p) :
    decodeFrom none (UInt8.ofNat b :: bs) = decodeFrom (some p) bs := by
  have hsmall : ¬ b < 0x80 := by omega
  simp [decodeFrom, step, start, toNat_byte hlt, hsmall, h]

theorem decodeFrom_last (hlow : low ≤ v + 0x80) (hhigh : v + 0x80 ≤ high) (hv : v < 0x40) :
    decodeFrom (some ⟨bits, low, high, 0⟩) (UInt8.ofNat (v + 0x80) :: bs) =
      some (Char.ofNat (bits * 64 + v)) :: decodeFrom none bs := by
  have hb : (UInt8.ofNat (v + 0x80)).toNat = v + 0x80 := toNat_byte (by omega)
  rw [decodeFrom, hb, step, if_pos ⟨hlow, hhigh⟩, Nat.add_sub_cancel]
  rfl

theorem decodeFrom_more (hlow : low ≤ v + 0x80) (hhigh : v + 0x80 ≤ high) (hv : v < 0x40) :
    decodeFrom (some ⟨bits, low, high, more + 1⟩) (UInt8.ofNat (v + 0x80) :: bs) =
      decodeFrom (some ⟨bits * 64 + v, 0x80, 0xbf, more⟩) bs := by
  have hb : (UInt8.ofNat (v + 0x80)).toNat = v + 0x80 := toNat_byte (by omega)
  rw [decodeFrom, hb, step, if_pos ⟨hlow, hhigh⟩, Nat.add_sub_cancel]
  rfl

theorem pending_eq {bits' : Nat} (h : bits = bits') :
    some (Pending.mk bits low high more) = some ⟨bits', low, high, more⟩ := by rw [h]

theorem lead?_two (h : 0x80 ≤ v) (h' : v < 0x800) :
    lead? (v / 64 % 32 + 0xc0) = some ⟨v / 64, 0x80, 0xbf, 0⟩ := by
  have hrange : 0xc2 ≤ v / 64 % 32 + 0xc0 ∧ v / 64 % 32 + 0xc0 ≤ 0xdf := by omega
  have hbits : v / 64 % 32 + 0xc0 - 0xc0 = v / 64 := by omega
  rw [lead?, if_pos hrange, hbits]

/-- Neither longer forms of short characters nor surrogates are let in. -/
theorem lead?_three (h : 0x800 ≤ v) (h' : v < 0x10000) (hv : v < 0xd800 ∨ 0xdfff < v) :
    ∃ low high, lead? (v / 4096 % 16 + 0xe0) = some ⟨v / 4096, low, high, 1⟩ ∧
      low ≤ v / 64 % 64 + 0x80 ∧ v / 64 % 64 + 0x80 ≤ high := by
  unfold lead?
  split_ifs
  · omega
  · exact ⟨0xa0, 0xbf, pending_eq (by omega), by omega, by omega⟩
  · exact ⟨0x80, 0x9f, pending_eq (by omega), by omega, by omega⟩
  · exact ⟨0x80, 0xbf, pending_eq (by omega), by omega, by omega⟩
  all_goals omega

theorem lead?_four (h : 0x10000 ≤ v) (h' : v < 0x110000) :
    ∃ low high, lead? (v / 262144 % 8 + 0xf0) = some ⟨v / 262144, low, high, 2⟩ ∧
      low ≤ v / 4096 % 64 + 0x80 ∧ v / 4096 % 64 + 0x80 ≤ high := by
  unfold lead?
  split_ifs
  · omega
  · omega
  · omega
  · omega
  · exact ⟨0x90, 0xbf, pending_eq (by omega), by omega, by omega⟩
  · exact ⟨0x80, 0xbf, pending_eq (by omega), by omega, by omega⟩
  · exact ⟨0x80, 0x8f, pending_eq (by omega), by omega, by omega⟩
  · omega

theorem decodeFrom_char (c : Char) (bs : List UInt8) :
    decodeFrom none (String.utf8EncodeChar c ++ bs) = some c :: decodeFrom none bs := by
  have hvalid : c.val.toNat < 0xd800 ∨ 0xdfff < c.val.toNat ∧ c.val.toNat < 0x110000 := c.valid
  have hc : Char.ofNat c.val.toNat = c := Char.ofNat_toNat c
  unfold String.utf8EncodeChar
  simp only
  generalize c.val.toNat = v at *
  split_ifs with h₁ h₂ h₃ <;> simp only [List.cons_append, List.nil_append]
  · rw [decodeFrom_small (by omega), hc]
  · rw [decodeFrom_lead (by omega) (by omega) (lead?_two (by omega) (by omega)),
      decodeFrom_last (by omega) (by omega) (by omega)]
    have hbits : v / 64 * 64 + v % 64 = v := by omega
    rw [hbits, hc]
  · obtain ⟨low, high, hlead, hlow, hhigh⟩ := lead?_three (v := v) (by omega) (by omega) (by omega)
    rw [decodeFrom_lead (by omega) (by omega) hlead, decodeFrom_more hlow hhigh (by omega),
      decodeFrom_last (by omega) (by omega) (by omega)]
    have hbits : (v / 4096 * 64 + v / 64 % 64) * 64 + v % 64 = v := by omega
    rw [hbits, hc]
  · obtain ⟨low, high, hlead, hlow, hhigh⟩ := lead?_four (v := v) (by omega) (by omega)
    rw [decodeFrom_lead (by omega) (by omega) hlead, decodeFrom_more hlow hhigh (by omega),
      decodeFrom_more (by omega) (by omega) (by omega),
      decodeFrom_last (by omega) (by omega) (by omega)]
    have hbits : ((v / 262144 * 64 + v / 4096 % 64) * 64 + v / 64 % 64) * 64 + v % 64 = v := by
      omega
    rw [hbits, hc]

theorem decode_encode (cs : List Char) : decode (encode cs) = cs.map some := by
  induction cs with
  | nil => rfl
  | cons c cs ih =>
    have hstep := decodeFrom_char c (encode cs)
    rw [decode] at ih ⊢
    rw [encode, List.flatMap_cons, ← encode, hstep, ih, List.map_cons]

/-- Every text is read back from its bytes. -/
theorem strict?_encode (cs : List Char) : strict? (encode cs) = some cs := by
  rw [strict?, decode_encode]
  induction cs with
  | nil => rfl
  | cons c cs ih => simp [ih]

/-- A byte finishes something or leaves a character under way. -/
theorem step_cases (p : Option Pending) (b : Nat) :
    (step p b).1 ≠ [] ∨ ∃ q, (step p b).2 = some q := by
  have hstart : (start b).1 ≠ [] ∨ ∃ q, (start b).2 = some q := by
    rw [start]
    split_ifs
    · simp
    · cases lead? b <;> simp
  cases p with
  | none => exact hstart
  | some p =>
    rw [step]
    split_ifs
    · cases p.more <;> simp
    · simp

theorem decodeFrom_pending_ne_nil (p : Pending) (bytes : List UInt8) :
    decodeFrom (some p) bytes ≠ [] := by
  induction bytes generalizing p with
  | nil => simp [decodeFrom]
  | cons b bs ih =>
    obtain h | ⟨q, h⟩ := step_cases (some p) b.toNat
    · simp [decodeFrom, h]
    · simp [decodeFrom, h, ih q]

theorem lenient_eq_nil_iff {bytes : List UInt8} : lenient bytes = [] ↔ bytes = [] := by
  rw [lenient, List.map_eq_nil_iff, decode]
  cases bytes with
  | nil => simp [decodeFrom]
  | cons b bs =>
    obtain h | ⟨q, h⟩ := step_cases none b.toNat
    · simp [decodeFrom, h]
    · simp [decodeFrom, h, decodeFrom_pending_ne_nil]

end Gazette.Text.Utf8
