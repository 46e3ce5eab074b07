import Gazette.Text.Basic
import Gazette.Text.Utf8

/-! # Percent signs in addresses

A character that may not stand in some part of an address is written there as its bytes, each as a
percent sign and two hexadecimal digits. -/
namespace Gazette.Address
open Gazette.Text

/-- The parts of an address that are free texts. -/
inductive Part | login | path | query | fragment deriving DecidableEq, Repr

/-- The visible characters of ASCII that may not stand in a part. -/
def Part.reserved : Part → List Char
  | .login => ['"', '#', '<', '>', '?', '\x60', '{', '}', '/', ':', ';', '=', '@', '[', '\\', ']',
      '^', '|']
  | .path => ['"', '#', '<', '>', '?', '\x60', '{', '}']
  | .query => ['"', '#', '<', '>', '\x27']
  | .fragment => ['"', '<', '>', '\x60']

/-- The bytes of a character. -/
def percent (c : Char) : List Char :=
  (Utf8.encode [c]).flatMap fun b =>
    ['%', capitalHexDigit (b.toNat / 16), capitalHexDigit (b.toNat % 16)]

/-- How a character is written in a part. -/
def Part.char (p : Part) (c : Char) : List Char :=
  if 0x21 ≤ c.toNat ∧ c.toNat ≤ 0x7e ∧ c ∉ p.reserved then [c] else percent c

/-- How a text is written in a part. -/
def Part.write (p : Part) (cs : List Char) : List Char := cs.flatMap p.char

theorem capitalHexDigit_visible : ∀ n < 16, 0x21 ≤ (capitalHexDigit n).toNat ∧
    (capitalHexDigit n).toNat ≤ 0x7e := by decide

theorem visible_percent {c d : Char} (h : d ∈ percent c) : 0x21 ≤ d.toNat ∧ d.toNat ≤ 0x7e := by
  obtain ⟨b, _, hd⟩ := List.mem_flatMap.1 h
  have hb := b.toNat_lt
  simp only [List.mem_cons, List.not_mem_nil, or_false] at hd
  rcases hd with rfl | rfl | rfl
  · decide
  · exact capitalHexDigit_visible _ (by omega)
  · exact capitalHexDigit_visible _ (by omega)

/-- What is written has no blanks, controls or line breaks. -/
theorem Part.visible_write {p : Part} {cs : List Char} {d : Char} (h : d ∈ p.write cs) :
    0x21 ≤ d.toNat ∧ d.toNat ≤ 0x7e := by
  obtain ⟨c, _, hd⟩ := List.mem_flatMap.1 h
  simp only [Part.char] at hd
  split at hd
  · rename_i hc
    rw [List.mem_singleton.1 hd]
    exact ⟨hc.1, hc.2.1⟩
  · exact visible_percent hd

/-- The bytes that a text with percent signs stands for. A percent sign without two digits stands
for itself. -/
def unpercent : List Char → List UInt8
  | [] => []
  | '%' :: a :: b :: cs =>
    match hexValue? a, hexValue? b with
    | some a, some b => (a * 16 + b).toUInt8 :: unpercent cs
    | _, _ => 0x25 :: unpercent (a :: b :: cs)
  | c :: cs => Utf8.encode [c] ++ unpercent cs

end Gazette.Address
