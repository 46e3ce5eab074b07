/-! # Characters and what stands between them

Hexadecimal digits, blank characters, the fields between marks, and words that occur in a text.
Blank characters are those with the Unicode property White_Space. -/
namespace Gazette.Text

/-- The value of a digit, in small or capital letters. -/
def hexValue? (c : Char) : Option Nat :=
  if '0' ≤ c ∧ c ≤ '9' then some (c.toNat - '0'.toNat)
  else if 'a' ≤ c ∧ c ≤ 'f' then some (c.toNat - 'a'.toNat + 10)
  else if 'A' ≤ c ∧ c ≤ 'F' then some (c.toNat - 'A'.toNat + 10)
  else none

def hexDigit (n : Nat) : Char := if n < 10 then Char.ofNat (48 + n) else Char.ofNat (87 + n)

/-- The digit as a capital letter. -/
def capitalHexDigit (n : Nat) : Char := if n < 10 then Char.ofNat (48 + n) else Char.ofNat (55 + n)

theorem hexValue?_hexDigit : ∀ n < 16, hexValue? (hexDigit n) = some n := by decide

/-- The characters with the property White_Space. -/
def isBlank (c : Char) : Bool :=
  let n := c.toNat
  (9 ≤ n && n ≤ 13) || n == 0x20 || n == 0x85 || n == 0xa0 || n == 0x1680 ||
    (0x2000 ≤ n && n ≤ 0x200a) || n == 0x2028 || n == 0x2029 || n == 0x202f ||
    n == 0x205f || n == 0x3000

/-- No character of the text is visible; the empty text is blank too. -/
def allBlank (s : String) : Bool := s.toList.all isBlank

/-- Whether `word` stands somewhere in the text, letter for letter. -/
def occurs (word : List Char) : List Char → Bool
  | [] => word.isEmpty
  | c :: cs => word.isPrefixOf (c :: cs) || occurs word cs

theorem occurs_iff {word text : List Char} : occurs word text = true ↔ word <:+: text := by
  induction text with
  | nil => cases word <;> simp [occurs]
  | cons c cs ih => simp [occurs, ih, List.infix_cons_iff]

/-- What stands between the marks of a text; there is one field more than there are marks. -/
def fields (isMark : Char → Bool) : List Char → List (List Char)
  | [] => [[]]
  | c :: cs =>
    if isMark c then [] :: fields isMark cs
    else match fields isMark cs with
      | [] => [[c]]
      | f :: fs => (c :: f) :: fs

theorem fields_ne_nil (isMark : Char → Bool) (cs : List Char) : fields isMark cs ≠ [] := by
  cases cs with
  | nil => simp [fields]
  | cons c cs => simp only [fields]; split <;> (try split) <;> simp

end Gazette.Text
