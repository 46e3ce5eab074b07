/-! # Reading bytes as UTF-8

Decoding splits a byte string into well-formed characters and ill-formed parts, an ill-formed part
being the longest start of a character that breaks off, or else a single byte. Strict reading
refuses ill-formed parts; lenient reading shows each of them as U+FFFD. -/
namespace Gazette.Text.Utf8

/-- A character under way: the bits so far, the range of the next byte, and how many bytes follow
that one. -/
structure Pending where
  bits : Nat
  low : Nat
  high : Nat
  more : Nat

/-- What the first byte of a character of several bytes leaves to come; `none` if none starts so. -/
def lead? (b : Nat) : Option Pending :=
  if 0xc2 ≤ b ∧ b ≤ 0xdf then some ⟨b - 0xc0, 0x80, 0xbf, 0⟩
  else if b = 0xe0 then some ⟨0, 0xa0, 0xbf, 1⟩
  else if b = 0xed then some ⟨0xd, 0x80, 0x9f, 1⟩
  else if 0xe1 ≤ b ∧ b ≤ 0xef then some ⟨b - 0xe0, 0x80, 0xbf, 1⟩
  else if b = 0xf0 then some ⟨0, 0x90, 0xbf, 2⟩
  else if 0xf1 ≤ b ∧ b ≤ 0xf3 then some ⟨b - 0xf0, 0x80, 0xbf, 2⟩
  else if b = 0xf4 then some ⟨4, 0x80, 0x8f, 2⟩
  else none

/-- Reads the first byte of a character: what is finished by it, and the character under way. -/
def start (b : Nat) : List (Option Char) × Option Pending :=
  if b < 0x80 then ([some (Char.ofNat b)], none)
  else match lead? b with
    | some p => ([], some p)
    | none => ([none], none)

/-- Reads one byte. A byte that cannot go on with the character under way starts the next one. -/
def step : Option Pending → Nat → List (Option Char) × Option Pending
  | none, b => start b
  | some p, b =>
    if p.low ≤ b ∧ b ≤ p.high then
      let bits := p.bits * 64 + (b - 0x80)
      match p.more with
      | 0 => ([some (Char.ofNat bits)], none)
      | more + 1 => ([], some ⟨bits, 0x80, 0xbf, more⟩)
    else (none :: (start b).1, (start b).2)

/-- Decodes from where a character may be under way. -/
def decodeFrom : Option Pending → List UInt8 → List (Option Char)
  | none, [] => []
  | some _, [] => [none]
  | p, b :: bs => (step p b.toNat).1 ++ decodeFrom (step p b.toNat).2 bs

/-- The characters of a byte string, with `none` for each ill-formed part. -/
def decode (bytes : List UInt8) : List (Option Char) := decodeFrom none bytes

/-- The text the bytes stand for, if they are well formed throughout. -/
def strict? (bytes : List UInt8) : Option (List Char) := (decode bytes).mapM id

/-- The text the bytes stand for, with U+FFFD in the place of each ill-formed part. -/
def lenient (bytes : List UInt8) : List Char := (decode bytes).map (·.getD '\uFFFD')

/-- The character that some bytes begin with, if they begin with one. -/
def first? (bytes : List UInt8) : Option Char :=
  [1, 2, 3, 4].findSome? fun count =>
    match strict? (bytes.take count) with
    | some [c] => some c
    | _ => none

/-- The characters of a byte string, with `none` for each byte that is in none of them. The first
`passed` bytes belong to a character that has been read. -/
def piecesFrom : (passed : Nat) → List UInt8 → List (Option Char)
  | _, [] => []
  | passed + 1, _ :: bs => piecesFrom passed bs
  | 0, b :: bs =>
    match first? (b :: bs) with
    | some c => some c :: piecesFrom (c.utf8Size - 1) bs
    | none => none :: piecesFrom 0 bs

/-- The number of bytes a list of characters takes. -/
def size : List Char → Nat
  | [] => 0
  | c :: cs => c.utf8Size + size cs

/-- The bytes of a list of characters. -/
def encode (cs : List Char) : List UInt8 := cs.flatMap String.utf8EncodeChar

end Gazette.Text.Utf8
