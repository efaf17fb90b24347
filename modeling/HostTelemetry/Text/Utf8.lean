/-
UTF-8 with ill-formed parts kept apart: a sequence of bytes is cut into
characters and maximal ill-formed parts, and each way of reading a text
says what it makes of the latter. `decodeLossy` writes the replacement
character for each of them; `decode?` refuses a text that holds one.

A maximal ill-formed part is the longest start of a well-formed sequence
that the bytes have at that place, and one byte where they have none.
-/

namespace HostTelemetry

/-- The content of a file or a message. -/
abbrev Bytes := List UInt8

namespace Text

-- ==================================================== single sequences

/-- What a first byte above 0x7F announces. -/
structure Lead where
  /-- The least second byte that may follow. -/
  lo : UInt8
  /-- The greatest second byte that may follow. -/
  hi : UInt8
  /-- The number of bytes after the first. -/
  more : Nat
  /-- The bits that the first byte contributes. -/
  bits : Nat
deriving Repr

/-- What the first byte of a sequence of two to four bytes announces. -/
def Lead.of? (b : UInt8) : Option Lead :=
  let n := b.toNat
  if 0xC2 ≤ n ∧ n ≤ 0xDF then some ⟨0x80, 0xBF, 1, n - 0xC0⟩
  else if n = 0xE0 then some ⟨0xA0, 0xBF, 2, 0⟩
  else if n = 0xED then some ⟨0x80, 0x9F, 2, 0xD⟩
  else if 0xE1 ≤ n ∧ n ≤ 0xEF then some ⟨0x80, 0xBF, 2, n - 0xE0⟩
  else if n = 0xF0 then some ⟨0x90, 0xBF, 3, 0⟩
  else if 0xF1 ≤ n ∧ n ≤ 0xF3 then some ⟨0x80, 0xBF, 3, n - 0xF0⟩
  else if n = 0xF4 then some ⟨0x80, 0x8F, 3, 4⟩
  else none

/-- The sequence being read: what it still needs and what it has given. -/
structure Pending where
  /-- The least next byte. -/
  lo : UInt8
  /-- The greatest next byte. -/
  hi : UInt8
  /-- The number of bytes after the next one. -/
  after : Nat
  /-- The bits read so far. -/
  bits : Nat
deriving Repr

-- ============================================================== reading

/-- Cuts bytes into characters (`some`) and maximal ill-formed parts
(`none`). -/
def pieces (bytes : Bytes) : List (Option Char) :=
  go [] none bytes
where
  /-- Starts a sequence with the byte `b`. -/
  start (done : List (Option Char)) (b : UInt8) : List (Option Char) × Option Pending :=
    if b < 0x80 then (some (Char.ofNat b.toNat) :: done, none)
    else match Lead.of? b with
      | some l => (done, some ⟨l.lo, l.hi, l.more - 1, l.bits⟩)
      | none => (none :: done, none)
  /-- `done` holds the pieces read so far, the latest first. -/
  go (done : List (Option Char)) : Option Pending → Bytes → List (Option Char)
    | none, [] => done.reverse
    | some _, [] => (none :: done).reverse
    | none, b :: r =>
      let (done, p) := start done b
      go done p r
    | some p, b :: r =>
      if p.lo ≤ b ∧ b ≤ p.hi then
        let bits := p.bits * 64 + (b.toNat - 0x80)
        match p.after with
        | 0 => go (some (Char.ofNat bits) :: done) none r
        | n + 1 => go done (some ⟨0x80, 0xBF, n, bits⟩) r
      else
        let (done, p) := start (none :: done) b
        go done p r

/-- The text with U+FFFD in the place of each maximal ill-formed part. -/
def decodeLossy (bytes : Bytes) : List Char :=
  (pieces bytes).map (·.getD '\uFFFD')

/-- The text, if the bytes are well-formed. -/
def decode? (bytes : Bytes) : Option (List Char) :=
  (pieces bytes).mapM id

-- ============================================================== writing

/-- The bytes of one character. -/
def encodeChar (c : Char) : Bytes := String.utf8EncodeChar c

/-- The bytes of a text. -/
def encode (s : String) : Bytes := s.toUTF8.toList

end Text

end HostTelemetry
