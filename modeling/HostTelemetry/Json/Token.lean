/-
The words of a JSON text. A text is read one byte after the other by a
machine with four modes: between words, inside a string, inside a bare
word (`null` and its kin), and inside a numeral. Blanks are space, tab,
line feed and carriage return.

A string is read as bytes and becomes a text at its closing quote. Where
its escapes leave half of a surrogate pair, or its bytes are ill-formed,
it becomes an unreadable word, which only a skipped value may hold.
-/
import HostTelemetry.Json.Numeral
import HostTelemetry.Text.Utf8

namespace HostTelemetry.Json

/-- A word of a JSON text. -/
inductive Token where
  | openArr
  | closeArr
  | openObj
  | closeObj
  | comma
  | colon
  /-- A string, if it stands for a text. -/
  | text (s : Option String)
  | atom (j : Json)
deriving Inhabited

-- ============================================================== strings

/-- Where the machine stands inside a string. -/
inductive StringMode where
  | plain
  | escape
  /-- Inside the four hexadecimal digits of an escape: how many are still
  to come and what the ones before them say. -/
  | unit (more : Nat) (value : Nat)

/-- The string read so far. -/
structure StringState where
  /-- Its bytes in reverse. -/
  bytes : Bytes := []
  /-- The first half of a surrogate pair, if the last escape gave one. -/
  high : Option Nat := none
  /-- Whether every escape so far stands for a character. -/
  sound : Bool := true
  /-- Where the machine stands. -/
  mode : StringMode := .plain

/-- The string ends or goes on without the second half of a pair. -/
def StringState.settle (s : StringState) : StringState :=
  if s.high.isSome then { s with high := none, sound := false } else s

/-- Appends a character. -/
def StringState.push (s : StringState) (c : Char) : StringState :=
  { s with bytes := (Text.encodeChar c).reverse ++ s.bytes, mode := .plain }

/-- Takes the 16-bit unit that an escape spells. -/
def StringState.unit (s : StringState) (u : Nat) : StringState :=
  match s.high with
  | some h =>
    if 0xDC00 ≤ u ∧ u ≤ 0xDFFF then
      ({ s with high := none }).push
        (Char.ofNat (0x10000 + (h - 0xD800) * 0x400 + (u - 0xDC00)))
    else { s with high := none, sound := false, mode := .plain }
  | none =>
    if 0xD800 ≤ u ∧ u ≤ 0xDBFF then { s with high := some u, mode := .plain }
    else if 0xDC00 ≤ u ∧ u ≤ 0xDFFF then { s with sound := false, mode := .plain }
    else s.push (Char.ofNat u)

/-- The character that a letter behind a backslash stands for. -/
def unescape? : Char → Option Char
  | '"' => some '"'
  | '\\' => some '\\'
  | '/' => some '/'
  | 'b' => some '\x08'
  | 'f' => some '\x0c'
  | 'n' => some '\n'
  | 'r' => some '\r'
  | 't' => some '\t'
  | _ => none

/-- The effect of a byte inside a string. -/
inductive StringStep where
  | more (s : StringState)
  | done (s : Option String)
  /-- The byte may not stand there. -/
  | refused

/-- Reads a byte inside a string. -/
def StringState.step (s : StringState) (b : UInt8) : StringStep :=
  let c := Char.ofNat b.toNat
  match s.mode with
  | .plain =>
    if c = '"' then
      let s := s.settle
      .done (if s.sound then (Text.decode? s.bytes.reverse).map String.ofList else none)
    else if c = '\\' then .more { s with mode := .escape }
    else if b < 0x20 then .refused
    else .more { s.settle with bytes := b :: s.settle.bytes }
  | .escape =>
    if c = 'u' then .more { s with mode := .unit 3 0 }
    else match unescape? c with
      | some e => .more (s.settle.push e)
      | none => .refused
  | .unit more value =>
    match Text.digit? 16 c with
    | none => .refused
    | some d => match more with
      | 0 => .more (s.unit (value * 16 + d))
      | n + 1 => .more { s with mode := .unit n (value * 16 + d) }

-- ================================================================ words

/-- Where the machine stands. -/
inductive Mode where
  | between
  | string (s : StringState)
  /-- Inside a bare word, whose letters are kept in reverse. -/
  | word (letters : List Char)
  /-- Inside a numeral, whose characters are kept in reverse. -/
  | numeral (chars : List Char)

/-- Whether the character can stand in a numeral. -/
def inNumeral (c : Char) : Bool :=
  c.isDigit || c = '-' || c = '+' || c = '.' || c = 'e' || c = 'E'

/-- The value of a bare word. -/
def ofWord? (letters : List Char) : Option Json :=
  if letters = "null".toList then some null
  else if letters = "true".toList then some (bool true)
  else if letters = "false".toList then some (bool false)
  else none

/-- The mark that a character is by itself. -/
def mark? : Char → Option Token
  | '[' => some .openArr
  | ']' => some .closeArr
  | '\x7b' => some .openObj
  | '\x7d' => some .closeObj
  | ',' => some .comma
  | ':' => some .colon
  | _ => none

/-- Whether the character parts words and means nothing else. -/
def isGap (c : Char) : Bool := c = ' ' || c = '\t' || c = '\n' || c = '\r'

/-- Reads a byte between words. -/
def start? (done : List Token) (c : Char) : Option (Mode × List Token) :=
  if isGap c then some (.between, done)
  else if c = '"' then some (.string {}, done)
  else if c = '-' || c.isDigit then some (.numeral [c], done)
  else if c.isLower then some (.word [c], done)
  else (mark? c).map fun t => (.between, t :: done)

/-- Ends the word that the machine stands in. -/
def Mode.finish? (done : List Token) : Mode → Option (List Token)
  | .between => some done
  | .string _ => none
  | .word letters => (ofWord? letters.reverse).map fun j => .atom j :: done
  | .numeral chars => (ofNumeral? chars.reverse).map fun j => .atom j :: done

/-- Reads one byte. The words found so far are kept in reverse. -/
def Mode.step? (done : List Token) (b : UInt8) : Mode → Option (Mode × List Token)
  | .between => start? done (Char.ofNat b.toNat)
  | .string s => match s.step b with
    | .more s => some (.string s, done)
    | .done s => some (.between, .text s :: done)
    | .refused => none
  | .word letters =>
    let c := Char.ofNat b.toNat
    if c.isLower then some (.word (c :: letters), done)
    else (finish? done (.word letters)).bind fun done => start? done c
  | .numeral chars =>
    let c := Char.ofNat b.toNat
    if inNumeral c then some (.numeral (c :: chars), done)
    else (finish? done (.numeral chars)).bind fun done => start? done c

/-- The words of a text, if it consists of words. -/
def tokens? (bytes : Bytes) : Option (List Token) :=
  go .between [] bytes
where
  /-- Reads on from a mode, with the words before it in reverse. -/
  go (mode : Mode) (done : List Token) : Bytes → Option (List Token)
    | [] => (mode.finish? done).map List.reverse
    | b :: r => match mode.step? done b with
      | some (mode, done) => go mode done r
      | none => none

end HostTelemetry.Json
