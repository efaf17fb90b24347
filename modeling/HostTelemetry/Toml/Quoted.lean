/-
Quoted texts of TOML, of four kinds: basic ones between double quotes,
where a backslash starts an escape, and literal ones between single
quotes; both also between triple quotes, where they may go over many
lines and a line end right behind the opening is dropped.

A reader gets the text behind the opening quote and gives what it read
with the text behind the closing one.
-/
import HostTelemetry.Text.Integer

namespace HostTelemetry.Toml

/-- Whether a character may stand in a text or a comment as it is: no
control character but the tab. -/
def isPlain (c : Char) : Bool := c = '\t' || (0x20 ≤ c.toNat && c.toNat ≠ 0x7F)

/-- The character with a number of so many hexadecimal digits, and the
text behind it. -/
def scalarEscape? (count : Nat) (s : List Char) : Option (Char × List Char) := do
  guard ((s.take count).length = count)
  let n ← Text.digits? 16 (s.take count)
  if h : n.isValidChar then some (Char.ofNatAux n h, s.drop count)
  else none

/-- The character that an escape stands for, from behind the backslash. -/
def escape? : List Char → Option (Char × List Char)
  | 'b' :: r => some ('\x08', r)
  | 't' :: r => some ('\t', r)
  | 'n' :: r => some ('\n', r)
  | 'f' :: r => some ('\x0c', r)
  | 'r' :: r => some ('\r', r)
  | 'e' :: r => some ('\x1b', r)
  | '"' :: r => some ('"', r)
  | '\\' :: r => some ('\\', r)
  | 'x' :: r => scalarEscape? 2 r
  | 'u' :: r => scalarEscape? 4 r
  | 'U' :: r => scalarEscape? 8 r
  | _ => none

/-- Whether a character is a blank within a line. -/
def isGap (c : Char) : Bool := c = ' ' || c = '\t'

/-- The text behind a line end, if one stands here. -/
def lineEnd? : List Char → Option (List Char)
  | '\n' :: r => some r
  | '\r' :: '\n' :: r => some r
  | _ => none

/-- The text behind a line end and all blanks and line ends that follow,
if nothing but blanks stands before the line end. -/
def joined? (s : List Char) : Option (List Char) :=
  (lineEnd? (s.dropWhile isGap)).map fun r =>
    r.dropWhile fun c => isGap c || c = '\n' || c = '\r'

-- ======================================================== on one line

/-- Reads a basic text; `fuel` bounds the number of its characters. -/
def basicOn? : Nat → List Char → List Char → Option (String × List Char)
  | 0, _, _ => none
  | _ + 1, got, '"' :: r => some (String.ofList got.reverse, r)
  | fuel + 1, got, '\\' :: r => (escape? r).bind fun (c, r) => basicOn? fuel (c :: got) r
  | fuel + 1, got, c :: r => if isPlain c then basicOn? fuel (c :: got) r else none
  | _ + 1, _, [] => none

/-- Reads a literal text. -/
def literalOn? (got : List Char) : List Char → Option (String × List Char)
  | [] => none
  | c :: r =>
    if c = '\u0027' then some (String.ofList got.reverse, r)
    else if isPlain c then literalOn? (c :: got) r
    else none

-- ===================================================== over many lines

/-- What a run of closing quotes gives: at most two of them belong to the
text. -/
def closing? (quote : Char) (got : List Char) (s : List Char) :
    Option (String × List Char) :=
  let extra := (s.takeWhile (· = quote)).length - 3
  if (s.take 3).all (· = quote) && 3 ≤ s.length && extra ≤ 2 then
    some (String.ofList (got.reverse ++ List.replicate extra quote), s.drop (3 + extra))
  else none

/-- Whether three quotes stand here. -/
def closes (quote : Char) (s : List Char) : Bool := [quote, quote, quote].isPrefixOf s

/-- Reads a text over many lines. A carriage return stands only before a
line feed. -/
def longOn? (quote : Char) (escapes : Bool) :
    Nat → List Char → List Char → Option (String × List Char)
  | 0, _, _ => none
  | _ + 1, _, [] => none
  | fuel + 1, got, c :: r =>
    if closes quote (c :: r) then closing? quote got (c :: r)
    else if escapes && c = '\\' then
      match joined? r with
      | some r => longOn? quote escapes fuel got r
      | none => (escape? r).bind fun (d, r) => longOn? quote escapes fuel (d :: got) r
    else if c = '\n' || isPlain c || (c = '\r' && r.head? = some '\n') then
      longOn? quote escapes fuel (c :: got) r
    else none

/-- Reads a text over many lines from behind its opening. -/
def long? (quote : Char) (s : List Char) : Option (String × List Char) :=
  longOn? quote (quote = '"') (s.length + 1) [] ((lineEnd? s).getD s)

-- =========================================================== all kinds

/-- Reads a quoted text on one line, from its opening quote. -/
def short? : List Char → Option (String × List Char)
  | c :: r =>
    if c = '"' then basicOn? (r.length + 1) [] r
    else if c = '\u0027' then literalOn? [] r
    else none
  | [] => none

/-- Reads a quoted text, from its opening quote. -/
def quoted? (s : List Char) : Option (String × List Char) :=
  if closes '"' s then long? '"' (s.drop 3)
  else if closes '\u0027' s then long? '\u0027' (s.drop 3)
  else short? s

end HostTelemetry.Toml
