/-
Reads a TOML 1.1 document: line by line into statements, and statement by
statement into tables. Arrays and inline tables may go over many lines and
end with a comma; they stand in one another to a limited depth, which is
also the greatest number of parts of a key.
-/
import HostTelemetry.Toml.Quoted
import HostTelemetry.Toml.Scalar

namespace HostTelemetry.Toml

-- ================================================================= gaps

/-- The text behind blanks. -/
def skipGap (s : List Char) : List Char := s.dropWhile isGap

/-- The text behind a comment, which ends before the line does. -/
def skipComment? : List Char → Option (List Char)
  | '#' :: r =>
    let rest := r.dropWhile fun c => c ≠ '\n' && c ≠ '\r'
    if (r.takeWhile fun c => c ≠ '\n' && c ≠ '\r').all isPlain then some rest else none
  | s => some s

/-- The text behind blanks, comments and line ends. -/
def skipLines? : Nat → List Char → Option (List Char)
  | 0, _ => none
  | fuel + 1, s => do
    let s ← skipComment? (skipGap s)
    match lineEnd? s with
    | some r => skipLines? fuel r
    | none => return s

/-- The text behind the end of a line, on which nothing else stands. -/
def endLine? (s : List Char) : Option (List Char) := do
  match ← skipComment? (skipGap s) with
  | [] => return []
  | s => lineEnd? s

-- ================================================================= keys

/-- The greatest depth of lists and tables in one another, and of the
tables that one key can name. -/
def maxDepth : Nat := 80

/-- Whether a character may stand in a key without quotes. -/
def inBareKey (c : Char) : Bool := c.isAlphanum || c = '_' || c = '-'

/-- Reads a part of a key. -/
def keyPart? (s : List Char) : Option (String × List Char) :=
  match s.takeWhile inBareKey with
  | [] => if closes '"' s || closes '\u0027' s then none else short? s
  | bare => some (String.ofList bare, s.dropWhile inBareKey)

/-- Reads at most so many parts of a key, with dots between them and blanks
around all. -/
def keyParts? : Nat → List Char → Option (List String × List Char)
  | 0, _ => none
  | left + 1, s => do
    let (part, s) ← keyPart? (skipGap s)
    match skipGap s with
    | '.' :: r =>
      let (parts, s) ← keyParts? left r
      return (part :: parts, s)
    | s => return ([part], s)

/-- Reads a key. -/
def key? (s : List Char) : Option (List String × List Char) := keyParts? maxDepth s

-- =============================================================== values

/-- Reads one value. -/
abbrev ValueReader := List Char → Option (Value × List Char)

/-- Whether a character ends a value without quotes and brackets. -/
def endsScalar (c : Char) : Bool :=
  c = '\n' || c = '\r' || c = '#' || c = ',' || c = ']' || c = '}'

/-- Reads a value without quotes and brackets. -/
def plain? : ValueReader := fun s => do
  let text := s.takeWhile (!endsScalar ·)
  let v ← scalar? (text.reverse.dropWhile isGap).reverse
  return (v, s.dropWhile (!endsScalar ·))

/-- Reads what stands between the brackets of a list, and the closing one.
More `fuel` than characters is always enough, since every value and every
comma takes one at least. -/
def items? (read : ValueReader) : Nat → List Char → Option (List Value × List Char)
  | 0, _ => none
  | fuel + 1, s => do
    match ← skipLines? (fuel + 1) s with
    | ']' :: r => return ([], r)
    | s =>
      let (v, s) ← read s
      match ← skipLines? (fuel + 1) s with
      | ',' :: r =>
        let (vs, s) ← items? read fuel r
        return (v :: vs, s)
      | ']' :: r => return ([v], r)
      | _ => none

/-- Reads what stands between the braces of a table, and the closing one,
with `fuel` as for a list. A line may end before and behind the sign that
parts a key from its value. -/
def members? (read : ValueReader) : Nat → Fields → List Char → Option (Fields × List Char)
  | 0, _, _ => none
  | fuel + 1, fields, s => do
    match ← skipLines? (fuel + 1) s with
    | '}' :: r => return (fields, r)
    | s =>
      let (path, s) ← key? s
      let s ← behind? '=' (← skipLines? (fuel + 1) s)
      let (v, s) ← read (← skipLines? (fuel + 1) s)
      let fields ← assign? path v fields
      match ← skipLines? (fuel + 1) s with
      | ',' :: r => members? read fuel fields r
      | '}' :: r => return (fields, r)
      | _ => none

/-- Reads a value in which lists and tables stand in one another to a
depth. -/
def value? : Nat → ValueReader
  | depth, s =>
    match s with
    | '[' :: r => match depth with
      | 0 => none
      | depth + 1 => (items? (value? depth) (r.length + 1) r).map fun (vs, r) => (.arr false vs, r)
    | '\x7b' :: r => match depth with
      | 0 => none
      | depth + 1 => (members? (value? depth) (r.length + 1) [] r).map fun (fields, r) =>
          (.table .inlined fields, r)
    | '"' :: _ | '\u0027' :: _ => (quoted? s).map fun (t, r) => (.str t, r)
    | _ => plain? s

-- ============================================================= documents

/-- Reads the statement that a line starts with. -/
def statement? (s : List Char) : Option (Statement × List Char) := do
  match s with
  | '[' :: '[' :: r =>
    let (path, s) ← key? r
    return (.element path, ← behind? ']' (← behind? ']' s))
  | '[' :: r =>
    let (path, s) ← key? r
    return (.table path, ← behind? ']' s)
  | _ =>
    let (path, s) ← key? s
    let (v, s) ← value? maxDepth (skipGap (← behind? '=' s))
    return (.assign path v, s)

/-- Adds all statements of a text to a document. More `fuel` than
characters is always enough, since every statement takes one at least. -/
def statements? : Nat → Draft → List Char → Option Draft
  | 0, _, _ => none
  | fuel + 1, d, s => do
    match ← skipLines? (fuel + 1) s with
    | [] => return d
    | s =>
      let (said, s) ← statement? s
      statements? fuel (← d.say? said) (← endLine? s)

/-- Reads a document; a mark of the byte order in front is skipped. -/
def ofString? (s : String) : Option Fields :=
  let text := match s.toList with
    | '\ufeff' :: r => r
    | text => text
  (statements? (text.length + 1) {} text).map (·.fields)

end HostTelemetry.Toml
