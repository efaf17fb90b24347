/-
The values of a TOML 1.1 document, and the tables that its statements
build.

A table remembers how it came to be, for that decides what may be added to
it: a header names a table once, a dotted key adds only to tables without a
header, which no header can name any more from then on, and nothing is
added to an inline table. Arrays of tables grow by headers only, and a path
through one leads to its last table.
-/

namespace HostTelemetry.Toml

-- =============================================================== values

/-- How a table came to be. -/
inductive Origin where
  /-- It stands on the way to a table with a header. -/
  | onTheWay
  /-- A dotted key made it or has passed it. -/
  | dotted
  /-- It has a header, or it is the document. -/
  | header
  /-- It stands between braces. -/
  | inlined
deriving DecidableEq, Repr, Inhabited

/-- A value. -/
inductive Value where
  | str (s : String)
  | int (n : Int)
  | float (x : Float)
  | beyond
  | bool (b : Bool)
  /-- A date, a time, or both. -/
  | moment
  /-- A list; `grows` is set where headers of double brackets add to it. -/
  | arr (grows : Bool) (items : List Value)
  /-- Values by name, in the order of the document. -/
  | table (origin : Origin) (fields : List (String × Value))
deriving Inhabited

/-- The fields of a table. -/
abbrev Fields := List (String × Value)

/-- The value of a field. -/
def Fields.get? (fields : Fields) (name : String) : Option Value :=
  (fields.find? (·.1 == name)).map (·.2)

/-- The fields with one more or with another value for one. -/
def Fields.put (name : String) (v : Value) : Fields → Fields
  | [] => [(name, v)]
  | (n, w) :: r => if n == name then (n, v) :: r else (n, w) :: Fields.put name v r

-- ============================================================ statements

/-- A table that a path passes, with the way to put it back. A dotted key
cannot end in an array of tables, as `last` would have it. -/
def passed? (byDot last : Bool) : Option Value → Option (Fields × (Fields → Value))
  | none => some ([], .table (if byDot then .dotted else .onTheWay))
  | some (.table .inlined _) => none
  | some (.table .header fields) => if byDot then none else some (fields, .table .header)
  | some (.table origin fields) => some (fields, .table (if byDot then .dotted else origin))
  | some (.arr true items) =>
    match items.getLast? with
    | some (.table origin fields) =>
      if byDot && last then none
      else some (fields, fun fields => .arr true (items.dropLast ++ [.table origin fields]))
    | _ => none
  | some _ => none

/-- Changes the fields at the end of a path. -/
def within? (byDot : Bool) (change : Fields → Option Fields) :
    List String → Fields → Option Fields
  | [], fields => change fields
  | name :: path, fields => do
    let (inner, back) ← passed? byDot path.isEmpty (fields.get? name)
    let inner ← within? byDot change path inner
    return fields.put name (back inner)

/-- Opens the table with a header. -/
def openTable? (name : String) (fields : Fields) : Option Fields :=
  match fields.get? name with
  | none => some (fields.put name (.table .header []))
  | some (.table .onTheWay inner) => some (fields.put name (.table .header inner))
  | some _ => none

/-- Adds a table to an array of tables. -/
def appendTable? (name : String) (fields : Fields) : Option Fields :=
  match fields.get? name with
  | none => some (fields.put name (.arr true [.table .header []]))
  | some (.arr true items) => some (fields.put name (.arr true (items ++ [.table .header []])))
  | some _ => none

/-- Adds a value that is not there yet. -/
def add? (name : String) (v : Value) (fields : Fields) : Option Fields :=
  match fields.get? name with
  | none => some (fields.put name v)
  | some _ => none

/-- Assigns a value to a dotted key of a table. -/
def assign? (path : List String) (v : Value) (fields : Fields) : Option Fields := do
  let name ← path.getLast?
  within? true (add? name v) path.dropLast fields

/-- A line of a document that says something. -/
inductive Statement where
  | table (path : List String)
  | element (path : List String)
  /-- A value for a dotted key of the table whose header came last. -/
  | assign (path : List String) (v : Value)
deriving Inhabited

/-- The document and the path of the table whose header came last. -/
structure Draft where
  /-- The tables so far. -/
  fields : Fields := []
  /-- Where assignments go. -/
  current : List String := []
deriving Inhabited

/-- Adds a statement to a document. -/
def Draft.say? (d : Draft) : Statement → Option Draft
  | .table path => do
    let name ← path.getLast?
    return ⟨← within? false (openTable? name) path.dropLast d.fields, path⟩
  | .element path => do
    let name ← path.getLast?
    return ⟨← within? false (appendTable? name) path.dropLast d.fields, path⟩
  | .assign path v => do
    return { d with fields := ← within? false (assign? path v) d.current d.fields }

end HostTelemetry.Toml
