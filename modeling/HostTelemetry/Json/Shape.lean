/-
Shapes of JSON values: what another program sends is checked as a whole
before parts of it are taken.

A record is an object, in which no known name is repeated, or an array that
gives all of its fields in their order. A field that need not be there may
also be `null`. `fits` checks a value, and `at?` finds a part of it, in
either form of its records.
-/
import HostTelemetry.Json.Decode

namespace HostTelemetry.Json

-- =============================================================== shapes

/-- A shape of values. -/
inductive Shape where
  | anything
  | text
  | truth
  | int (min max : Int)
  | oneOf (words : List String)
  /-- The name of one of several cases. -/
  | named (words : List String)
  /-- A value of a shape, or `null`. -/
  | nullable (shape : Shape)
  | list (item : Shape)
  | dict (value : Shape)
  /-- A record: the names of its fields in their order, each with whether it
  must be there and its shape. -/
  | record (fields : List (String × Bool × Shape))
deriving Inhabited

namespace Shape

/-- Several fields of one shape. -/
def each (shape : Shape) (names : List String) : List (String × Shape) := names.map (·, shape)

/-- A record of which no field must be there. -/
def optional (fields : List (String × Shape)) : Shape :=
  .record (fields.map fun (name, shape) => (name, false, shape))

-- ============================================================= checking

/-- As `slots?`, but an array has to give all of the fields. -/
def slots? (names : List String) : Json → Option (List (Option Json))
  | arr items => if items.length = names.length then some (items.map some) else none
  | j => Json.slots? names j

mutual

/-- Whether a value has a shape. -/
def fits : Shape → Json → Bool
  | .anything, _ => true
  | .text, j => (asString? j).isSome
  | .truth, j => (asBool? j).isSome
  | .int min max, j => (asInt? min max j).isSome
  | .oneOf words, j => (asString? j).any words.contains
  | .named words, j => (asName? j).any words.contains
  | .nullable shape, j => match j with
    | null => true
    | j => shape.fits j
  | .list item, j => match j with
    | arr items => items.all fun j => item.fits j
    | _ => false
  | .dict value, j => match j with
    | obj fields => fields.all fun f => value.fits f.2
    | _ => false
  | .record fields, j => match slots? (fields.map (·.1)) j with
    | some slots => fieldsFit fields slots
    | none => false

/-- Whether the fields of a record have their shapes. -/
def fieldsFit : List (String × Bool × Shape) → List (Option Json) → Bool
  | [], _ => true
  | (_, must, shape) :: fields, slots =>
    (match slots with
      | [] | none :: _ => !must
      | some null :: _ => !must || shape.fits null
      | some j :: _ => shape.fits j) && fieldsFit fields slots.tail

end

-- ============================================================== look-up

/-- The value of a field of a record and its shape, if the field is there
and not `null`. -/
def field? (shape : Shape) (name : String) (j : Json) : Option (Shape × Json) := do
  let .record fields := shape | none
  let place ← fields.findIdx? (·.1 == name)
  let (_, _, inner) ← fields[place]?
  let value ← match j with
    | obj fields => (fields.find? (·.1 == name)).map (·.2)
    | arr items => items[place]?
    | _ => none
  match value with
  | null => none
  | value => return (inner, value)

/-- The part of a value at the end of a path of field names. -/
def at? (shape : Shape) (j : Json) : List String → Option Json
  | [] => some j
  | name :: path => (shape.field? name j).bind fun (inner, j) => inner.at? j path

/-- What is read at the end of a path. -/
def read? {α : Type} (shape : Shape) (value? : Json → Option α) (j : Json)
    (path : List String) : Option α :=
  (shape.at? j path).bind value?

end Shape

end HostTelemetry.Json
