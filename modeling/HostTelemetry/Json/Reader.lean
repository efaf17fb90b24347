/-
From the words of a JSON text to its tree. The machine keeps the arrays
and objects that are still open on a stack and is told by its place which
word may come next, so a text of any depth is read by one pass over its
words.

An object with an unreadable name is unreadable as a whole, since no field
of it could be looked up.
-/
import HostTelemetry.Json.Token

namespace HostTelemetry.Json

/-- An array or object that is still open, its parts in reverse. -/
inductive Frame where
  /-- An array and its items so far. -/
  | items (done : List Json)
  /-- An object, its fields so far, whether all its names are readable, and
  the name whose value comes next. -/
  | fields (done : List (String × Json)) (sound : Bool) (name : String)

/-- What may come next. -/
inductive Place where
  | value
  /-- A value, or the end of an empty array. -/
  | firstItem
  | name
  /-- A name, or the end of an empty object. -/
  | firstName
  /-- The colon behind a name. -/
  | colon
  /-- A comma, or the end of the innermost open value. -/
  | after
  | finished (j : Json)

/-- The machine: what is open, from the inside out, and what may come. -/
structure Machine where
  stack : List Frame := []
  place : Place := .value

/-- A value is complete. -/
def Machine.give (stack : List Frame) (j : Json) : Machine :=
  match stack with
  | [] => ⟨[], .finished j⟩
  | .items done :: s => ⟨.items (j :: done) :: s, .after⟩
  | .fields done sound name :: s => ⟨.fields ((name, j) :: done) sound name :: s, .after⟩

/-- The innermost open value is complete, if it is of the kind that the
word closes. -/
def Machine.close? (stack : List Frame) : Token → Option Machine
  | .closeArr => match stack with
    | .items done :: s => some (give s (.arr done.reverse))
    | _ => none
  | .closeObj => match stack with
    | .fields done sound _ :: s =>
      some (give s (if sound then .obj done.reverse else .unreadable))
    | _ => none
  | _ => none

/-- A value begins, or is there with its only word. -/
def Machine.begin? (stack : List Frame) : Token → Option Machine
  | .openArr => some ⟨.items [] :: stack, .firstItem⟩
  | .openObj => some ⟨.fields [] true "" :: stack, .firstName⟩
  | .text s => some (give stack ((s.map Json.str).getD .unreadable))
  | .atom j => some (give stack j)
  | _ => none

/-- Takes the name of a field. -/
def Machine.takeName? (stack : List Frame) : Token → Option Machine
  | .text s? => match stack with
    | .fields done sound _ :: s =>
      some ⟨.fields done (sound && s?.isSome) (s?.getD "") :: s, .colon⟩
    | _ => none
  | _ => none

/-- Takes the next word. -/
def Machine.step? (m : Machine) (t : Token) : Option Machine :=
  match m.place with
  | .value => begin? m.stack t
  | .firstItem => close? m.stack t <|> begin? m.stack t
  | .name => takeName? m.stack t
  | .firstName => close? m.stack t <|> takeName? m.stack t
  | .colon => match t with
    | .colon => some { m with place := .value }
    | _ => none
  | .after => match t, m.stack with
    | .comma, .items _ :: _ => some { m with place := .value }
    | .comma, .fields .. :: _ => some { m with place := .name }
    | t, stack => close? stack t
  | .finished _ => none

/-- Takes words until one may not come. -/
def Machine.run? (m : Machine) : List Token → Option Machine
  | [] => some m
  | t :: r => (m.step? t).bind fun m => m.run? r

/-- The tree of a text that is one JSON value. -/
def ofBytes? (bytes : Bytes) : Option Json := do
  let m ← Machine.run? {} (← tokens? bytes)
  match m.place with
  | .finished j => return j
  | _ => none

/-- The tree of a text that is one JSON value. -/
def ofString? (s : String) : Option Json := ofBytes? (Text.encode s)

end HostTelemetry.Json
