/-
Values of a known shape, read from a JSON tree and written to one.

A record is written as an object. It may be read from an object, where
fields of other names are skipped and a known name must not be repeated,
or from an array that gives the fields in their order. A field is
`required`, or it has a value that stands for its absence; `null` is an
absent value for optional fields only, and nowhere else.
-/
import HostTelemetry.Json.Basic
import HostTelemetry.Text.Integer

namespace HostTelemetry.Json

-- ============================================================== scalars

/-- A text. -/
def asString? : Json → Option String
  | str s => some s
  | _ => none

/-- A number from 0 to `max`. -/
def asNat? (max : Nat) : Json → Option Nat
  | int n => if 0 ≤ n ∧ n ≤ max then some n.toNat else none
  | _ => none

/-- An unsigned number of 64 bits. -/
def asUInt64? (j : Json) : Option UInt64 := (asNat? Text.maxU64 j).map UInt64.ofNat

/-- An unsigned number of 16 bits. -/
def asUInt16? (j : Json) : Option UInt16 := (asNat? Text.maxU16 j).map UInt16.ofNat

/-- An integer between two bounds. -/
def asInt? (min max : Int) : Json → Option Int
  | int n => if min ≤ n ∧ n ≤ max then some n else none
  | _ => none

/-- A signed number of 64 bits. -/
def asInt64? (j : Json) : Option Int64 :=
  (asInt? Text.minI64 Text.maxI64 j).map Int64.ofInt

/-- A signed number of 32 bits. -/
def asInt32? (j : Json) : Option Int32 :=
  (asInt? Text.minI32 Text.maxI32 j).map Int32.ofInt

/-- A float, or an integer taken as one. -/
def asFloat? : Json → Option Float
  | float x => some x
  | int n => some (Float.ofInt n)
  | _ => none

/-- A truth value. -/
def asBool? : Json → Option Bool
  | bool b => some b
  | _ => none

/-- A list, each item of which is read. -/
def asList? {α : Type} (item? : Json → Option α) : Json → Option (List α)
  | arr items => items.mapM item?
  | _ => none

/-- An optional value: `null` is none. -/
def asOption? {α : Type} (value? : Json → Option α) : Json → Option (Option α)
  | null => some none
  | j => (value? j).map some

/-- The name of one of several cases: the text itself, or an object with
that name and `null`. -/
def asName? : Json → Option String
  | str s => some s
  | obj [(name, null)] => some name
  | _ => none

-- ============================================================== records

/-- What a text gives for each of a record's fields: nothing where the
field is absent. The names are those of all fields in their order. -/
def slots? (names : List String) : Json → Option (List (Option Json))
  | obj fields =>
    if names.all fun n => (fields.filter (·.1 == n)).length ≤ 1 then
      some (names.map fun n => (fields.find? (·.1 == n)).map (·.2))
    else none
  | arr items =>
    if items.length ≤ names.length then
      some ((List.range names.length).map fun i => items[i]?)
    else none
  | _ => none

/-- A field that must be there. -/
def required? {α : Type} (value? : Json → Option α) (slot : Option Json) : Option α :=
  slot.bind value?

/-- A field whose absence stands for a value. -/
def orElse? {α : Type} (absent : α) (value? : Json → Option α) : Option Json → Option α
  | none => some absent
  | some j => value? j

/-- The values of an object by name, the last of each. -/
def asDict? {α : Type} (value? : Json → Option α) : Json → Option (Dict String α)
  | obj fields =>
    (fields.mapM fun (f : String × Json) => (value? f.2).map fun a => (f.1, a)).map Dict.ofList
  | _ => none

/-- A field that is left out when it holds the value that stands for its
absence. -/
def optionally {α : Type} [DecidableEq α] (absent : α) (name : String) (write : α → Json)
    (a : α) : List (String × Json) :=
  if a = absent then [] else [(name, write a)]

/-- An unsigned number of 64 bits in JSON. -/
def ofUInt64 (n : UInt64) : Json := int n.toNat

/-- An unsigned number of 16 bits in JSON. -/
def ofUInt16 (n : UInt16) : Json := int n.toNat

/-- A float in JSON, which has no form for NaN and the infinities. -/
def ofFloat (x : Float) : Json := if x.isFinite then float x else null

end HostTelemetry.Json
