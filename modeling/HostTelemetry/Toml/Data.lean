/-
Values without a shape that they are expected to have: those that are
passed over, and those that are taken as data.

Both are looked at, so a number in them must not be too large. Data holds
integers of 64 bits only, and a moment in it may also be given as a table:
one whose first name, in the order of names, is the name of moments, with
the moment as a text below that name.
-/
import HostTelemetry.Text.Integer
import HostTelemetry.Toml.Scalar

namespace HostTelemetry.Toml

-- ========================================================= passed over

/-- The least integer of 128 bits with a sign. -/
def minI128 : Int := -0x80000000000000000000000000000000

/-- The greatest integer of 128 bits. -/
def maxU128 : Int := 0xFFFFFFFFFFFFFFFFFFFFFFFFFFFFFFFF

mutual

/-- Whether a value can be passed over: its integers have at most 128 bits,
with a sign or without one, and its floats are floats. -/
def Value.isPassable : Value → Bool
  | .int n => minI128 ≤ n && n ≤ maxU128
  | .beyond => false
  | .arr _ items => arePassable items
  | .table _ fields => arePassableFields fields
  | _ => true

/-- Whether all items can be passed over. -/
def arePassable : List Value → Bool
  | [] => true
  | v :: r => v.isPassable && arePassable r

/-- Whether all fields can be passed over. -/
def arePassableFields : List (String × Value) → Bool
  | [] => true
  | (_, v) :: r => v.isPassable && arePassableFields r

end

-- ======================================================= taken as data

/-- The name below which a table gives a moment. -/
def momentName : String := "$__toml_private_datetime"

/-- Whether a table gives a moment: it has the name of moments, and no name
stands before that one. -/
def givesMoment (fields : Fields) : Bool :=
  fields.any (·.1 == momentName) && fields.all fun f => ¬ f.1 < momentName

/-- The moment that a table gives; what else the table holds is not looked
at. -/
def momentOf? (fields : Fields) : Option Value :=
  match fields.get? momentName with
  | some (.str s) => if isMoment s.toList then some .moment else none
  | _ => none

mutual

/-- A value as data. -/
def Value.asData? : Value → Option Value
  | .int n => if Text.minI64 ≤ n ∧ n ≤ Text.maxI64 then some (.int n) else none
  | .beyond => none
  | .arr grows items => (itemsAsData? items).map (.arr grows)
  | .table origin fields =>
    if givesMoment fields then momentOf? fields
    else (fieldsAsData? fields).map (.table origin)
  | v => some v

/-- The items of an array as data. -/
def itemsAsData? : List Value → Option (List Value)
  | [] => some []
  | v :: r => do return (← v.asData?) :: (← itemsAsData? r)

/-- The fields of a table, or of a document, as data. -/
def fieldsAsData? : List (String × Value) → Option (List (String × Value))
  | [] => some []
  | (name, v) :: r => do return (name, ← v.asData?) :: (← fieldsAsData? r)

end

end HostTelemetry.Toml
