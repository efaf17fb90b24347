/-
JSON values as trees. A number is an integer of 64 bits, signed or not, or
a float: the text decides which, so that `1` and `1.0` stay apart.

A text may be well-formed and still stand for no value: a number beyond
the floats, a string with half of a surrogate pair or with ill-formed
bytes. Such a part is `unreadable`. Where a value is skipped it does no
harm, and where it is wanted it is refused.

The fields of an object stand in the order of the text, repetitions
included. Free-form values are `settled` when they are taken over: the
last of several fields of one name wins, and the fields are put in order.
-/
import HostTelemetry.Dict

namespace HostTelemetry

/-- A JSON value as it stands in a text. -/
inductive Json where
  | null
  | bool (b : Bool)
  /-- A number written without point and exponent, in 64 bits. -/
  | int (n : Int)
  | float (x : Float)
  | str (s : String)
  | arr (items : List Json)
  /-- Values by name, in the order of the text. -/
  | obj (fields : List (String × Json))
  /-- A part that is well-formed and stands for no value. -/
  | unreadable
deriving Inhabited

namespace Json

-- ============================================================== look-up

/-- The value of a field, the last one where the name is repeated. -/
def field? (name : String) : Json → Option Json
  | obj fields => (fields.reverse.find? (·.1 == name)).map (·.2)
  | _ => none

/-- The value at the end of a path of field names. -/
def at? (j : Json) (path : List String) : Option Json :=
  path.foldl (fun j name => j.bind (field? name)) (some j)

/-- The text of a string value. -/
def str? : Json → Option String
  | str s => some s
  | _ => none

/-- The items of an array. -/
def arr? : Json → Option (List Json)
  | arr items => some items
  | _ => none

/-- Whether the value is an object. -/
def isObj : Json → Bool
  | obj _ => true
  | _ => false

-- ========================================================== good values

mutual

/-- Whether every part of the value is readable. -/
def sound : Json → Bool
  | arr items => soundItems items
  | obj fields => soundFields fields
  | unreadable => false
  | _ => true

/-- Whether every item is sound. -/
def soundItems : List Json → Bool
  | [] => true
  | j :: r => sound j && soundItems r

/-- Whether every field is sound. -/
def soundFields : List (String × Json) → Bool
  | [] => true
  | (_, j) :: r => sound j && soundFields r

end

mutual

/-- The number of arrays and objects that stand inside one another. -/
def depth : Json → Nat
  | arr items => depthItems items + 1
  | obj fields => depthFields fields + 1
  | _ => 0

/-- The greatest depth of an item. -/
def depthItems : List Json → Nat
  | [] => 0
  | j :: r => max (depth j) (depthItems r)

/-- The greatest depth of a field. -/
def depthFields : List (String × Json) → Nat
  | [] => 0
  | (_, j) :: r => max (depth j) (depthFields r)

end

/-- The greatest depth of a value that is taken over. -/
def maxDepth : Nat := 127

-- ============================================================= settling

mutual

/-- The value with the fields of every object in ascending order, the last
of each name. -/
def settled : Json → Json
  | arr items => arr (settledItems items)
  | obj fields => obj (settledFields [] fields)
  | j => j

/-- The items, each settled. -/
def settledItems : List Json → List Json
  | [] => []
  | j :: r => settled j :: settledItems r

/-- Puts the fields into those already in order, from first to last. -/
def settledFields (done : List (String × Json)) :
    List (String × Json) → List (String × Json)
  | [] => done
  | (name, j) :: r => settledFields (Dict.place name (settled j) done) r

end

/-- A free-form value: every part readable, and settled. -/
def free? (j : Json) : Option Json := if sound j then some (settled j) else none

/-- Free-form values by name, which only an object gives. -/
def freeFields? : Json → Option (List (String × Json))
  | obj fields => if soundFields fields then some (settledFields [] fields) else none
  | _ => none

/-- A free-form value that a text gives, within the depth allowed. -/
def document? (j : Json) : Option Json := if depth j ≤ maxDepth then free? j else none

end Json

end HostTelemetry
