import WorkerRoster.Json.Number
import WorkerRoster.Keyed

/-!
# JSON Values

A JSON value as data. The members of an object are a list; a value that was read from a text has
them in ascending key order, each key once (`Keyed.put` keeps that), and a value built for writing
has them in the order they are to be written.
-/

set_option autoImplicit false

namespace WorkerRoster.Json

/-- A JSON value. -/
inductive Value where
  | null
  | bool (flag : Bool)
  | number (n : Number)
  | text (s : String)
  | array (items : List Value)
  | object (members : List (String × Value))
  deriving Repr

namespace Value

/-- Whether a value is `null`. -/
def isNull : Value → Bool
  | .null => true
  | _ => false

mutual

/-- The same value with the members of every object in ascending key order. -/
def sorted : Value → Value
  | .array items => .array (sortedItems items)
  | .object members => .object (sortedMembers members)
  | .null => .null
  | .bool b => .bool b
  | .number n => .number n
  | .text s => .text s

/-- Sort every item. -/
def sortedItems : List Value → List Value
  | [] => []
  | v :: rest => v.sorted :: sortedItems rest

/-- Sort every member's value, and the members by key. -/
def sortedMembers : List (String × Value) → List (String × Value)
  | [] => []
  | (k, v) :: rest => Keyed.put k v.sorted (sortedMembers rest)

end

/-- The value of a member of an object. -/
def get? : Value → String → Option Value
  | .object members, key => members.lookup key
  | _, _ => none

end Value

end WorkerRoster.Json
