import WorkerRoster.Json.Source
import WorkerRoster.Text.Quoted

/-!
# Why a Document Was Refused

Either the text is no JSON, or it is JSON that does not describe what was asked for. A fault of the
second kind says what was found and what was expected, and has one wording.
-/

set_option autoImplicit false

namespace WorkerRoster.Json

/-- What stood where something else was expected. -/
inductive Found where
  | null
  | bool (flag : Bool)
  | number (n : Number)
  | text (s : String)
  | sequence
  | map
  deriving DecidableEq, Repr

/-- Why a document was refused. -/
inductive Fault where
  /-- The text is no JSON. -/
  | malformed
  /-- A value of another kind was expected. -/
  | invalidType (found : Found) (expected : String)
  /-- The kind of value is right, the value is not. -/
  | invalidValue (found : Found) (expected : String)
  /-- An array has too few or too many items. -/
  | invalidLength (length : Nat) (expected : String)
  /-- A name is none of those that are known. -/
  | unknownVariant (name : String) (known : List String)
  /-- A member has to be there and is not. -/
  | missingField (name : String)
  /-- A member is there twice. -/
  | duplicateField (name : String)
  deriving DecidableEq, Repr

/-- What was found, in words. -/
def Found.describe : Found → String
  | .null => "null"
  | .bool b => "boolean `" ++ (if b then "true" else "false") ++ "`"
  | .number (.real bits) => "floating point `" ++ String.ofList (realChars bits) ++ "`"
  | .number n => "integer `" ++ String.ofList n.chars ++ "`"
  | .text s => "string " ++ Text.quoted s
  | .sequence => "sequence"
  | .map => "map"

/-- A name between back quotes. -/
private def ticked (name : String) : String :=
  "`" ++ name ++ "`"

/-- The names to choose from, in words. -/
def describeChoice : List String → String
  | [] => "there are no variants"
  | [a] => "expected " ++ ticked a
  | [a, b] => "expected " ++ ticked a ++ " or " ++ ticked b
  | names => "expected one of " ++ String.intercalate ", " (names.map ticked)

/-- The wording of a fault. A text that is no JSON has none of its own. -/
def Fault.message : Fault → String
  | .malformed => ""
  | .invalidType found expected => "invalid type: " ++ found.describe ++ ", expected " ++ expected
  | .invalidValue found expected => "invalid value: " ++ found.describe ++ ", expected " ++ expected
  | .invalidLength n expected =>
    "invalid length " ++ String.ofList (Decimal.digits n) ++ ", expected " ++ expected
  | .unknownVariant name known =>
    "unknown variant " ++ ticked name ++ ", " ++ describeChoice known
  | .missingField name => "missing field " ++ ticked name
  | .duplicateField name => "duplicate field " ++ ticked name

end WorkerRoster.Json
