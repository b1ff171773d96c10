import WorkerRoster.Json.Fault

/-!
# Reading Typed Documents

The steps that readers of typed documents are made of. Each goes through a tree from the front and
gives the first fault it meets. A record may be written as an object, with its members in any order
and others between them, or as an array of its fields in a fixed order.
-/

set_option autoImplicit false

namespace WorkerRoster.Json

/-- Whether a tree is a text that is being read for the first time, or a value that has been read
    before. The two differ only in what they find wrong with items in excess and with enumerations
    of a wrong kind: in a text these are not taken for JSON at all. -/
inductive Origin where
  | text
  | value
  deriving DecidableEq, Repr

/-- The outcome of reading. -/
abbrev Reading (α : Type) := Except Fault α

namespace Source

/-! ## Single values -/

/-- The fault of a tree that is not what was expected. -/
def mismatch (s : Source) (expected : String) : Fault :=
  match s with
  | .broken | .unreadable => .malformed
  | .null => .invalidType .null expected
  | .bool b => .invalidType (.bool b) expected
  | .number n => .invalidType (.number n) expected
  | .text t => .invalidType (.text t) expected
  | .array _ _ => .invalidType .sequence expected
  | .object _ _ => .invalidType .map expected

/-- Read a text. -/
def readText : Source → Reading String
  | .text s => .ok s
  | s => .error (s.mismatch "a string")

/-- Read a truth value. -/
def readBool : Source → Reading Bool
  | .bool b => .ok b
  | s => .error (s.mismatch "a boolean")

/-- Read a number of things. -/
def readCount : Source → Reading UInt64
  | .number (.natural n) => .ok n
  | .number (.negative n) => .error (.invalidValue (.number (.negative n)) "usize")
  | s => .error (s.mismatch "usize")

/-- Read something that may be `null`. -/
def readOptional {α : Type} (read : Source → Reading α) : Source → Reading (Option α)
  | .null => .ok none
  | s => (read s).map some

/-! ## Objects -/

/-- What a reader makes of a member: none if it has no use for the name. -/
abbrev FieldReader (σ : Type) := σ → String → Source → Option (Reading σ)

/-- Read the members of an object in order, skipping those that nobody has a use for. -/
def readMembers {σ : Type} (member : FieldReader σ) (state : σ) (ending : Ending) :
    List (Option String × Source) → Reading σ
  | [] => if ending = .closed then .ok state else .error .malformed
  | (none, _) :: _ => .error .malformed
  | (some key, s) :: rest =>
    match member state key s with
    | some (.ok state) => readMembers member state ending rest
    | some (.error fault) => .error fault
    | none => if s.isSound then readMembers member state ending rest else .error .malformed

/-- Read a member into its slot, which must still be empty. -/
def fill {α : Type} (name : String) (slot : Option α) (read : Source → Reading α) (s : Source) :
    Reading (Option α) :=
  match slot with
  | some _ => .error (.duplicateField name)
  | none => (read s).map some

/-! ## Arrays -/

/-- Take the next item of an array, none behind the last. -/
def nextItem (ending : Ending) : List Source → Reading (Option (Source × List Source))
  | s :: rest => .ok (some (s, rest))
  | [] => if ending = .closed then .ok none else .error .malformed

/-- Read the next item of an array, with something to fall back on behind the last. -/
def itemOr {α : Type} (ending : Ending) (read : Source → Reading α) (otherwise : Reading α)
    (items : List Source) : Reading (α × List Source) :=
  match nextItem ending items with
  | .ok (some (s, rest)) => (read s).map (·, rest)
  | .ok none => otherwise.map (·, [])
  | .error fault => .error fault

/-- See to it that no item is left of an array that had `total` of them. -/
def endItems (origin : Origin) (total : Nat) (ending : Ending) : List Source → Reading Unit
  | [] => if ending = .closed then .ok () else .error .malformed
  | _ :: _ =>
    match origin with
    | .text => .error .malformed
    | .value => .error (.invalidLength total "fewer elements in array")

/-- Read every item of an array. -/
def readItems {α : Type} (read : Source → Reading α) (ending : Ending) :
    List Source → Reading (List α)
  | [] => if ending = .closed then .ok [] else .error .malformed
  | s :: rest =>
    match read s with
    | .ok a => (readItems read ending rest).map (a :: ·)
    | .error fault => .error fault

/-! ## Enumerations -/

/-- The value that goes by a name. -/
def named {α : Type} (choices : List (String × α)) (name : String) : Reading α :=
  match choices.lookup name with
  | some a => .ok a
  | none => .error (.unknownVariant name (choices.map (·.1)))

/-- Read the content of a choice that has none, which is written as `null`. -/
def readNothing : Source → Reading Unit
  | .null => .ok ()
  | s => .error (s.mismatch "unit")

/-- Read one of several named values: its name, or an object with its name as only key. -/
def readChoice {α : Type} (origin : Origin) (choices : List (String × α)) : Source → Reading α
  | .text name => named choices name
  | .object ((some name, s) :: rest) ending =>
    if origin = .value ∧ rest ≠ [] then .error (.invalidValue .map "map with a single key")
    else
      match named choices name with
      | .error fault => .error fault
      | .ok a =>
        match readNothing s with
        | .error fault => .error fault
        | .ok () => if rest = [] ∧ ending = .closed then .ok a else .error .malformed
  | .object ((none, _) :: _) _ => .error .malformed
  | .object [] _ =>
    match origin with
    | .value => .error (.invalidValue .map "map with a single key")
    | .text => .error .malformed
  | s =>
    match origin with
    | .value => .error (s.mismatch "string or map")
    | .text => .error .malformed

end Source

/-- Read a whole text: a fault inside the value comes before anything that follows it. -/
def Document.read {α : Type} (read : Source → Reading α) (d : Document) : Reading α :=
  match read d.root with
  | .error fault => .error fault
  | .ok a => if d.endsClean then .ok a else .error .malformed

end WorkerRoster.Json
