import WorkerRoster.Json.Value

/-!
# Laying One Document over Another

A document of changes is laid over a base document: objects are merged member by member, everything
else in the changes replaces what the base has. A `null` member of the changes changes nothing.
-/

set_option autoImplicit false

namespace WorkerRoster.Json.Value

mutual

/-- The base document with the changes laid over it. -/
def overlay (base : Value) : Value → Value
  | .object changes =>
    match base with
    | .object members => .object (overlayMembers members changes)
    | _ => .object changes
  | .null => .null
  | .bool b => .bool b
  | .number n => .number n
  | .text s => .text s
  | .array items => .array items

/-- The members of the base with the members of the changes laid over them, one at a time. -/
def overlayMembers (members : List (String × Value)) : List (String × Value) → List (String × Value)
  | [] => members
  | (key, change) :: rest =>
    if change.isNull then overlayMembers members rest
    else
      let merged :=
        match members.lookup key with
        | some v => overlay v change
        | none => change
      overlayMembers (Keyed.put key merged members) rest

end

end WorkerRoster.Json.Value
