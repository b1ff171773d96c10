import WorkerRoster.Json.Decode
import WorkerRoster.Json.Printer
import WorkerRoster.Presence

/-!
# Presence as JSON

The written form of a presence, and its reader.
-/

set_option autoImplicit false

namespace WorkerRoster

open Json

/-! ## Writing -/

/-- An extension as a JSON value. -/
def Extension.toValue (e : Extension) : Value :=
  .object
    [("namespace", .text e.space), ("element", .text e.element),
     ("attributes", .object (e.attributes.map fun (k, v) => (k, .text v)))]

/-- A presence as a JSON value. -/
def Presence.toValue (p : Presence) : Value :=
  .object [("extensions", .array (p.extensions.map Extension.toValue))]

/-! ## Reading -/

namespace Extension

/-- Read the attributes, of which the last one of a name counts. -/
def readAttributes : Source → Reading (List (String × String))
  | .object members ending =>
    Source.readMembers
      (fun before key s => some ((Source.readText s).map fun v => Keyed.put key v before))
      [] ending members
  | s => .error (s.mismatch "a map")

/-- The fields of an extension that have been read. -/
structure Draft where
  space : Option String := none
  element : Option String := none
  attributes : Option (List (String × String)) := none

/-- Read one member of an extension. -/
def readMember (d : Draft) (key : String) (s : Source) : Option (Reading Draft) :=
  match key with
  | "namespace" =>
    some ((Source.fill key d.space Source.readText s).map fun v => { d with space := v })
  | "element" =>
    some ((Source.fill key d.element Source.readText s).map fun v => { d with element := v })
  | "attributes" =>
    some ((Source.fill key d.attributes readAttributes s).map fun v => { d with attributes := v })
  | _ => none

/-- The extension whose fields have been read; only the attributes may be left out. -/
def Draft.finish (d : Draft) : Reading Extension :=
  match d.space, d.element with
  | none, _ => .error (.missingField "namespace")
  | some _, none => .error (.missingField "element")
  | some space, some element => .ok ⟨space, element, d.attributes.getD []⟩

/-- What the fields of an extension written as an array should have been. -/
def lengthExpected : String := "struct PresenceExtension with 3 elements"

/-- Read an extension. -/
def read : Source → Reading Extension
  | .object members ending => do
    (← Source.readMembers readMember {} ending members).finish
  | .array items ending => do
    let (space, rest) ←
      Source.itemOr ending Source.readText (.error (.invalidLength 0 lengthExpected)) items
    let (element, rest) ←
      Source.itemOr ending Source.readText (.error (.invalidLength 1 lengthExpected)) rest
    let (attributes, rest) ← Source.itemOr ending readAttributes (.ok []) rest
    Source.endItems .text items.length ending rest
    return ⟨space, element, attributes⟩
  | s => .error (s.mismatch "struct PresenceExtension")

end Extension

namespace Presence

/-- Read a list of extensions. -/
def readExtensions : Source → Reading (List Extension)
  | .array items ending => Source.readItems Extension.read ending items
  | s => .error (s.mismatch "a sequence")

/-- Read one member of a presence. -/
def readMember (d : Option (List Extension)) (key : String) (s : Source) :
    Option (Reading (Option (List Extension))) :=
  match key with
  | "extensions" => some (Source.fill key d readExtensions s)
  | _ => none

/-- Read a presence. -/
def read : Source → Reading Presence
  | .object members ending => do
    let extensions ← Source.readMembers readMember none ending members
    return ⟨extensions.getD []⟩
  | .array items ending => do
    let (extensions, rest) ← Source.itemOr ending readExtensions (.ok []) items
    Source.endItems .text items.length ending rest
    return ⟨extensions⟩
  | s => .error (s.mismatch "struct PresencePayload")

/-- Read a presence from a text. -/
def ofText (s : String) : Reading Presence :=
  (Document.ofText s).read read

end Presence

end WorkerRoster
