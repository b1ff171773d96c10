import WorkerRoster.Keyed
import WorkerRoster.Worker

/-!
# Presence

What a member of the room shows of itself: a list of extensions, each an element of some name space
with attributes. Workers announce their status in one such extension; all others are none of this
library's business.
-/

set_option autoImplicit false

namespace WorkerRoster

/-- One element inside a presence. -/
structure Extension where
  /-- The name space of the element. -/
  space : String
  /-- The name of the element. -/
  element : String
  /-- Its attributes in the order of their names, each name once. -/
  attributes : List (String × String) := []
  deriving DecidableEq, Repr

/-- What a member shows. -/
structure Presence where
  extensions : List Extension := []
  deriving DecidableEq, Repr

/-! ## The status extension -/

/-- The name space of the extension that announces a status. -/
def statusSpace : String := "http://jitsi.org/protocol/jibri"

/-- The element that announces a status. -/
def statusElement : String := "jibri-status"

/-- The attribute that holds the word. -/
def statusAttribute : String := "status"

namespace Extension

/-- Set an attribute. -/
def set (e : Extension) (name value : String) : Extension :=
  { e with attributes := Keyed.put name value e.attributes }

/-- The value of an attribute. -/
def attribute? (e : Extension) (name : String) : Option String :=
  e.attributes.lookup name

/-- The extension that announces a status. -/
def announcing (s : Status) : Extension :=
  ({ space := statusSpace, element := statusElement } : Extension).set statusAttribute s.word

/-- Whether an extension has the given names. -/
def isNamed (e : Extension) (element space : String) : Bool :=
  e.element = element && e.space = space

end Extension

namespace Presence

/-- A presence that announces a status and nothing else. -/
def announcing (s : Status) : Presence :=
  ⟨[Extension.announcing s]⟩

/-- Add an extension behind the others. -/
def add (p : Presence) (e : Extension) : Presence :=
  ⟨p.extensions ++ [e]⟩

/-- The first extension of the given names. -/
def extension? (p : Presence) (element space : String) : Option Extension :=
  p.extensions.find? (·.isNamed element space)

/-- The status announced, if there is an extension for it. One without the attribute announces
    `undefined`. -/
def status? (p : Presence) : Option Status :=
  (p.extension? statusElement statusSpace).map fun e =>
    match e.attribute? statusAttribute with
    | some word => Status.ofWord word
    | none => .undefined

end Presence

end WorkerRoster
