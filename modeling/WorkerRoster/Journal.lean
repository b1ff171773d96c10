/-!
# The Journal

What is written down about the work of the library: entries with a level, a message and named
fields. An entry comes from a record of named values, one of which is the message.
-/

set_option autoImplicit false

namespace WorkerRoster

/-- How much an entry matters. -/
inductive Level where
  | error
  | warn
  | info
  | debug
  | trace
  deriving DecidableEq, Repr

/-- The name of a level. -/
def Level.name : Level → String
  | .error => "ERROR"
  | .warn => "WARN"
  | .info => "INFO"
  | .debug => "DEBUG"
  | .trace => "TRACE"

/-- An entry of the journal. -/
structure Entry where
  level : Level
  message : String
  /-- The named values other than the message, in the order they were recorded. -/
  fields : List (String × String)
  deriving DecidableEq, Repr

/-! ## Records -/

/-- A value as it is recorded. -/
inductive Recorded where
  /-- A plain text. -/
  | text (s : String)
  /-- A truth value. -/
  | flag (b : Bool)
  /-- A number. -/
  | whole (n : Int)
  /-- Anything else, as it is shown. -/
  | shown (s : String)
  deriving DecidableEq, Repr

/-- A recorded value in words. -/
def Recorded.render : Recorded → String
  | .text s | .shown s => s
  | .flag b => if b then "true" else "false"
  | .whole n => toString n

namespace Entry

/-- The name that the message is recorded under. -/
def messageName : String := "message"

/-- Add a recorded value to an entry. A truth value is a field whatever its name is; any other value
    recorded as the message is the message. -/
def record (e : Entry) (name : String) (v : Recorded) : Entry :=
  match v with
  | .flag _ => { e with fields := e.fields ++ [(name, v.render)] }
  | .text _ | .whole _ | .shown _ =>
    if name = messageName then { e with message := v.render }
    else { e with fields := e.fields ++ [(name, v.render)] }

/-- The entry that a record makes. -/
def ofRecord (level : Level) (values : List (String × Recorded)) : Entry :=
  values.foldl (fun e (name, v) => e.record name v) ⟨level, "", []⟩

/-- The entry of a message with fields. -/
def write (level : Level) (message : String) (fields : List (String × Recorded)) : Entry :=
  ofRecord level ((messageName, .shown message) :: fields)

/-- The value of a field. -/
def field? (e : Entry) (name : String) : Option String :=
  e.fields.lookup name

end Entry

/-! ## Looking things up -/

/-- Whether a run of characters occurs in another. -/
def occurs (part : List Char) : List Char → Bool
  | [] => part.isEmpty
  | c :: rest => part.isPrefixOf (c :: rest) || occurs part rest

/-- Whether the message of an entry contains a text. -/
def Entry.mentions (e : Entry) (text : String) : Bool :=
  occurs text.toList e.message.toList

/-- The journal: its entries, first one first. -/
abbrev Journal := List Entry

namespace Journal

/-- Whether an entry of a level mentions a text. -/
def has (j : Journal) (level : Level) (text : String) : Bool :=
  j.any fun e => e.level = level && e.mentions text

/-- How many entries of a level there are. -/
def countAt (j : Journal) (level : Level) : Nat :=
  j.countP (·.level = level)

/-- The entries that mention a text. -/
def matching (j : Journal) (text : String) : Journal :=
  j.filter (·.mentions text)

end Journal

end WorkerRoster
