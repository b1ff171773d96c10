import WorkerRoster.Json.Overlay
import WorkerRoster.Settings.Environment
import WorkerRoster.Settings.Wire

/-!
# Loading Settings

Settings come in three layers: what holds where nothing is set, over it the settings file, over it
the environment. A file that is not there is as good as an empty one; a file that cannot be read or
understood is an error.
-/

set_option autoImplicit false

namespace WorkerRoster

/-! ## Files -/

/-- What is found under the path of a settings file. -/
inductive FileContent where
  | missing
  | directory
  | bytes (content : ByteArray)

/-- A settings file: its path, and what is found there. -/
structure SettingsFile where
  path : String
  content : FileContent

/-- A name behind a directory, with one slash between them. -/
def joinPath (directory name : String) : String :=
  if directory = "" ∨ directory.toList.getLast? = some '/' then directory ++ name
  else directory ++ "/" ++ name

/-- The path of the settings file, from the home directory if there is one. -/
def SettingsFile.defaultPath (home : Option String) : String :=
  joinPath (joinPath (home.getD "/tmp") ".brewery") "settings.json"

/-! ## Looking around -/

/-- Something that settings are taken from. -/
inductive Look where
  | file
  | environment
  deriving DecidableEq, Repr

/-- Work that may look at the settings file and at the environment on its way. -/
inductive Inquiry (α : Type) where
  | done (a : α)
  | readFile (next : SettingsFile → Inquiry α)
  | readEnvironment (next : Environment → Inquiry α)

namespace Inquiry

variable {α β : Type}

/-- What the work comes to where there are some file and some environment. -/
def answer (file : SettingsFile) (env : Environment) : Inquiry α → α
  | .done a => a
  | .readFile next => (next file).answer file env
  | .readEnvironment next => (next env).answer file env

/-- What the work looks at there, in order. -/
def looks (file : SettingsFile) (env : Environment) : Inquiry α → List Look
  | .done _ => []
  | .readFile next => .file :: (next file).looks file env
  | .readEnvironment next => .environment :: (next env).looks file env

/-- Do something with what the work comes to. -/
def map (f : α → β) : Inquiry α → Inquiry β
  | .done a => .done (f a)
  | .readFile next => .readFile fun file => (next file).map f
  | .readEnvironment next => .readEnvironment fun env => (next env).map f

variable (f : α → β) (file : SettingsFile) (env : Environment)

@[simp] theorem answer_map (i : Inquiry α) : (i.map f).answer file env = f (i.answer file env) := by
  induction i with
  | done a => rfl
  | readFile next ih => exact ih file
  | readEnvironment next ih => exact ih env

@[simp] theorem looks_map (i : Inquiry α) : (i.map f).looks file env = i.looks file env := by
  induction i with
  | done a => rfl
  | readFile next ih => exact congrArg (Look.file :: ·) (ih file)
  | readEnvironment next ih => exact congrArg (Look.environment :: ·) (ih env)

end Inquiry

/-! ## Errors -/

/-- Why a file could not be read. -/
inductive FileError where
  | isDirectory
  | notText
  deriving DecidableEq, Repr

/-- The wording of the reason. -/
def FileError.message : FileError → String
  | .isDirectory => "Is a directory (os error 21)"
  | .notText => "stream did not contain valid UTF-8"

/-- Why settings could not be loaded. -/
inductive LoadError where
  | file (e : FileError)
  | json (fault : Json.Fault)
  | unusable (reason : Settings.Unusable)
  deriving DecidableEq, Repr

/-- The wording of the reason. -/
def LoadError.message : LoadError → String
  | .file e => "failed to read settings file: " ++ e.message
  | .json fault => "failed to parse settings JSON: " ++ fault.message
  | .unusable reason => "invalid settings value: " ++ reason.message

/-! ## Loading -/

namespace FileContent

/-- The text of a file, none if there is no file. -/
def text? : FileContent → Except FileError (Option String)
  | .missing => .ok none
  | .directory => .error .isDirectory
  | .bytes content =>
    match String.fromUTF8? content with
    | some s => .ok (some s)
    | none => .error .notText

end FileContent

namespace Settings

/-- The settings where nothing is set, as a document that a file can be laid over. -/
def baseDocument : Json.Value :=
  default.toValue.sorted

/-- The document of all settings, from the text of a file if there is one. -/
def document? (text : Option String) : Json.Reading Json.Value :=
  match text with
  | none => .ok baseDocument
  | some s =>
    match Json.Value.ofText? s with
    | some changes => .ok (baseDocument.overlay changes)
    | none => .error .malformed

/-- The settings of a file, before anything is taken from the environment. -/
def ofFile (content : FileContent) : Except LoadError Settings :=
  match content.text? with
  | .error e => .error (.file e)
  | .ok text =>
    match document? text with
    | .error fault => .error (.json fault)
    | .ok document =>
      match ofValue document with
      | .error fault => .error (.json fault)
      | .ok s => .ok s

/-- The entry written before a file is read. -/
def readingEntry (file : SettingsFile) : Entry :=
  let message :=
    match file.content with
    | .missing => "settings file not found, using defaults"
    | .directory | .bytes _ => "loading settings from file"
  .write .debug message [("path", .shown (Text.quoted file.path))]

/-- Load settings: the file is looked at first, and the environment only if the file can be used. -/
def loading : Inquiry (Except LoadError Settings × Journal) :=
  .readFile fun file =>
    match ofFile file.content with
    | .error e => .done (.error e, [readingEntry file])
    | .ok s =>
      .readEnvironment fun env =>
        let (s, notes) := s.withEnvironment env
        let journal := readingEntry file :: notes
        match s.unusable? with
        | some reason => .done (.error (.unusable reason), journal)
        | none => .done (.ok s, journal)

/-- Load settings from a file and the environment. -/
def load (file : SettingsFile) (env : Environment) : Except LoadError Settings × Journal :=
  loading.answer file env

/-- A file that cannot be used ends the loading. -/
theorem load_of_error {file : SettingsFile} {e : LoadError} (h : ofFile file.content = .error e)
    (env : Environment) : load file env = (.error e, [readingEntry file]) := by
  unfold load loading
  simp only [Inquiry.answer, h]

/-- What a file says is put under the environment, and must be usable then. -/
theorem load_of_ok {file : SettingsFile} {s : Settings} (h : ofFile file.content = .ok s)
    (env : Environment) :
    load file env =
      ((s.withEnvironment env).1.unusable?.elim (.ok (s.withEnvironment env).1)
        fun reason => .error (.unusable reason),
        readingEntry file :: (s.withEnvironment env).2) := by
  unfold load loading
  simp only [Inquiry.answer, h]
  cases (s.withEnvironment env).1.unusable? <;> rfl

/-- The file is looked at once, and then the environment unless the file cannot be used. -/
theorem looks_loading (file : SettingsFile) (env : Environment) :
    loading.looks file env =
      if (ofFile file.content).isOk then [.file, .environment] else [.file] := by
  unfold loading
  simp only [Inquiry.looks]
  cases ofFile file.content with
  | error e => rfl
  | ok s =>
    dsimp only [Inquiry.looks]
    cases (s.withEnvironment env).1.unusable? <;> rfl

end Settings

end WorkerRoster
