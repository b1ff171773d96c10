import WorkerRoster.Proofs.Journal
import WorkerRoster.Settings.Shared

/-!
# Settings Are Decided Once

A process can be given its settings or asked for them, any number of times and in any order, while
the settings file and the environment change as they like. The first call decides, and it alone can
look at the file and the environment. From then on the settings stay as they are: whoever asks gets
them, and whoever gives others gets these back.

## Main statements

- `Settings.exists_journal_load`: what is written down when settings are loaded
- `SharedSettings.decided_once`: the first call decides for all
-/

set_option autoImplicit false

namespace WorkerRoster

namespace SharedSettings

/-! ## Calls -/

/-- A call about the settings of a process. To ask for them comes with the file and the environment
    that are there at the time. -/
inductive Use where
  | get (file : SettingsFile) (env : Environment)
  | give (s : Settings)

/-- What a call comes to. -/
inductive Upshot where
  /-- Settings were asked for; what was written down, and what was looked at for them. -/
  | got (s : Settings) (journal : Journal) (looks : List Look)
  /-- Settings were given. -/
  | given (answer : Except Settings Unit)

/-- What was written down on a call. -/
def Upshot.journal : Upshot → Journal
  | .got _ journal _ => journal
  | .given _ => []

/-- What was looked at on a call. -/
def Upshot.looks : Upshot → List Look
  | .got _ _ looks => looks
  | .given _ => []

/-- All that was written down on calls. -/
def journalOf (upshots : List Upshot) : Journal :=
  upshots.flatMap Upshot.journal

/-- All that was looked at on calls. -/
def looksOf (upshots : List Upshot) : List Look :=
  upshots.flatMap Upshot.looks

/-- A call, and what it comes to. -/
def use (shared : SharedSettings) : Use → SharedSettings × Upshot
  | .get file env =>
    let (after, s, journal) := shared.get.answer file env
    (after, .got s journal (shared.get.looks file env))
  | .give s =>
    let (shared, answer) := shared.give s
    (shared, .given answer)

/-- What is decided after calls made one after the other. -/
def after (shared : SharedSettings) (uses : List Use) : SharedSettings :=
  uses.foldl (fun shared u => (shared.use u).1) shared

/-- What calls made one after the other come to. -/
def run (shared : SharedSettings) : List Use → List Upshot
  | [] => []
  | u :: rest => (shared.use u).2 :: run (shared.use u).1 rest

/-! ## The first call and the others -/

/-- The first call of a process, the settings it decides on, and what it comes to. -/
inductive Use.Decides : Use → Settings → Upshot → Prop where
  | given (s : Settings) : Decides (.give s) s (.given (.ok ()))
  | loaded {file : SettingsFile} {env : Environment} {s : Settings} {journal : Journal}
    (h : Settings.load file env = (.ok s, journal)) :
    Decides (.get file env) s (.got s journal (Settings.loading.looks file env))
  | failed {file : SettingsFile} {env : Environment} {e : LoadError} {journal : Journal}
    (h : Settings.load file env = (.error e, journal)) :
    Decides (.get file env) .default
      (.got .default (journal ++ [failureEntry e]) (Settings.loading.looks file env))

/-- What a call comes to once settings are decided, whatever the file and the environment. -/
def Use.late (s : Settings) : Use → Upshot
  | .get _ _ => .got s [] []
  | .give other => .given (.error other)

/-- A call made with another file and another environment there. -/
def Use.amid (file : SettingsFile) (env : Environment) : Use → Use
  | .get _ _ => .get file env
  | .give s => .give s

theorem exists_decides (u : Use) :
    ∃ s upshot, u.Decides s upshot ∧ use none u = (some s, upshot) := by
  cases u with
  | give s => exact ⟨s, _, .given s, rfl⟩
  | get file env =>
    cases hload : Settings.load file env with
    | mk result journal =>
      have hanswer : Settings.loading.answer file env = (result, journal) := hload
      cases result with
      | ok s => exact ⟨s, _, .loaded hload, by simp [use, get, orDefault, hanswer]⟩
      | error e => exact ⟨.default, _, .failed hload, by simp [use, get, orDefault, hanswer]⟩

theorem use_some (s : Settings) (u : Use) : use (some s) u = (some s, u.late s) := by
  cases u <;> rfl

theorem after_some (s : Settings) (uses : List Use) : after (some s) uses = some s := by
  induction uses with
  | nil => rfl
  | cons u rest ih =>
    rw [after, List.foldl_cons, use_some]
    exact ih

theorem run_some (s : Settings) (uses : List Use) : run (some s) uses = uses.map (Use.late s) := by
  induction uses with
  | nil => rfl
  | cons u rest ih => rw [run, use_some, ih, List.map_cons]

end SharedSettings

/-! ## What is written down -/

namespace Settings

theorem uselessEntry_eq (message name value : String) :
    uselessEntry message name value = ⟨.warn, message, [("key", name), ("value", value)]⟩ :=
  rfl

theorem of_mem_uselessEntry {message name value : String} {e : Entry}
    (h : e ∈ [uselessEntry message name value]) : e.level = .warn ∧ e.message = message := by
  rw [List.mem_singleton.1 h, uselessEntry_eq]
  exact ⟨rfl, rfl⟩

theorem of_mem_withFormat {s : Settings} {env : Environment} {e : Entry}
    (h : e ∈ (s.withFormat env).2) :
    e.level = .warn ∧ e.message = "invalid log format env var, ignoring" := by
  unfold withFormat at h
  split at h
  · split at h
    · cases h
    · exact of_mem_uselessEntry h
  · cases h

theorem of_mem_withCapacity {s : Settings} {env : Environment} {e : Entry}
    (h : e ∈ (s.withCapacity env).2) :
    e.level = .warn ∧ e.message = "invalid usize env var, ignoring" := by
  unfold withCapacity at h
  split at h
  · split at h
    · cases h
    · exact of_mem_uselessEntry h
  · cases h

/-- What the environment has written down is a warning, about a variable that cannot be used. -/
theorem of_mem_withEnvironment {s : Settings} {env : Environment} {e : Entry}
    (h : e ∈ (s.withEnvironment env).2) :
    e.level = .warn ∧ (e.message = "invalid log format env var, ignoring" ∨
      e.message = "invalid usize env var, ignoring") := by
  -- the form is taken after the room and the filter directives, and the capacity after the form
  rcases List.mem_append.1 h with he | he
  · have hformat := of_mem_withFormat (s := withLevel env (withRoom env s)) he
    exact hformat.imp_right .inl
  · have hcapacity :=
      of_mem_withCapacity (s := (withFormat env (withLevel env (withRoom env s))).1) he
    exact hcapacity.imp_right .inr

theorem level_readingEntry (file : SettingsFile) : (readingEntry file).level = .debug :=
  Entry.level_write _ _ _

/-- Loading begins with one entry about the file, and all that is written down behind it is warnings
    about the environment. -/
theorem exists_journal_load (file : SettingsFile) (env : Environment) :
    ∃ notes, (load file env).2 = readingEntry file :: notes ∧
      ∀ e ∈ notes, e.level = .warn ∧ (e.message = "invalid log format env var, ignoring" ∨
        e.message = "invalid usize env var, ignoring") := by
  cases hfile : ofFile file.content with
  | error e =>
    rw [load_of_error hfile]
    exact ⟨[], rfl, nofun⟩
  | ok s =>
    rw [load_of_ok hfile]
    exact ⟨(s.withEnvironment env).2, rfl, fun e he => of_mem_withEnvironment he⟩

end Settings

namespace SharedSettings

/-- Whether an entry tells that settings could not be loaded. -/
def isFailure (e : Entry) : Bool :=
  e.message = "failed to load settings, using defaults"

theorem failureEntry_eq (e : LoadError) :
    failureEntry e =
      ⟨.warn, "failed to load settings, using defaults", [("error", e.message)]⟩ :=
  rfl

/-- Loading is written down once, and never as a failure. -/
theorem counts_load (file : SettingsFile) (env : Environment) :
    Journal.countAt (Settings.load file env).2 .debug = 1 ∧
      (Settings.load file env).2.countP isFailure = 0 := by
  obtain ⟨notes, hjournal, hnotes⟩ := Settings.exists_journal_load file env
  have hdebug : notes.countP (·.level = .debug) = 0 := by
    rw [List.countP_eq_zero]
    intro e he
    simp [(hnotes e he).1]
  have hfailure : notes.countP isFailure = 0 := by
    rw [List.countP_eq_zero]
    intro e he
    rcases (hnotes e he).2 with hmessage | hmessage <;> simp [isFailure, hmessage]
  have hreading : isFailure (Settings.readingEntry file) = false := by
    obtain ⟨path, content⟩ := file
    cases content <;> rfl
  rw [hjournal]
  constructor
  · rw [Journal.countAt, List.countP_cons, hdebug, Settings.level_readingEntry]
    rfl
  · rw [List.countP_cons, hfailure, hreading]
    rfl

/-- Whether a call looks at the file and the environment if it is the first. -/
def Use.loads : Use → Bool
  | .get _ _ => true
  | .give _ => false

/-- What a call looks at if it is the first: the file, and then the environment if the file can be
    used. -/
def Use.looks : Use → List Look
  | .get file _ =>
    if (Settings.ofFile file.content).isOk then [.file, .environment] else [.file]
  | .give _ => []

/-- Whether a call fails to load settings if it is the first. -/
def Use.fails : Use → Bool
  | .get file env => !(Settings.load file env).1.isOk
  | .give _ => false

theorem Use.Decides.counts {first : Use} {s : Settings} {upshot : Upshot}
    (h : first.Decides s upshot) :
    Journal.countAt upshot.journal .debug = first.loads.toNat ∧
      upshot.journal.countP isFailure = first.fails.toNat := by
  cases h with
  | given s => exact ⟨rfl, rfl⟩
  | @loaded file env s journal hload =>
    have hcounts := counts_load file env
    rw [hload] at hcounts
    simpa [Upshot.journal, loads, fails, hload, Except.isOk, Except.toBool] using hcounts
  | @failed file env e journal hload =>
    obtain ⟨hdebug, hfailure⟩ := counts_load file env
    rw [hload] at hdebug hfailure
    -- the failure is written down behind what loading has written down
    constructor
    · rw [Journal.countAt] at hdebug
      rw [Upshot.journal, Journal.countAt, List.countP_append, hdebug, failureEntry_eq]
      rfl
    · rw [Upshot.journal, List.countP_append, hfailure, failureEntry_eq]
      simp [fails, hload, Except.isOk, Except.toBool, isFailure]

theorem Use.Decides.looks {first : Use} {s : Settings} {upshot : Upshot}
    (h : first.Decides s upshot) : upshot.looks = first.looks := by
  cases h with
  | given s => rfl
  | loaded h => exact Settings.looks_loading _ _
  | failed h => exact Settings.looks_loading _ _

theorem Use.nodup_looks (u : Use) : u.looks.Nodup := by
  unfold Use.looks
  split
  · split <;> decide
  · exact List.nodup_nil

theorem journal_late (s : Settings) (u : Use) : (u.late s).journal = [] := by
  cases u <;> rfl

theorem looks_late (s : Settings) (u : Use) : (u.late s).looks = [] := by
  cases u <;> rfl

theorem late_amid (s : Settings) (file : SettingsFile) (env : Environment) (u : Use) :
    (u.amid file env).late s = u.late s := by
  cases u <;> rfl

/-- However often and in whatever order a process is given its settings and asked for them, while
    the file and the environment change between the calls, the first call decides. Whoever asks gets
    the settings it decided on, and they stay so after each call behind it; whoever gives others
    later gets these back. What file and environment there are at a later call makes no difference.
    Loading is begun once, and only if the first call asks, and it is said once if it fails. Over
    all calls nothing is looked at twice: the file if the first call asks, and the environment if
    the file can be used then. -/
theorem decided_once (first : Use) (rest : List Use) :
    ∃ s upshot, first.Decides s upshot ∧
      run none (first :: rest) = upshot :: rest.map (Use.late s) ∧
      (∀ other journal looks,
        .got other journal looks ∈ run none (first :: rest) → other = s) ∧
      (∀ n, after none (first :: rest.take n) = some s) ∧
      (∀ (files : Nat → SettingsFile) (envs : Nat → Environment),
        run none (first :: rest.mapIdx fun i u => u.amid (files i) (envs i)) =
          run none (first :: rest)) ∧
      (journalOf (run none (first :: rest))).countAt .debug = first.loads.toNat ∧
      (journalOf (run none (first :: rest))).countP isFailure = first.fails.toNat ∧
      looksOf (run none (first :: rest)) = first.looks ∧
      (looksOf (run none (first :: rest))).Nodup := by
  obtain ⟨s, upshot, hdecides, huse⟩ := exists_decides first
  have hrun : ∀ uses, run none (first :: uses) = upshot :: uses.map (Use.late s) := by
    intro uses
    rw [run, huse, run_some]
  refine ⟨s, upshot, hdecides, hrun rest, ?same, fun n => ?_, fun files envs => ?_, ?_⟩
  case same =>
    intro other journal looks hgot
    rw [hrun, List.mem_cons] at hgot
    rcases hgot with rfl | hgot
    · -- the first call asked, and got what it decided on
      cases hdecides <;> rfl
    · obtain ⟨u, -, hu⟩ := List.mem_map.1 hgot
      cases u <;> cases hu
      rfl
  · rw [after, List.foldl_cons, huse]
    exact after_some s _
  · have hsame : (rest.mapIdx fun i u => u.amid (files i) (envs i)).map (Use.late s) =
        rest.map (Use.late s) := by
      apply List.ext_getElem?
      intro i
      simp only [List.getElem?_map, List.getElem?_mapIdx, Option.map_map]
      -- place by place, what a call comes to does not depend on what is there
      exact congrArg (Option.map · rest[i]?) (funext fun u => late_amid s (files i) (envs i) u)
    rw [hrun, hrun, hsame]
  · have hjournal : journalOf (run none (first :: rest)) = upshot.journal := by
      simp [journalOf, hrun, List.flatMap_map, journal_late]
    have hlooks : looksOf (run none (first :: rest)) = first.looks := by
      simp [looksOf, hrun, List.flatMap_map, looks_late, hdecides.looks]
    rw [hjournal, hlooks]
    exact ⟨hdecides.counts.1, hdecides.counts.2, rfl, first.nodup_looks⟩

/-- A process that is asked for its settings while a directory is in the place of the file takes
    what holds where nothing is set, and keeps to it when it is given settings, and when the
    directory is gone and the environment names a room. -/
theorem decided_once_unreadable :
    let path := "/root/.brewery/settings.json"
    let other : Settings := { version := "0.2.0" }
    let env : Environment := fun name => if name = "BREWERY_ROOM" then some "brewery" else none
    let first : Use := .get ⟨path, .directory⟩ fun _ => none
    let rest : List Use := [.give other, .get ⟨path, .missing⟩ env]
    .got .default [] [] ∈ run none (first :: rest) ∧
      ∃ journal, run none (first :: rest) =
        [.got .default journal [.file], .given (.error other), .got .default [] []] ∧
        journal.map (·.level) = [.debug, .warn] := by
  intro path other env first rest
  have hlast : .got .default [] [] ∈ run none (first :: rest) := by
    simp [run, use, get, give, orDefault, first, rest, Settings.loading, Settings.ofFile,
      FileContent.text?, Inquiry.map, Inquiry.answer, Inquiry.looks]
  obtain ⟨s, upshot, hdecides, hrun, hsame, -⟩ := decided_once first rest
  obtain rfl : Settings.default = s := hsame .default [] [] hlast
  refine ⟨hlast, ?_⟩
  replace hdecides :
      Use.Decides (.get ⟨path, .directory⟩ fun _ => none) .default upshot := hdecides
  cases hdecides with
  | loaded h => cases h
  | failed h =>
    cases h
    refine ⟨_, hrun, ?_⟩
    rw [List.map_append, List.map_singleton, List.map_singleton, Settings.level_readingEntry,
      failureEntry_eq]
    rfl

end SharedSettings

end WorkerRoster
