import WorkerRoster.Pattern
import WorkerRoster.Settings.Environment

/-!
# Filters for the Journal

Which entries of the journal are printed is said by directives, separated by commas. A directive
names a level, a part of the program and the level for it, or a span with fields; a part without
a level is printed entirely. A variable of the environment comes before what the settings say,
unless it holds something that is no directive.
-/

set_option autoImplicit false

namespace WorkerRoster

/-- How much is printed: nothing, or everything down to a level. -/
abbrev Verbosity := Option Level

namespace Verbosity

/-- Verbosities by rank, from nothing to everything. -/
def rank : Verbosity → Nat
  | none => 0
  | some .error => 1
  | some .warn => 2
  | some .info => 3
  | some .debug => 4
  | some .trace => 5

/-- The name of a verbosity. -/
def name : Verbosity → String
  | none => "off"
  | some .error => "error"
  | some .warn => "warn"
  | some .info => "info"
  | some .debug => "debug"
  | some .trace => "trace"

/-- All verbosities, least first. -/
def all : List Verbosity :=
  [none, some .error, some .warn, some .info, some .debug, some .trace]

/-- The more verbose of two. -/
def max (a b : Verbosity) : Verbosity :=
  if rank a < rank b then b else a

/-- The verbosity of a name in any case, or of a rank. -/
def ofWord? (cs : List Char) : Option Verbosity :=
  all.find? fun v =>
    Text.sameLetters (String.ofList cs) v.name || Decimal.value? (Decimal.dropPlus cs) = some v.rank

end Verbosity

/-! ## Field values -/

/-- Whether characters spell a real number without a sign. -/
def isUnsignedReal (cs : List Char) : Bool :=
  let isDigit (c : Char) : Bool := (Decimal.digitValue? c).isSome
  let isExponent : List Char → Bool
    | [] => true
    | mark :: rest =>
      let digits :=
        match rest with
        | '-' :: digits => digits
        | rest => Decimal.dropPlus rest
      (mark = 'e' || mark = 'E') && digits ≠ [] && digits.all isDigit
  let whole := cs.takeWhile isDigit
  match cs.dropWhile isDigit with
  | '.' :: rest =>
    (whole ≠ [] || rest.takeWhile isDigit ≠ []) && isExponent (rest.dropWhile isDigit)
  | rest => whole ≠ [] && isExponent rest

/-- Whether characters spell a value to ask for: a number, or else a pattern. All numbers are
    patterns, too, except those with a plus sign. -/
def isFieldValue : List Char → Bool
  | '+' :: number =>
    isUnsignedReal number ||
      ["inf", "infinity", "nan"].any fun name => Text.sameLetters (String.ofList number) name
  | cs => Pattern.isPattern cs

/-! ## Directives -/

/-- A directive, as far as it matters for how much is printed. -/
structure Directive where
  verbosity : Verbosity
  /-- Whether it asks for the value of a field, for which everything has to be looked at. -/
  asksForValue : Bool := false
  deriving DecidableEq, Repr

namespace Directive

/-- The number of bytes that characters take. -/
def byteLength (cs : List Char) : Nat :=
  cs.foldr (fun c bytes => c.utf8Size + bytes) 0

/-- Drop so many bytes, none if that would cut a character in two. -/
def dropBytes? : Nat → List Char → Option (List Char)
  | 0, cs => some cs
  | _ + 1, [] => none
  | n + 1, c :: rest => if c.utf8Size ≤ n + 1 then dropBytes? (n + 1 - c.utf8Size) rest else none

/-- The text of a directive, and the same without the blanks around it. Where words begin and end is
    found in the text without blanks, but they are cut out of the whole text at the same distance
    from its beginning. So blanks behind a directive become part of its last word, and blanks in
    front shift all words. -/
structure Spelling where
  whole : List Char
  trimmed : List Char

namespace Spelling

/-- The word that goes from where `rest` begins to the end. -/
def lastWord? (s : Spelling) (rest : List Char) : Option (List Char) :=
  dropBytes? (byteLength s.trimmed - byteLength rest) s.whole

/-- The word that goes from where `rest` begins over so many bytes. -/
def word? (s : Spelling) (rest : List Char) (bytes : Nat) : Option (List Char) :=
  (s.lastWord? rest).bind fun cs =>
    (dropBytes? bytes cs).map fun behind => cs.take (cs.length - behind.length)

end Spelling

/-- The directive of a level, everything if none is written; none if it is no level. -/
def ofLevel? (asksForValue : Bool) : List Char → Option Directive
  | [] => some ⟨some .trace, asksForValue⟩
  | cs => (Verbosity.ofWord? cs).map (⟨·, asksForValue⟩)

/-- Whether a field asks for a value, none if that is neither a number nor a pattern. The value
    stands between the first equals sign and the next. -/
def asks? (field : List Char) : Option Bool :=
  match field.dropWhile (· ≠ '=') with
  | _ :: rest => if isFieldValue (rest.takeWhile (· ≠ '=')) then some true else none
  | [] => some false

/-- What stands behind a span. -/
def afterSpan? (s : Spelling) (asksForValue : Bool) : List Char → Option Directive
  | [] => ofLevel? asksForValue []
  | '=' :: level => (s.lastWord? level).bind (ofLevel? asksForValue)
  | _ => none

/-- What stands behind the opening bracket of a span. -/
def span? (s : Spelling) (cs : List Char) : Option Directive :=
  let isInside (c : Char) := c ≠ ']' ∧ c ≠ '\x7b'
  match cs.dropWhile (isInside ·) with
  | ']' :: rest => afterSpan? s false rest
  | _ :: field =>
    let bytes := byteLength (field.takeWhile (· ≠ '\x7d'))
    match field.dropWhile (· ≠ '\x7d') with
    | _ :: ']' :: rest =>
      if bytes = 0 then none
      else
        ((s.word? field bytes).bind asks?).bind fun asksForValue => afterSpan? s asksForValue rest
    | _ => none
  | [] => none

/-- Whether a character can begin the name of a part. -/
def beginsName (c : Char) : Bool :=
  c = '-' || c = ':' || c = '_' || Text.isAlphabetic c || Text.isNumeric c

/-- The directive that a text spells. -/
def ofText? (text : String) : Option Directive :=
  let s : Spelling := ⟨text.toList, Text.trimChars text.toList⟩
  let isName (c : Char) := c ≠ '=' ∧ c ≠ '['
  match s.trimmed with
  | [] => none
  | '[' :: rest => span? s rest
  | c :: _ =>
    if beginsName c then
      match s.trimmed.dropWhile (isName ·) with
      | [] => some ⟨(Verbosity.ofWord? s.whole).getD (some .trace), false⟩
      | '=' :: level => afterSpan? s false ('=' :: level)
      | _ :: rest => span? s rest
    else none

end Directive

/-- Directives separated by commas. -/
abbrev LogFilter := List Directive

namespace LogFilter

/-- The texts between commas that are not empty. -/
def parts (s : String) : List String :=
  (s.splitOn ",").filter (· ≠ "")

/-- The most that is printed anywhere. -/
def maxVerbosity (f : LogFilter) : Verbosity :=
  if f.any Directive.asksForValue then some .trace
  else f.foldl (fun v d => v.max d.verbosity) none

/-- The filter of a text in which whatever is no directive does not count; errors are printed if
    nothing is left. -/
def lenient (s : String) : LogFilter :=
  match (parts s).filterMap Directive.ofText? with
  | [] => [⟨some .error, false⟩]
  | f => f

/-- The filter of a text that must hold directives only; nothing is printed if it is empty. -/
def strict? (s : String) : Option LogFilter :=
  ((parts s).mapM Directive.ofText?).map fun
    | [] => [⟨none, false⟩]
    | f => f

/-- The variable that holds the directives of a process. -/
def variableName : String := "RUST_LOG"

/-- The filter of a process: of the variable if it is set and sound, else of the settings. -/
def choose (env : Environment) (level : String) : LogFilter :=
  ((env variableName).bind strict?).getD (lenient level)

end LogFilter

end WorkerRoster
