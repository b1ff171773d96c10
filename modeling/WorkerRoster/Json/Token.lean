import WorkerRoster.Json.Number
import WorkerRoster.Text.Hexadecimal

/-!
# Tokens of a JSON Text

A text is read character by character by a machine that puts out tokens. It stops at the first
character that no JSON text can have there, with the token `broken`; whatever follows is never
looked at. A string with half a surrogate pair and a number beyond every binary64 number are well
formed, so a reader that skips them goes on, but they stand for nothing; such a token is
`unreadable`.
-/

set_option autoImplicit false

namespace WorkerRoster.Json

/-- A token. -/
inductive Token where
  | openBrace
  | closeBrace
  | openBracket
  | closeBracket
  | colon
  | comma
  | null
  | bool (flag : Bool)
  | number (n : Number)
  | text (s : String)
  /-- A string that stands for no text. -/
  | unreadableText
  /-- A number out of range. -/
  | unreadableNumber
  /-- The text is no JSON from here on. -/
  | broken
  deriving DecidableEq, Repr

/-! ## Strings -/

/-- One element of a string: a character as it stands, or a 16-bit unit of a `\u` escape. -/
inductive Piece where
  | char (c : Char)
  | unit (n : Nat)
  deriving DecidableEq, Repr

/-- Whether a unit is the first half of a surrogate pair. -/
def isHighSurrogate (n : Nat) : Bool := 0xd800 ≤ n && n < 0xdc00

/-- Whether a unit is the second half of a surrogate pair. -/
def isLowSurrogate (n : Nat) : Bool := 0xdc00 ≤ n && n < 0xe000

/-- The characters that pieces stand for, none if half a surrogate pair stands alone. -/
def joinPieces? : List Piece → Option (List Char)
  | [] => some []
  | .char c :: rest => (joinPieces? rest).map (c :: ·)
  | .unit high :: .unit low :: rest =>
    if isHighSurrogate high then
      if isLowSurrogate low then
        (joinPieces? rest).map
          (Char.ofNat (0x10000 + (high - 0xd800) * 0x400 + (low - 0xdc00)) :: ·)
      else none
    else if isLowSurrogate high then none
    else (joinPieces? (.unit low :: rest)).map (Char.ofNat high :: ·)
  | .unit n :: rest =>
    if isHighSurrogate n || isLowSurrogate n then none
    else (joinPieces? rest).map (Char.ofNat n :: ·)

/-- The token of a string with the given pieces. -/
def textToken (pieces : List Piece) : Token :=
  match joinPieces? pieces with
  | some cs => .text (String.ofList cs)
  | none => .unreadableText

/-- The character that a one-letter escape stands for. -/
def escapedChar? (c : Char) : Option Char :=
  match c with
  | '"' => some '"'
  | '\\' => some '\\'
  | '/' => some '/'
  | 'b' => some '\x08'
  | 'f' => some '\x0c'
  | 'n' => some '\n'
  | 'r' => some '\r'
  | 't' => some '\t'
  | _ => none

/-! ## Numbers -/

/-- How far the spelling of a number has come. -/
inductive NumberStage where
  | sign
  | zero
  | whole
  | point
  | fraction
  | exponentMark
  | exponentSign
  | exponent
  deriving DecidableEq, Repr

/-- A number that is being read. -/
structure NumberScan where
  /-- What has been read of it. -/
  spelling : NumberText
  /-- What was read last. -/
  stage : NumberStage
  deriving Repr

/-- Whether a character is a decimal digit. -/
def isDigit (c : Char) : Bool := '0' ≤ c && c ≤ '9'

namespace NumberScan

/-- Whether a number may end here. -/
def isComplete (n : NumberScan) : Bool :=
  match n.stage with
  | .zero | .whole | .fraction | .exponent => true
  | .sign | .point | .exponentMark | .exponentSign => false

/-- Add a digit in front of the point. -/
def addWhole (n : NumberScan) (c : Char) : NumberScan :=
  ⟨{ n.spelling with whole := n.spelling.whole ++ [c] },
    if c = '0' ∧ n.spelling.whole = [] then .zero else .whole⟩

/-- Add a digit behind the point. -/
def addFraction (n : NumberScan) (c : Char) : NumberScan :=
  ⟨{ n.spelling with fraction := some (n.spelling.fraction.getD [] ++ [c]) }, .fraction⟩

/-- Add a digit of the exponent. -/
def addExponent (n : NumberScan) (c : Char) : NumberScan :=
  let (isNegative, ds) := n.spelling.exponent.getD (false, [])
  ⟨{ n.spelling with exponent := some (isNegative, ds ++ [c]) }, .exponent⟩

/-- The number with one more character, none if the character is no part of it. -/
def add? (n : NumberScan) (c : Char) : Option NumberScan :=
  match n.stage with
  | .sign => if isDigit c then some (n.addWhole c) else none
  | .zero =>
    if c = '.' then some { n with stage := .point }
    else if c = 'e' ∨ c = 'E' then some { n with stage := .exponentMark }
    else none
  | .whole =>
    if isDigit c then some (n.addWhole c)
    else if c = '.' then some { n with stage := .point }
    else if c = 'e' ∨ c = 'E' then some { n with stage := .exponentMark }
    else none
  | .point => if isDigit c then some (n.addFraction c) else none
  | .fraction =>
    if isDigit c then some (n.addFraction c)
    else if c = 'e' ∨ c = 'E' then some { n with stage := .exponentMark }
    else none
  | .exponentMark =>
    if isDigit c then some (n.addExponent c)
    else if c = '+' then some { n with stage := .exponentSign }
    else if c = '-' then
      some ⟨{ n.spelling with exponent := some (true, []) }, .exponentSign⟩
    else none
  | .exponentSign => if isDigit c then some (n.addExponent c) else none
  | .exponent => if isDigit c then some (n.addExponent c) else none

/-- The token of a number that ends here. -/
def token (n : NumberScan) : Token :=
  match n.spelling.number? with
  | some value => .number value
  | none => .unreadableNumber

end NumberScan

/-! ## The machine -/

/-- What the machine is in the middle of. -/
inductive Scan where
  /-- Between two tokens. -/
  | between
  /-- In a literal: the character that is due, those after it, and the token. -/
  | word (due : Char) (later : List Char) (token : Token)
  /-- In a string: its pieces so far, last first. -/
  | string (pieces : List Piece)
  /-- In a string, behind a backslash. -/
  | escape (pieces : List Piece)
  /-- In a `\u` escape: the value so far, and how many more digits it needs beyond the next. -/
  | code (pieces : List Piece) (value : Nat) (more : Nat)
  /-- In a number. -/
  | number (n : NumberScan)
  deriving Repr

/-- The tokens put out at a character, and what the machine does next; none where the character
    cannot stand. -/
abbrev Scan.Turn := List Token × Option Scan

/-- A number that has not begun. -/
def NumberScan.start (isNegative : Bool) : NumberScan :=
  ⟨⟨isNegative, [], none, none⟩, .sign⟩

/-- A character between two tokens. -/
def Scan.begin (c : Char) : Scan.Turn :=
  match c with
  | ' ' | '\t' | '\n' | '\r' => ([], some .between)
  | '\x7b' => ([.openBrace], some .between)
  | '\x7d' => ([.closeBrace], some .between)
  | '[' => ([.openBracket], some .between)
  | ']' => ([.closeBracket], some .between)
  | ':' => ([.colon], some .between)
  | ',' => ([.comma], some .between)
  | '"' => ([], some (.string []))
  | 'n' => ([], some (.word 'u' ['l', 'l'] .null))
  | 't' => ([], some (.word 'r' ['u', 'e'] (.bool true)))
  | 'f' => ([], some (.word 'a' ['l', 's', 'e'] (.bool false)))
  | '-' => ([], some (.number (.start true)))
  | c =>
    if isDigit c then ([], some (.number ((NumberScan.start false).addWhole c))) else ([], none)

/-- One character. -/
def Scan.step : Scan → Char → Scan.Turn
  | .between, c => Scan.begin c
  | .word due later token, c =>
    if c ≠ due then ([], none)
    else
      match later with
      | [] => ([token], some .between)
      | d :: ds => ([], some (.word d ds token))
  | .string pieces, c =>
    if c = '"' then ([textToken pieces.reverse], some .between)
    else if c = '\\' then ([], some (.escape pieces))
    else if c.toNat < 0x20 then ([], none)
    else ([], some (.string (.char c :: pieces)))
  | .escape pieces, c =>
    if c = 'u' then ([], some (.code pieces 0 3))
    else
      match escapedChar? c with
      | some d => ([], some (.string (.char d :: pieces)))
      | none => ([], none)
  | .code pieces value more, c =>
    match Text.hexValue? c, more with
    | some d, 0 => ([], some (.string (.unit (value * 16 + d) :: pieces)))
    | some d, more + 1 => ([], some (.code pieces (value * 16 + d) more))
    | none, _ => ([], none)
  | .number n, c =>
    match n.add? c with
    | some n => ([], some (.number n))
    | none =>
      if n.isComplete ∧ ¬ (n.stage = .zero ∧ isDigit c) then
        let (out, next) := Scan.begin c
        (n.token :: out, next)
      else ([], none)

/-- The tokens put out at the end of the text. -/
def Scan.finish : Scan → List Token
  | .between => []
  | .number n => if n.isComplete then [n.token] else [.broken]
  | .word _ _ _ | .string _ | .escape _ | .code _ _ _ => [.broken]

/-- The tokens of the rest of a text. -/
def Scan.run (s : Scan) : List Char → List Token
  | [] => s.finish
  | c :: rest =>
    let (out, next) := s.step c
    out ++
      match next with
      | some s => s.run rest
      | none => [.broken]

/-- The tokens of a text. -/
def tokens (s : String) : List Token :=
  Scan.between.run s.toList

end WorkerRoster.Json
