import WorkerRoster.Text.Blank

/-!
# Modes

How a pattern is read, which it can change on the way: whether letters match in either case, whether
characters or bytes are matched, and whether blanks and comments count.
-/

set_option autoImplicit false

namespace WorkerRoster.Pattern

/-- What is switched on at some place of a pattern. -/
structure Mode where
  /-- Letters match in either case. -/
  ignoresCase : Bool := false
  /-- What is matched are characters, not bytes. -/
  isUnicode : Bool := true
  /-- Blanks between the parts do not count, nor do comments from `#` to the end of the line. -/
  isSpaced : Bool := false
  deriving DecidableEq, Repr

/-- Drop blanks and comments in front. -/
def dropIdle (inComment : Bool) : List Char → List Char
  | [] => []
  | c :: rest =>
    if inComment then dropIdle (c ≠ '\n') rest
    else if c = '#' then dropIdle true rest
    else if Text.isBlankChar c then dropIdle false rest
    else c :: rest

namespace Mode

/-- Whether it would take a table to tell what a character matches: that of the other cases of all
    characters. -/
def needsCases (m : Mode) : Bool :=
  m.isUnicode && m.ignoresCase

/-- Go on to the next character that counts. -/
def skip (m : Mode) (cs : List Char) : List Char :=
  if m.isSpaced then dropIdle false cs else cs

/-- The next character that decides about a dash. Blanks are passed over, and so is the mark of a
    comment, but not what is written in the comment. -/
def peek? (m : Mode) (cs : List Char) : Option Char :=
  if m.isSpaced then
    match cs.dropWhile Text.isBlankChar with
    | '#' :: rest => (rest.find? (!Text.isBlankChar ·)).or cs.head?
    | c :: _ => some c
    | [] => cs.head?
  else cs.head?

/-- The letters that switch something on or off. -/
def letters : List Char := ['i', 'm', 's', 'U', 'u', 'R', 'x']

/-- Whether a word switches modes: each letter at most once, those behind one dash are switched off,
    and the dash is not the last. -/
def isSwitch (word : List Char) : Bool :=
  word.all (fun c => c = '-' || letters.contains c) && decide word.Nodup && word.getLast? ≠ some '-'

/-- Switch what a word names on or off. -/
def switch (m : Mode) (word : List Char) : Mode :=
  let on := word.takeWhile (· ≠ '-')
  let set (letter : Char) (before : Bool) : Bool :=
    if on.contains letter then true else if word.contains letter then false else before
  ⟨set 'i' m.ignoresCase, set 'u' m.isUnicode, set 'x' m.isSpaced⟩

end Mode

end WorkerRoster.Pattern
