import WorkerRoster.Json.Token
import WorkerRoster.Json.Value

/-!
# What a Reader Meets

A reader of a typed document goes through the text from the front and stops at the first thing that
does not suit it, so what it answers depends on how far the text is sound. A `Source` is the text
as a tree: a sound part as it was written, with repeated members and in the order they stand, and
the point where the text stops being JSON, behind which there is nothing. Reading such a tree from
the front meets things in the same order as reading the text.
-/

set_option autoImplicit false

namespace WorkerRoster.Json

/-- How an array or object ends. -/
inductive Ending where
  /-- With its closing bracket. -/
  | closed
  /-- The text is no JSON behind the last item. -/
  | broken
  deriving DecidableEq, Repr

/-- A text as a tree. -/
inductive Source where
  | null
  | bool (flag : Bool)
  | number (n : Number)
  | text (s : String)
  /-- A string or number that can be skipped but not read. -/
  | unreadable
  | array (items : List Source) (ending : Ending)
  /-- The key of a member is none if it cannot be read. -/
  | object (members : List (Option String × Source)) (ending : Ending)
  /-- The text is no JSON here. -/
  | broken
  deriving Repr

/-- A whole text: the value it begins with, and whether nothing but blanks follows. -/
structure Document where
  root : Source
  endsClean : Bool
  deriving Repr

namespace Source

/-! ## Building the tree -/

/-- An array or object that is still open, without the value being read in it. -/
inductive Open where
  /-- The items before, last first. -/
  | array (before : List Source)
  /-- The members before, last first, and the key of the value being read. -/
  | object (before : List (Option String × Source)) (key : Option String)
  deriving Repr

/-- An open array or object, closed behind one more value. -/
def Open.close (o : Open) (v : Source) (ending : Ending) : Source :=
  match o with
  | .array before => .array (v :: before).reverse ending
  | .object before key => .object ((key, v) :: before).reverse ending

/-- What the next token should be. -/
inductive Expecting where
  /-- The beginning of a value. -/
  | value (within : List Open)
  /-- The first item of an array, or its end. -/
  | firstItem (within : List Open)
  /-- The first key of an object, or its end. -/
  | firstKey (within : List Open)
  /-- A further key of an object. -/
  | key (before : List (Option String × Source)) (within : List Open)
  /-- The colon behind a key. -/
  | colon (before : List (Option String × Source)) (key : Option String) (within : List Open)
  /-- A comma or a closing bracket behind a complete value. -/
  | behind (v : Source) (within : List Open)
  deriving Repr

/-- A token where a value begins, none if no value begins with it. -/
def Expecting.begin? (within : List Open) : Token → Option Expecting
  | .null => some (.behind .null within)
  | .bool b => some (.behind (.bool b) within)
  | .number n => some (.behind (.number n) within)
  | .text s => some (.behind (.text s) within)
  | .unreadableText | .unreadableNumber => some (.behind .unreadable within)
  | .openBracket => some (.firstItem within)
  | .openBrace => some (.firstKey within)
  | .closeBrace | .closeBracket | .colon | .comma | .broken => none

/-- One token, none where it cannot stand. -/
def Expecting.step? : Expecting → Token → Option Expecting
  | .value within, t => begin? within t
  | .firstItem within, .closeBracket => some (.behind (.array [] .closed) within)
  | .firstItem within, t => begin? (.array [] :: within) t
  | .firstKey within, .closeBrace => some (.behind (.object [] .closed) within)
  | .firstKey within, .text s => some (.colon [] (some s) within)
  | .firstKey within, .unreadableText => some (.colon [] none within)
  | .key before within, .text s => some (.colon before (some s) within)
  | .key before within, .unreadableText => some (.colon before none within)
  | .colon before k within, .colon => some (.value (.object before k :: within))
  | .behind v (.array before :: within), .comma => some (.value (.array (v :: before) :: within))
  | .behind v (o@(.array _) :: within), .closeBracket => some (.behind (o.close v .closed) within)
  | .behind v (.object before k :: within), .comma => some (.key ((k, v) :: before) within)
  | .behind v (o@(.object _ _) :: within), .closeBrace => some (.behind (o.close v .closed) within)
  | _, _ => none

/-- A value with everything open around it cut off behind it. -/
def cutAround (v : Source) : List Open → Source
  | [] => v
  | o :: within => cutAround (o.close v .broken) within

/-- The tree of a text that ends, or stops being JSON, where something is expected. -/
def Expecting.cut : Expecting → Source
  | .value within => cutAround .broken within
  | .firstItem within => cutAround (.array [] .broken) within
  | .firstKey within => cutAround (.object [] .broken) within
  | .key before within => cutAround (.object before.reverse .broken) within
  | .colon before k within => cutAround (Open.close (.object before k) .broken .broken) within
  | .behind v within => cutAround v within

/-- The document that the rest of the tokens makes. -/
def Expecting.run (e : Expecting) : List Token → Document
  | [] =>
    match e with
    | .behind v [] => ⟨v, true⟩
    | e => ⟨e.cut, false⟩
  | t :: rest =>
    match e.step? t with
    | some e => e.run rest
    | none => ⟨e.cut, false⟩

/-! ## Skipping and reading -/

mutual

/-- Whether the text of a tree is JSON throughout, so that it can be skipped. -/
def isSound : Source → Bool
  | .array items ending => itemsSound items && ending = .closed
  | .object members ending => membersSound members && ending = .closed
  | .broken => false
  | .null | .bool _ | .number _ | .text _ | .unreadable => true

/-- Whether every item is sound. -/
def itemsSound : List Source → Bool
  | [] => true
  | s :: rest => s.isSound && itemsSound rest

/-- Whether every member's value is sound. -/
def membersSound : List (Option String × Source) → Bool
  | [] => true
  | (_, s) :: rest => s.isSound && membersSound rest

end

mutual

/-- The value of a tree, none if the text is no JSON, holds something unreadable, or nests arrays
    and objects `depth` deep or deeper. Of a repeated member the last one counts. -/
def value? (depth : Nat) : Source → Option Value
  | .null => some .null
  | .bool b => some (.bool b)
  | .number n => some (.number n)
  | .text s => some (.text s)
  | .array items .closed =>
    if depth ≤ 1 then none else (itemValues? (depth - 1) items).map .array
  | .object members .closed =>
    if depth ≤ 1 then none else (memberValues? (depth - 1) members []).map .object
  | .array _ _ | .object _ _ | .unreadable | .broken => none

/-- The values of the items. -/
def itemValues? (depth : Nat) : List Source → Option (List Value)
  | [] => some []
  | s :: rest =>
    match s.value? depth with
    | some v => (itemValues? depth rest).map (v :: ·)
    | none => none

/-- The members, added to the ones before. -/
def memberValues? (depth : Nat) :
    List (Option String × Source) → List (String × Value) → Option (List (String × Value))
  | [], before => some before
  | (some key, s) :: rest, before =>
    match s.value? depth with
    | some v => memberValues? depth rest (Keyed.put key v before)
    | none => none
  | (none, _) :: _, _ => none

end

end Source

/-- The tree of a text. -/
def Document.ofText (s : String) : Document :=
  (Source.Expecting.value []).run (tokens s)

/-- Arrays and objects may be nested one less than this many deep. -/
def depthLimit : Nat := 128

/-- The value of a document, none if it is no JSON. -/
def Document.value? (d : Document) : Option Value :=
  if d.endsClean then d.root.value? depthLimit else none

/-- The value of a text, none if it is no JSON. -/
def Value.ofText? (s : String) : Option Value :=
  (Document.ofText s).value?

mutual

/-- A value as a tree. -/
def Value.toSource : Value → Source
  | .null => .null
  | .bool b => .bool b
  | .number n => .number n
  | .text s => .text s
  | .array items => .array (itemSources items) .closed
  | .object members => .object (memberSources members) .closed

/-- The items as trees. -/
def itemSources : List Value → List Source
  | [] => []
  | v :: rest => v.toSource :: itemSources rest

/-- The members as trees. -/
def memberSources : List (String × Value) → List (Option String × Source)
  | [] => []
  | (k, v) :: rest => (some k, v.toSource) :: memberSources rest

end

end WorkerRoster.Json
