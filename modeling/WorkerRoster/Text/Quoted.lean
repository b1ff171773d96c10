import WorkerRoster.Text.Extender
import WorkerRoster.Text.Hexadecimal
import WorkerRoster.Text.Printable

/-!
# Quoted Texts

How a text is shown inside a message: between quotation marks, with everything a reader could not
see on the page written as an escape. The result names every code point of the text.
-/

set_option autoImplicit false

namespace WorkerRoster.Text

/-- How one character is written between quotation marks. -/
def quoteChar (c : Char) : List Char :=
  match c with
  | '\x00' => ['\\', '0']
  | '\t' => ['\\', 't']
  | '\r' => ['\\', 'r']
  | '\n' => ['\\', 'n']
  | '\\' => ['\\', '\\']
  | '"' => ['\\', '"']
  | c =>
    if isExtender c || !isPrintable c then
      ['\\', 'u', '\x7b'] ++ hexDigits c.toNat ++ ['\x7d']
    else [c]

/-- A text between quotation marks, with escapes for what cannot be seen. -/
def quoted (s : String) : String :=
  String.ofList ('"' :: s.toList.flatMap quoteChar ++ ['"'])

end WorkerRoster.Text
