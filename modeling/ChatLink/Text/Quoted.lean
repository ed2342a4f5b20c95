/-
# Quoted text

How a name is shown inside a message: between double quotes, so that every character of it can
be told from its neighbours.
-/
import ChatLink.Text.Number
import ChatLink.Text.Unprintable

namespace ChatLink.Text

/-- How one character is shown between double quotes: a quote, a backslash and the common
controls by a backslash and a letter, another unprintable one by its code point. -/
def quoteChar (c : Char) : Text :=
  match c with
  | '"' => ['\\', '"']
  | '\\' => ['\\', '\\']
  | '\t' => ['\\', 't']
  | '\r' => ['\\', 'r']
  | '\n' => ['\\', 'n']
  | '\x00' => ['\\', '0']
  | _ =>
    if isUnprintable c then
      "\\u\x7b" ++ Hexadecimal.digits c.toNat ++ "\x7d"
    else
      [c]

/-- A text between double quotes. -/
def quoted (t : Text) : Text :=
  '"' :: t.flatMap quoteChar ++ ['"']

end ChatLink.Text
