/-
# Blank characters

The characters of Unicode's property White_Space, and what depends on them: trimming both
ends of a text and reading its words.
-/
import ChatLink.Text.Basic

namespace ChatLink

/-- The characters with the Unicode property White_Space. -/
def isBlank (c : Char) : Bool :=
  let n := c.toNat
  (0x09 ≤ n && n ≤ 0x0D) || n == 0x20 || n == 0x85 || n == 0xA0 || n == 0x1680 ||
    (0x2000 ≤ n && n ≤ 0x200A) || n == 0x2028 || n == 0x2029 || n == 0x202F || n == 0x205F ||
    n == 0x3000

namespace Text

/-- A text without the blanks at its start. -/
def trimStart (t : Text) : Text := t.dropWhile isBlank

/-- A text without the blanks at its end. -/
def trimEnd (t : Text) : Text := dropEndWhile isBlank t

/-- A text without the blanks at its two ends. -/
def trim (t : Text) : Text := trimEnd (trimStart t)

/-- A text that holds nothing but blanks. -/
def isBlank (t : Text) : Bool := t.all ChatLink.isBlank

/-- The maximal runs of characters that are not blank, in order. -/
def words : Text → List Text
  | [] => []
  | c :: t =>
    if ChatLink.isBlank c then
      words t
    else
      match t, words t with
      | [], _ => [[c]]
      | d :: _, ws =>
        if ChatLink.isBlank d then
          [c] :: ws
        else
          match ws with
          | [] => [[c]]
          | w :: ws => (c :: w) :: ws

end Text
end ChatLink
