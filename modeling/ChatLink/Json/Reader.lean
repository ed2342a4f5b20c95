/-
# Reading JSON

A strict reader of JSON text: no comments, no trailing commas, no numbers with leading zeros,
no control characters inside strings.  A string is first read as code points, in which an escape
may have put a surrogate; pairs of surrogates are joined afterwards.
-/
import ChatLink.Json.Value

namespace ChatLink.Json

/-- The blanks that may stand between the parts of a value. -/
def isGap (c : Char) : Bool := c == ' ' || c == '\n' || c == '\t' || c == '\r'

/-- A text without the blanks at its start. -/
def skipGap (t : Text) : Text := t.dropWhile isGap

/-! ### Numbers -/

/-- The digits at the start of a text, of which there must be one, and what follows. -/
def someDigits? (t : Text) : Option (Text × Text) :=
  match t.takeWhile Char.isDigit with
  | [] => none
  | ds => some (ds, t.dropWhile Char.isDigit)

/-- The digits of a whole number: a zero stands alone. -/
def wholeDigits? : Text → Option (Text × Text)
  | '0' :: c :: t => if c.isDigit then none else some (['0'], c :: t)
  | t => someDigits? t

/-- A fraction, if one follows: whether there was one, and what comes after it. -/
def fraction? : Text → Option (Bool × Text)
  | '.' :: t => (someDigits? t).map fun p => (true, p.2)
  | t => some (false, t)

/-- A text without one plus or minus sign. -/
def dropSign : Text → Text
  | '+' :: t => t
  | '-' :: t => t
  | t => t

/-- An exponent, if one follows: whether there was one, and what comes after it. -/
def exponent? : Text → Option (Bool × Text)
  | c :: t =>
    if c = 'e' ∨ c = 'E' then (someDigits? (dropSign t)).map fun p => (true, p.2)
    else some (false, c :: t)
  | [] => some (false, [])

/-- A number without its sign. -/
def unsigned? (negative : Bool) (t : Text) : Option (Json × Text) := do
  let (ds, t) ← wholeDigits? t
  let (hasFraction, t) ← fraction? t
  let (hasExponent, t) ← exponent? t
  if negative || hasFraction || hasExponent then
    some (.otherNumber, t)
  else
    let n ← Decimal.readFrom 0 ds
    some (.natural n, t)

/-! ### Strings -/

/-- The character that a letter after a backslash stands for. -/
def escaped? : Char → Option Char
  | '"' => some '"'
  | '\\' => some '\\'
  | '/' => some '/'
  | 'b' => some '\x08'
  | 'f' => some '\x0c'
  | 'n' => some '\n'
  | 'r' => some '\r'
  | 't' => some '\t'
  | _ => none

/-- The code points of a string up to the quote that ends it, and what follows that. -/
def codePoints? : Text → Option (List Nat × Text)
  | [] => none
  | '"' :: t => some ([], t)
  | '\\' :: 'u' :: a :: b :: c :: d :: t =>
    match Hexadecimal.digit? a, Hexadecimal.digit? b, Hexadecimal.digit? c, Hexadecimal.digit? d,
        codePoints? t with
    | some a, some b, some c, some d, some (ps, rest) =>
      some ((((a * 16 + b) * 16 + c) * 16 + d) :: ps, rest)
    | _, _, _, _, _ => none
  | '\\' :: c :: t =>
    match escaped? c, codePoints? t with
    | some e, some (ps, rest) => some (e.toNat :: ps, rest)
    | _, _ => none
  | c :: t =>
    if c.toNat < 0x20 || c == '\\' then none
    else
      match codePoints? t with
      | some (ps, rest) => some (c.toNat :: ps, rest)
      | none => none

/-- A code point that is the first half of a pair. -/
def isHigh (p : Nat) : Bool := 0xD800 ≤ p && p ≤ 0xDBFF

/-- A code point that is the second half of a pair. -/
def isLow (p : Nat) : Bool := 0xDC00 ≤ p && p ≤ 0xDFFF

/-- The text of code points: a pair of halves is one character, and no half stands alone. -/
def joinPairs : List Nat → Option Text
  | [] => some []
  | [p] => if isHigh p || isLow p then none else some [Char.ofNat p]
  | p :: q :: ps =>
    if isHigh p then
      if isLow q then
        (joinPairs ps).map (Char.ofNat (0x10000 + (p - 0xD800) * 0x400 + (q - 0xDC00)) :: ·)
      else none
    else if isLow p then none
    else (joinPairs (q :: ps)).map (Char.ofNat p :: ·)

/-! ### Values -/

mutual

/-- A value at the start of a text, and what follows it.  The first argument bounds the number of
steps. -/
def value? : Nat → Text → Option (Json × Text)
  | 0, _ => none
  | fuel + 1, t =>
    match skipGap t with
    | 'n' :: 'u' :: 'l' :: 'l' :: t => some (.null, t)
    | 't' :: 'r' :: 'u' :: 'e' :: t => some (.bool true, t)
    | 'f' :: 'a' :: 'l' :: 's' :: 'e' :: t => some (.bool false, t)
    | '-' :: t => unsigned? true t
    | '"' :: t => (codePoints? t).map fun (ps, rest) => (.string (joinPairs ps), rest)
    | '[' :: t =>
      match skipGap t with
      | ']' :: rest => some (.array [], rest)
      | t => (items? fuel t).map fun (vs, rest) => (.array vs, rest)
    | '{' :: t =>
      match skipGap t with
      | '}' :: rest => some (.object [], rest)
      | t => (members? fuel t).map fun (ms, rest) => (.object ms, rest)
    | t => unsigned? false t

/-- The items of a list, of which there is one at least, up to its end. -/
def items? : Nat → Text → Option (List Json × Text)
  | 0, _ => none
  | fuel + 1, t =>
    match value? fuel t with
    | none => none
    | some (v, t) =>
      match skipGap t with
      | ']' :: rest => some ([v], rest)
      | ',' :: t => (items? fuel t).map fun (vs, rest) => (v :: vs, rest)
      | _ => none

/-- The members of an object, of which there is one at least, up to its end. -/
def members? : Nat → Text → Option (List (Option Text × Json) × Text)
  | 0, _ => none
  | fuel + 1, t =>
    match skipGap t with
    | '"' :: t =>
      match codePoints? t with
      | none => none
      | some (ps, t) =>
        match skipGap t with
        | ':' :: t =>
          match value? fuel t with
          | none => none
          | some (v, t) =>
            match skipGap t with
            | '}' :: rest => some ([(joinPairs ps, v)], rest)
            | ',' :: t =>
              (members? fuel t).map fun (ms, rest) => ((joinPairs ps, v) :: ms, rest)
            | _ => none
        | _ => none
    | _ => none

end

/-- The value that a whole text writes.  Every step but the last reads a character, so twice the
length of the text is steps enough. -/
def ofText? (t : Text) : Option Json :=
  match value? (2 * t.length + 2) t with
  | some (v, rest) => if skipGap rest = [] then some v else none
  | none => none

end ChatLink.Json
