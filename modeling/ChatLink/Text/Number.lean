/-
# Numbers in digits

Writing a number in decimal digits, padded to a width where that is asked for, reading an
unsigned number of a given size back, and the values of hexadecimal digits.
-/
import ChatLink.Text.Basic

namespace ChatLink

/-- The greatest number that fits in 64 bits. -/
def maxWord : Nat := 0xFFFFFFFFFFFFFFFF

namespace Decimal

/-- The digits of a number, the highest first. -/
def digits (n : Nat) : Text := Nat.toDigits 10 n

/-- The digits of a number, with zeros in front of them up to `width` digits. -/
def padded (width n : Nat) : Text :=
  let ds := digits n
  List.replicate (width - ds.length) '0' ++ ds

/-- The value of a digit. -/
def digit? (c : Char) : Option Nat :=
  if c.isDigit then some (c.toNat - '0'.toNat) else none

/-- The number that digits write after a number already read. -/
def readFrom (n : Nat) : Text → Option Nat
  | [] => some n
  | c :: t =>
    match digit? c with
    | some d => readFrom (n * 10 + d) t
    | none => none

/-- The number that a text writes: one digit or more, which one plus sign may precede.  There is
none above `bound`. -/
def read? (bound : Nat) (t : Text) : Option Nat :=
  let ds := Text.dropLead '+' t
  if ds = [] then none
  else
    match readFrom 0 ds with
    | some n => if n ≤ bound then some n else none
    | none => none

end Decimal

namespace Hexadecimal

/-- The digits of a number, the highest first, with letters in lower case. -/
def digits (n : Nat) : Text := Nat.toDigits 16 n

/-- The value of a digit, in either case. -/
def digit? (c : Char) : Option Nat :=
  if c.isDigit then some (c.toNat - '0'.toNat)
  else if 'a' ≤ c ∧ c ≤ 'f' then some (c.toNat - 'a'.toNat + 10)
  else if 'A' ≤ c ∧ c ≤ 'F' then some (c.toNat - 'A'.toNat + 10)
  else none

end Hexadecimal
end ChatLink
