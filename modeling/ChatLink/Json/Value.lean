/-
# JSON values

A value as it is written: an object keeps every member in order, also one whose key comes
twice; a number that is not a plain unsigned integer keeps no value, since nothing here asks
for one; and a string may fail to have a text, if an escape in it names half a character.
-/
import ChatLink.Text.Number

namespace ChatLink

/-- A JSON value. -/
inductive Json where
  | null
  | bool (b : Bool)
  /-- A number without sign, fraction and exponent. -/
  | natural (n : Nat)
  /-- Any other number. -/
  | otherNumber
  /-- A string; it has no text if a surrogate stands alone in it. -/
  | string (text : Option Text)
  | array (items : List Json)
  | object (members : List (Option Text × Json))
deriving Inhabited

namespace Json

/-- The truth value of a value that is one. -/
def bool? : Json → Option Bool
  | .bool b => some b
  | _ => none

/-- The number of a value that is an unsigned integer of at most `bound`. -/
def natural? (bound : Nat) : Json → Option Nat
  | .natural n => if n ≤ bound then some n else none
  | _ => none

/-- The text of a value that is a string. -/
def text? : Json → Option Text
  | .string t => t
  | _ => none

/-- The texts of a value that is a list of strings. -/
def texts? : Json → Option (List Text)
  | .array items => items.mapM text?
  | _ => none

/-- A value that may be absent: `null` stands for that. -/
def orNull? {α : Type} (read : Json → Option α) : Json → Option (Option α)
  | .null => some none
  | v => (read v).map some

/-- How often a key occurs among members. -/
def count (key : Text) (members : List (Option Text × Json)) : Nat :=
  members.countP fun m => m.1 == some key

/-- The values of named fields, each of which may be absent.  An object gives them by key: every
key needs a text, and a named one comes at most once; other keys are passed over.  A list gives
them in order, and has no more items than there are names. -/
def fields? (names : List Text) : Json → Option (List (Option Json))
  | .object members =>
    if members.all (fun m => m.1.isSome) && names.all (fun n => count n members ≤ 1) then
      some (names.map fun n => members.lookup (some n))
    else none
  | .array items =>
    if items.length ≤ names.length then
      some ((List.range names.length).map fun i => items[i]?)
    else none
  | _ => none

end Json
end ChatLink
