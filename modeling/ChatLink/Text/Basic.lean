/-
# Texts and their byte lengths

A text is a list of characters.  Every budget and limit of the chat network counts the
bytes of a text's UTF-8 form, so `byteLength` is the size that matters; names are compared
without regard to the case of ASCII letters.  The file also holds the few ways in which a
text is taken apart: at every occurrence of a separator, at the first one, and after a given
number of bytes.
-/

namespace ChatLink

/-- A text: its characters in order. -/
abbrev Text := List Char

/-- A string literal stands for the text of its characters. -/
instance : Coe String Text := ⟨String.toList⟩

namespace Text

/-! ### Size in bytes -/

/-- The number of bytes of a text in UTF-8. -/
def byteLength : Text → Nat
  | [] => 0
  | c :: t => c.utf8Size + byteLength t

@[simp] theorem byteLength_nil : byteLength [] = 0 := rfl

@[simp] theorem byteLength_cons (c : Char) (t : Text) :
    byteLength (c :: t) = c.utf8Size + byteLength t := rfl

@[simp] theorem byteLength_append (s t : Text) :
    byteLength (s ++ t) = byteLength s + byteLength t := by
  induction s with
  | nil => simp
  | cons c s ih => simp [ih, Nat.add_assoc]

theorem length_le_byteLength (t : Text) : t.length ≤ byteLength t := by
  induction t with
  | nil => simp
  | cons c t ih =>
    have := Char.utf8Size_pos c
    simp only [List.length_cons, byteLength_cons]
    omega

theorem byteLength_replicate (n : Nat) {c : Char} (h : c.utf8Size = 1) :
    byteLength (List.replicate n c) = n := by
  induction n with
  | zero => rfl
  | succ n ih => rw [List.replicate_succ, byteLength_cons, h, ih, Nat.add_comm]

/-! ### Comparing names -/

/-- Equality that takes an ASCII letter and its other case for the same letter. -/
def sameName (s t : Text) : Bool :=
  s.map Char.toLower == t.map Char.toLower

@[simp] theorem sameName_refl (t : Text) : sameName t t = true := by
  simp [sameName]

theorem sameName_comm (s t : Text) : sameName s t = sameName t s := by
  simp [sameName, Bool.beq_comm]

theorem sameName_trans {s t u : Text} (h : sameName s t = true) (h' : sameName t u = true) :
    sameName s u = true := by
  simp only [sameName, beq_iff_eq] at *
  rw [h, h']

/-! ### Taking a text apart -/

/-- The parts of a text between the occurrences of `sep`; one more than there are of these. -/
def splitOn (sep : Char) : Text → List Text
  | [] => [[]]
  | c :: t =>
    if c = sep then
      [] :: splitOn sep t
    else
      match splitOn sep t with
      | [] => [[c]]
      | w :: ws => (c :: w) :: ws

/-- The text before and the text after the first `sep`, if there is one. -/
def cut? (sep : Char) : Text → Option (Text × Text)
  | [] => none
  | c :: t =>
    if c = sep then
      some ([], t)
    else
      match cut? sep t with
      | some (before, after) => some (c :: before, after)
      | none => none

/-- The text without one leading `c`, if it starts with one. -/
def dropLead (c : Char) : Text → Text
  | [] => []
  | d :: t => if d = c then t else d :: t

/-- The text without the characters at its end that satisfy `p`. -/
def dropEndWhile (p : Char → Bool) (t : Text) : Text :=
  (t.reverse.dropWhile p).reverse

/-- The longest beginning of a text that has at most `n` bytes, and the rest. -/
def splitBytes : Nat → Text → Text × Text
  | _, [] => ([], [])
  | n, c :: t =>
    if c.utf8Size ≤ n then
      let (kept, rest) := splitBytes (n - c.utf8Size) t
      (c :: kept, rest)
    else
      ([], c :: t)

/-- The longest beginning of a text that has at most `n` bytes. -/
def takeBytes (n : Nat) (t : Text) : Text := (splitBytes n t).1

/-- Cutting at a byte count loses nothing. -/
theorem splitBytes_append (n : Nat) (t : Text) : (splitBytes n t).1 ++ (splitBytes n t).2 = t := by
  induction t generalizing n with
  | nil => simp [splitBytes]
  | cons c t ih =>
    by_cases h : c.utf8Size ≤ n
    · simp [splitBytes, h, ih]
    · simp [splitBytes, h]

/-- The part that is kept fits. -/
theorem byteLength_splitBytes_le (n : Nat) (t : Text) : byteLength (splitBytes n t).1 ≤ n := by
  induction t generalizing n with
  | nil => simp [splitBytes]
  | cons c t ih =>
    by_cases h : c.utf8Size ≤ n
    · have := ih (n - c.utf8Size)
      simp only [splitBytes, h, if_true, byteLength_cons]
      omega
    · simp [splitBytes, h]

theorem length_splitBytes_snd_le (n : Nat) (t : Text) : (splitBytes n t).2.length ≤ t.length := by
  have h := congrArg List.length (splitBytes_append n t)
  simp only [List.length_append] at h
  omega

end Text
end ChatLink
