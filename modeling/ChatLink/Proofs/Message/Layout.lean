/-
# How tokens are laid out in a line

A line writes its tokens with spaces between them, one at least and as many as it likes.  However
it is laid out, reading it gives back exactly its tokens, since no word of it can be taken for the
start of the trailing text, and nothing in the trailing text can be taken for a word.  Main
statement: `ofLine_write`.
-/
import Mathlib
import ChatLink.Message.Basic
import ChatLink.Proofs.Text.Parts

namespace ChatLink

namespace Tokens

/-- A text that stands for itself as a word of a line. -/
structure IsWord (w : Text) : Prop where
  ne_nil : w ≠ []
  no_space : ' ' ∉ w
  /-- A colon in front would make it the trailing text, or the sender. -/
  no_colon : w.head? ≠ some ':'

/-- Tokens that a line can write: the sender holds no space, the command and the parameters are
words.  The trailing text is any text. -/
structure Writable (t : Tokens) : Prop where
  sender : ∀ s ∈ t.sender, ' ' ∉ s
  command : IsWord t.command
  params : ∀ p ∈ t.params, IsWord p

/-- How many spaces a line has in each of its gaps, beyond the one that must be there. -/
structure Layout where
  afterSender : Nat
  /-- In front of each parameter, counted from zero. -/
  beforeParam : Nat → Nat
  beforeTrailing : Nat

def spaces (n : Nat) : Text := List.replicate n ' '

/-- Parameters with their gaps in front of them. -/
def writeParams (gaps : Nat → Nat) : List Text → Text
  | [] => []
  | p :: ps => spaces (gaps 0 + 1) ++ (p ++ writeParams (fun i => gaps (i + 1)) ps)

namespace Layout

def writeSender (l : Layout) : Option Text → Text
  | some s => ':' :: (s ++ spaces (l.afterSender + 1))
  | none => []

def writeTrailing (l : Layout) : Option Text → Text
  | some text => spaces (l.beforeTrailing + 1) ++ ':' :: text
  | none => []

/-- The line that writes the tokens. -/
def write (l : Layout) (t : Tokens) : Text :=
  l.writeSender t.sender ++
    (t.command ++ (writeParams l.beforeParam t.params ++ l.writeTrailing t.trailing))

end Layout

variable {c : Char} {n : Nat} {gaps : Nat → Nat} {l : Layout} {w t : Text} {ps : List Text}

@[simp] lemma spaces_zero : spaces 0 = [] := rfl

@[simp] lemma spaces_succ (n : Nat) : spaces (n + 1) = ' ' :: spaces n := rfl

/-! ### The trailing text -/

lemma cutTrailing_cons (hc : c ≠ ' ') :
    cutTrailing (c :: t) = (c :: (cutTrailing t).1, (cutTrailing t).2) := by
  rw [cutTrailing]
  rintro u rfl
  exact absurd rfl hc

lemma cutTrailing_space_cons (ht : t.head? ≠ some ':') :
    cutTrailing (' ' :: t) = (' ' :: (cutTrailing t).1, (cutTrailing t).2) := by
  rw [cutTrailing]
  rintro u - rfl
  exact absurd rfl ht

lemma cutTrailing_append (h : ' ' ∉ w) :
    cutTrailing (w ++ t) = (w ++ (cutTrailing t).1, (cutTrailing t).2) := by
  induction w with
  | nil => rfl
  | cons c w ih =>
    rw [List.mem_cons, not_or] at h
    rw [List.cons_append, cutTrailing_cons (Ne.symm h.1), ih h.2]
    rfl

/-- Spaces are passed over up to the next character, unless that is a colon. -/
lemma cutTrailing_spaces_append (n : Nat) (ht : t.head? ≠ some ':') :
    cutTrailing (spaces n ++ t) = (spaces n ++ (cutTrailing t).1, (cutTrailing t).2) := by
  induction n with
  | zero => rfl
  | succ n ih =>
    have hhead : (spaces n ++ t).head? ≠ some ':' := by
      cases n with
      | zero => exact ht
      | succ n => simp
    rw [spaces_succ, List.cons_append, cutTrailing_space_cons hhead, ih]
    rfl

lemma cutTrailing_spaces_colon (n : Nat) :
    cutTrailing (spaces (n + 1) ++ ':' :: t) = (spaces n, some t) := by
  induction n with
  | zero => rfl
  | succ n ih =>
    have hhead : (spaces (n + 1) ++ ':' :: t).head? ≠ some ':' := by simp
    rw [spaces_succ, List.cons_append, cutTrailing_space_cons hhead, ih]
    rfl

lemma IsWord.head?_append (h : IsWord w) : (w ++ t).head? ≠ some ':' := by
  have hcolon := h.no_colon
  obtain ⟨c, w, rfl⟩ := List.exists_cons_of_ne_nil h.ne_nil
  exact hcolon

/-- A word and the spaces before it are no part of the trailing text. -/
lemma IsWord.cutTrailing_append (h : IsWord w) (n : Nat) (t : Text) :
    cutTrailing (spaces n ++ (w ++ t)) =
      (spaces n ++ (w ++ (cutTrailing t).1), (cutTrailing t).2) := by
  rw [cutTrailing_spaces_append n h.head?_append, Tokens.cutTrailing_append h.no_space]

lemma cutTrailing_writeParams (h : ∀ p ∈ ps, IsWord p) (gaps : Nat → Nat) (t : Text) :
    cutTrailing (writeParams gaps ps ++ t) =
      (writeParams gaps ps ++ (cutTrailing t).1, (cutTrailing t).2) := by
  induction ps generalizing gaps with
  | nil => rfl
  | cons p ps ih =>
    rw [List.forall_mem_cons] at h
    simp only [writeParams, List.append_assoc]
    rw [h.1.cutTrailing_append, ih h.2]

lemma exists_cutTrailing_writeTrailing (l : Layout) (trailing : Option Text) :
    ∃ n, cutTrailing (l.writeTrailing trailing) = (spaces n, trailing) := by
  cases trailing with
  | none => exact ⟨0, rfl⟩
  | some text => exact ⟨l.beforeTrailing, cutTrailing_spaces_colon l.beforeTrailing⟩

/-! ### Words -/

lemma words_spaces_append (n : Nat) (t : Text) : words (spaces n ++ t) = words t := by
  induction n with
  | zero => rfl
  | succ n ih =>
    have hcons : words (' ' :: (spaces n ++ t)) = words (spaces n ++ t) := by
      simp [words, Text.splitOn]
    rw [spaces_succ, List.cons_append, hcons, ih]

/-- What may follow a word. -/
def EndsWord (t : Text) : Prop := t = [] ∨ ∃ u, t = ' ' :: u

lemma splitOn_append (hspace : ' ' ∉ w) (ht : EndsWord t) :
    ∃ parts, Text.splitOn ' ' (w ++ t) = w :: parts := by
  rcases ht with rfl | ⟨u, rfl⟩
  · exact ⟨[], by rw [List.append_nil, Text.splitOn_of_not_mem hspace]⟩
  · exact ⟨_, Text.splitOn_append_cons hspace⟩

/-- A word ends at the next space, whatever it starts with. -/
lemma words_append (hne : w ≠ []) (hspace : ' ' ∉ w) (ht : EndsWord t) :
    words (w ++ t) = w :: words t := by
  rcases ht with rfl | ⟨u, rfl⟩
  · rw [List.append_nil, words, Text.splitOn_of_not_mem hspace]
    simp [hne, words, Text.splitOn]
  · rw [words, Text.splitOn_append_cons hspace]
    simp [hne, words, Text.splitOn]

lemma IsWord.words_append (h : IsWord w) (ht : EndsWord t) : words (w ++ t) = w :: words t :=
  Tokens.words_append h.ne_nil h.no_space ht

lemma writeParams_append_spaces (gaps : Nat → Nat) (ps : List Text) (n : Nat) :
    EndsWord (writeParams gaps ps ++ spaces n) := by
  cases ps with
  | nil =>
    cases n with
    | zero => exact Or.inl rfl
    | succ n => exact Or.inr ⟨spaces n, rfl⟩
  | cons p ps => exact Or.inr ⟨_, rfl⟩

lemma words_writeParams (h : ∀ p ∈ ps, IsWord p) (gaps : Nat → Nat) (n : Nat) :
    words (writeParams gaps ps ++ spaces n) = ps := by
  induction ps generalizing gaps with
  | nil =>
    have hspaces := words_spaces_append n []
    rwa [List.append_nil] at hspaces
  | cons p ps ih =>
    rw [List.forall_mem_cons] at h
    simp only [writeParams, List.append_assoc]
    rw [words_spaces_append, h.1.words_append (writeParams_append_spaces _ ps n), ih h.2]

/-! ### Lines -/

/-- The sender ends at the first space; those after it are left to the words. -/
lemma exists_cutSender?_write {who : Option Text} (hwho : ∀ s ∈ who, ' ' ∉ s)
    (ht : t.head? ≠ some ':') :
    ∃ n, cutSender? (l.writeSender who ++ t) = some (who, spaces n ++ t) := by
  cases who with
  | none =>
    refine ⟨0, ?_⟩
    show cutSender? t = some (none, t)
    rw [cutSender?.eq_def]
    split
    · exact absurd rfl ht
    · rfl
  | some s =>
    refine ⟨l.afterSender, ?_⟩
    have hspace : ' ' ∉ s := hwho s rfl
    rw [Layout.writeSender, spaces_succ, List.cons_append, List.append_assoc, List.cons_append,
      cutSender?, Text.cut?_append_cons hspace]

/-- Reading a line gives back the tokens that it writes. -/
lemma ofText?_write (l : Layout) {t : Tokens} (h : t.Writable) : ofText? (l.write t) = some t := by
  obtain ⟨n, hsender⟩ := exists_cutSender?_write (l := l) (t := t.command ++ (writeParams
    l.beforeParam t.params ++ l.writeTrailing t.trailing)) h.sender h.command.head?_append
  obtain ⟨m, htrailing⟩ := exists_cutTrailing_writeTrailing l t.trailing
  rw [ofText?, Layout.write, hsender]
  dsimp only
  rw [h.command.cutTrailing_append, cutTrailing_writeParams h.params, htrailing]
  dsimp only
  rw [words_spaces_append, h.command.words_append (writeParams_append_spaces _ _ m),
    words_writeParams h.params]

end Tokens

/-! ### Senders -/

/-- The form in which servers name a user. -/
def userToken (nick ident host : Text) : Text := nick ++ '!' :: (ident ++ '@' :: host)

section Users

variable {nick ident host : Text}

lemma cut?_mark_userToken (hmark : '!' ∉ nick) :
    Text.cut? '!' (userToken nick ident host) = some (nick, ident ++ '@' :: host) :=
  Text.cut?_append_cons hmark

lemma cut?_at_userToken (hnick : '@' ∉ nick) (hident : '@' ∉ ident) :
    Text.cut? '@' (userToken nick ident host) = some (nick ++ '!' :: ident, host) := by
  have hat : '@' ∉ nick ++ '!' :: ident := by simp [hnick, hident]
  have happend : userToken nick ident host = (nick ++ '!' :: ident) ++ '@' :: host := by
    simp [userToken]
  rw [happend, Text.cut?_append_cons hat]

lemma identOf_userToken (hmark : '!' ∉ nick) (hnick : '@' ∉ nick) (hident : '@' ∉ ident) :
    identOf (userToken nick ident host) = some ident := by
  have hcontains : nick.contains '@' = false := by simpa using hnick
  rw [identOf, cut?_mark_userToken hmark]
  dsimp only
  rw [hcontains, Text.cut?_append_cons hident]
  rfl

/-- What a message tells of the user who sent it. -/
lemma ofLine_of_user {own line : Text}
    (h : (Message.ofLine own line).sender = userToken nick ident host) (hmark : '!' ∉ nick)
    (hnick : '@' ∉ nick) (hident : '@' ∉ ident) :
    (Message.ofLine own line).nick = some nick ∧ (Message.ofLine own line).ident = some ident ∧
      (Message.ofLine own line).host = some host := by
  refine ⟨?_, ?_, ?_⟩
  · show (Text.cut? '!' (Message.ofLine own line).sender).map Prod.fst = some nick
    rw [h, cut?_mark_userToken hmark]
    rfl
  · show identOf (Message.ofLine own line).sender = some ident
    rw [h, identOf_userToken hmark hnick hident]
  · show (Text.cut? '@' (Message.ofLine own line).sender).map Prod.snd = some host
    rw [h, cut?_at_userToken hnick hident]
    rfl

end Users

lemma sender_of_ofText? {own line : Text} {t : Tokens} (h : Tokens.ofText? line = some t) :
    (Message.ofLine own line).sender = t.sender.getD [] := by
  rw [Message.ofLine, h]
  rfl

lemma text_of_ofText? {own line : Text} {t : Tokens} (h : Tokens.ofText? line = some t) :
    (Message.ofLine own line).text = t.trailing := by
  rw [Message.ofLine, h]
  rfl

/-- **Reading inverts writing.**  Let tokens be such that a line can write them.  However many
spaces stand between them, reading the line gives back the same sender, command, parameters and
trailing text, and whoever reads it takes sender and text of the message from them.  Of a sender in
the form in which servers name a user, the message has the nick, the user name and the host. -/
theorem ofLine_write (l : Tokens.Layout) (t : Tokens) (h : t.Writable) (own : Text) :
    Tokens.ofText? (l.write t) = some t ∧
      (Message.ofLine own (l.write t)).sender = t.sender.getD [] ∧
      (Message.ofLine own (l.write t)).text = t.trailing ∧
      ∀ nick ident host : Text, '!' ∉ nick → '@' ∉ nick → '@' ∉ ident →
        t.sender = some (userToken nick ident host) →
          (Message.ofLine own (l.write t)).nick = some nick ∧
            (Message.ofLine own (l.write t)).ident = some ident ∧
            (Message.ofLine own (l.write t)).host = some host := by
  have htokens := Tokens.ofText?_write l h
  refine ⟨htokens, sender_of_ofText? htokens, text_of_ofText? htokens, ?_⟩
  intro nick ident host hmark hnick hident huser
  have hsender : (Message.ofLine own (l.write t)).sender = userToken nick ident host := by
    rw [sender_of_ofText? htokens, huser, Option.getD_some]
  exact ofLine_of_user hsender hmark hnick hident

/-- A line with gaps of several spaces, colons inside of words, a mark inside of the user name and
an at sign inside of the host, and a trailing text that could be taken for more of the line. -/
theorem ofLine_write_crowded :
    let l : Tokens.Layout := ⟨2, fun i => i, 1⟩
    let t : Tokens := ⟨some (userToken "bob" "~b!x" "h:1@k"), "KICK", ["#a:b", "c!d"],
      some " :x  :y "⟩
    t.Writable ∧ l.write t = (":bob!~b!x@h:1@k   KICK #a:b  c!d  : :x  :y " : Text) ∧
      Tokens.ofText? (l.write t) = some t ∧
      (Message.ofLine [] (l.write t)).nick = some ("bob" : Text) ∧
      (Message.ofLine [] (l.write t)).ident = some ("~b!x" : Text) ∧
      (Message.ofLine [] (l.write t)).host = some ("h:1@k" : Text) ∧
      (Message.ofLine [] (l.write t)).text = some (" :x  :y " : Text) := by
  intro l t
  have hwritable : t.Writable := by
    refine ⟨?_, ⟨by decide, by decide, by decide⟩, ?_⟩
    · rintro s hs
      cases hs
      decide
    · intro p hp
      simp only [t, List.mem_cons, List.not_mem_nil, or_false] at hp
      rcases hp with rfl | rfl
      · exact ⟨by decide, by decide, by decide⟩
      · exact ⟨by decide, by decide, by decide⟩
  obtain ⟨htokens, -, htext, huser⟩ := ofLine_write l t hwritable []
  obtain ⟨hnick, hident, hhost⟩ :=
    huser "bob" "~b!x" "h:1@k" (by decide) (by decide) (by decide) rfl
  exact ⟨hwritable, rfl, htokens, hnick, hident, hhost, htext⟩

end ChatLink
