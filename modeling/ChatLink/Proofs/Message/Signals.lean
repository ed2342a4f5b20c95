/-
# What a network says about nicks

A network that refuses a nick, welcomes a session or renames it says so in lines of a fixed shape.
This file spells these lines and shows how they are read.  All other lines but these and two
replies are asides: they tell a session nothing about its own nick.
-/
import Mathlib
import ChatLink.Proofs.Message.Layout
import ChatLink.Proofs.Message.Rules
import ChatLink.Session.Traffic

namespace ChatLink

/-- A nick as networks give them out. -/
structure Text.IsNick (x : Text) : Prop extends Tokens.IsWord x where
  no_mark : '!' ∉ x

/-- A session may be registered on the reply, or take another nick. -/
def ReplyCode.decidesNick (code : ReplyCode) : Bool :=
  code == welcome || code == erroneousNick || code.isNickConflict

/-- What a network says to a session. -/
inductive Signal where
  /-- It refuses a nick.  A session that is registered is told the nick that it has. -/
  | refused (server : Text) (code : ReplyCode) (current : Option Text) (x : Text)
    (more : Option Text)
  /-- It registers the session under a nick. -/
  | welcome (server nick : Text) (more : Option Text)
  /-- It gives the session another nick. -/
  | renamed (old user host new : Text)
  /-- It says something else. -/
  | aside (line : Text)
deriving DecidableEq, Repr

namespace Signal

/-- What follows the words that matter: nothing, or more words. -/
def tail : Option Text → Text
  | none => []
  | some more => ' ' :: more

/-- A reply of a server; the code is followed by words. -/
def reply (server code words : Text) : Text := ':' :: (server ++ ' ' :: (code ++ ' ' :: words))

/-- The line that says it. -/
def line : Signal → Text
  | refused server code current x more =>
    reply server code.toText (current.getD ['*'] ++ ' ' :: (x ++ tail more))
  | welcome server nick more => reply server ReplyCode.welcome.toText (nick ++ tail more)
  | renamed old user host new => ':' :: (userToken old user host ++ (" NICK :" : Text) ++ new)
  | aside line => line

/-- A line that is neither a change of nick nor a reply that decides about one. -/
def isAside (line : Text) : Bool :=
  (Tokens.ofText? line).all fun t =>
    !Text.sameName t.command "NICK" && !(ReplyCode.ofToken? t.command).any ReplyCode.decidesNick

end Signal

namespace Signal

variable {own server code words line old user host new x command : Text} {more : Option Text}
  {t : Tokens}

/-! ### Replies -/

lemma endsWord_cutTrailing (t : Text) : Tokens.EndsWord (Tokens.cutTrailing (' ' :: t)).1 := by
  by_cases ht : t.head? = some ':'
  · obtain ⟨u, rfl⟩ := List.head?_eq_some_iff.1 ht
    exact .inl rfl
  · exact .inr ⟨_, congrArg Prod.fst (Tokens.cutTrailing_space_cons ht)⟩

lemma ofText?_reply (hserver : ' ' ∉ server) (hcode : Tokens.IsWord code) (words : Text) :
    ∃ params trailing, Tokens.ofText? (reply server code words) =
      some ⟨some server, code, params, trailing⟩ := by
  have hwords := hcode.words_append (endsWord_cutTrailing words)
  refine ⟨Tokens.words (Tokens.cutTrailing (' ' :: words)).1,
    (Tokens.cutTrailing (' ' :: words)).2, ?_⟩
  rw [Tokens.ofText?, reply, Tokens.cutSender?, Text.cut?_append_cons hserver]
  dsimp only
  rw [Tokens.cutTrailing_append hcode.no_space, hwords]

lemma replyCode_reply (hserver : ' ' ∉ server) (hcode : Tokens.IsWord code) :
    (Message.ofLine own (reply server code words)).replyCode = ReplyCode.ofToken? code := by
  obtain ⟨params, trailing, htokens⟩ := ofText?_reply hserver hcode words
  rw [Message.ofLine, htokens]
  rfl

/-- The words of a reply are counted from the server. -/
lemma wordAt?_reply (hserver : ' ' ∉ server) (hcode : Tokens.IsWord code) (i : Nat) :
    wordAt? (reply server code words) (i + 2) = (Text.splitOn ' ' words)[i]? := by
  have hcolon : ' ' ∉ ':' :: server := by simp [hserver]
  rw [wordAt?, reply, ← List.cons_append, Text.splitOn_append_cons hcolon,
    Text.splitOn_append_cons hcode.no_space]
  rfl

lemma endsWord_tail (more : Option Text) : Tokens.EndsWord (tail more) := by
  cases more with
  | none => exact .inl rfl
  | some more => exact .inr ⟨more, rfl⟩

lemma isWord_toText {code : ReplyCode} (h : code.isNickConflict = true) :
    Tokens.IsWord code.toText ∧ ReplyCode.ofToken? code.toText = some code := by
  rw [ReplyCode.isNickConflict, Bool.or_eq_true, beq_iff_eq, beq_iff_eq] at h
  rcases h with rfl | rfl
  · exact ⟨⟨by decide, by decide, by decide⟩, by decide⟩
  · exact ⟨⟨by decide, by decide, by decide⟩, by decide⟩

/-- A refusal is read as such, with the nick that the session has and the one that it asked for. -/
lemma ofLine_refused {code : ReplyCode} {current : Option Text} (hserver : ' ' ∉ server)
    (hcode : code.isNickConflict = true) (hcurrent : ∀ n ∈ current, ' ' ∉ n) (hx : ' ' ∉ x)
    (more : Option Text) (own : Text) :
    let m := Message.ofLine own (Signal.refused server code current x more).line
    m.replyCode = some code ∧ m.word? 2 = some (current.getD ['*']) ∧ m.word? 3 = some x := by
  intro m
  obtain ⟨hword, hread⟩ := isWord_toText hcode
  have hknown : ' ' ∉ current.getD ['*'] := by
    cases current with
    | none => decide
    | some n => exact hcurrent n rfl
  obtain ⟨rest, hrest⟩ := Tokens.splitOn_append hx (endsWord_tail more)
  have hwords : ∀ i, m.word? (i + 2) = (current.getD ['*'] :: x :: rest)[i]? := by
    intro i
    show wordAt? (reply _ _ _) (i + 2) = _
    rw [wordAt?_reply hserver hword, Text.splitOn_append_cons hknown, hrest]
  exact ⟨(replyCode_reply hserver hword).trans hread, hwords 0, hwords 1⟩

lemma ofLine_welcome (hserver : ' ' ∉ server) (hx : ' ' ∉ x) (more : Option Text) (own : Text) :
    let m := Message.ofLine own (Signal.welcome server x more).line
    m.replyCode = some .welcome ∧ m.word? 2 = some x := by
  intro m
  have hword : Tokens.IsWord ReplyCode.welcome.toText := ⟨by decide, by decide, by decide⟩
  have hread : ReplyCode.ofToken? ReplyCode.welcome.toText = some .welcome := by decide
  obtain ⟨rest, hrest⟩ := Tokens.splitOn_append hx (endsWord_tail more)
  refine ⟨(replyCode_reply hserver hword).trans hread, ?_⟩
  show wordAt? (reply _ _ _) (0 + 2) = _
  rw [wordAt?_reply hserver hword, hrest]
  rfl

/-! ### Changes of nick -/

/-- A change of nick is read as such, with both nicks. -/
lemma ofLine_renamed (hold : Text.IsNick old) (huser : ' ' ∉ user) (hhost : ' ' ∉ host)
    (new own : Text) :
    let m := Message.ofLine own (Signal.renamed old user host new).line
    m.replyCode = none ∧ m.kind = .nickChange ∧ m.nick = some old ∧ Seat.newNick m = new := by
  intro m
  let t : Tokens := ⟨some (userToken old user host), "NICK", [], some new⟩
  have hcommand : Tokens.IsWord "NICK" := ⟨by decide, by decide, by decide⟩
  have hwritable : t.Writable := by
    refine ⟨?_, hcommand, fun p hp => absurd hp List.not_mem_nil⟩
    rintro sender ⟨⟩
    simp [userToken, hold.no_space, huser, hhost]
  have hline : (Signal.renamed old user host new).line = Tokens.Layout.write ⟨0, fun _ => 0, 0⟩ t := by
    simp [Signal.line, Tokens.Layout.write, Tokens.Layout.writeSender, Tokens.Layout.writeTrailing,
      Tokens.writeParams, t]
  have htokens : Tokens.ofText? (Signal.renamed old user host new).line = some t := by
    rw [hline, Tokens.ofText?_write _ hwritable]
  refine ⟨?_, ?_, ?_, ?_⟩
  · show (Tokens.ofText? _).bind _ = none
    rw [htokens]
    rfl
  · show Kind.ofLine own _ = .nickChange
    rw [Kind.ofLine, htokens]
    rfl
  · show (Text.cut? '!' m.sender).map Prod.fst = some old
    rw [sender_of_ofText? htokens]
    show (Text.cut? '!' (userToken old user host)).map Prod.fst = some old
    rw [cut?_mark_userToken hold.no_mark]
    rfl
  · rw [Seat.newNick, text_of_ofText? htokens]
    rfl

end Signal

/-! ### Asides -/

/-- Only the rule for changes of nick finds one. -/
lemma Rule.eq_nickChange {own : Text} {t : Tokens} {rule : Rule}
    (h : rule.kind? own t = some .nickChange) : rule = .nickChange := by
  have honly : ∀ rule ∈ Rule.table, Kind.nickChange ∈ rule.kinds → rule = .nickChange := by decide
  exact honly rule rule.mem_table (Rule.mem_kinds h)

/-- A line is a change of nick by its command. -/
lemma Kind.sameName_of_nickChange {own line : Text} {t : Tokens}
    (htokens : Tokens.ofText? line = some t) (h : Kind.ofLine own line = .nickChange) :
    Text.sameName t.command "NICK" = true := by
  obtain ⟨t', rule, htokens', hrule⟩ := Kind.exists_rule h (by decide)
  obtain rfl : t = t' := Option.some.inj (htokens.symm.trans htokens')
  obtain rfl := Rule.eq_nickChange hrule
  exact Rule.sameName_of_isSome (Option.isSome_of_eq_some hrule) rfl

namespace Signal

variable {own line command : Text} {t : Tokens}

/-- An aside is read as neither a change of nick nor a reply that decides about one. -/
lemma ofLine_aside (h : isAside line = true) (own : Text) :
    (Message.ofLine own line).kind ≠ .nickChange ∧
      (Message.ofLine own line).replyCode.any ReplyCode.decidesNick = false := by
  show Kind.ofLine own line ≠ .nickChange ∧
    ((Tokens.ofText? line).bind fun t => ReplyCode.ofToken? t.command).any _ = false
  cases htokens : Tokens.ofText? line with
  | none =>
    rw [Kind.ofLine, htokens]
    exact ⟨Kind.noConfusion, rfl⟩
  | some t =>
    rw [isAside, htokens, Option.all_some, Bool.and_eq_true, Bool.not_eq_true',
      Bool.not_eq_true'] at h
    refine ⟨fun hkind => ?_, h.2⟩
    rw [Kind.sameName_of_nickChange htokens hkind] at h
    cases h.1

/-- A line with another command is an aside. -/
lemma isAside_of_command (htokens : Tokens.ofText? line = some t)
    (hcommand : Text.sameName t.command command = true) (hlength : command.length ≠ 3)
    (hnick : Text.sameName command "NICK" = false) : isAside line = true := by
  have hother : Text.sameName t.command "NICK" = false := by
    by_contra hsame
    rw [Bool.not_eq_false, Text.sameName_comm] at hsame
    rw [Text.sameName_comm, Text.sameName_trans hsame hcommand] at hnick
    cases hnick
  rw [isAside, htokens, Option.all_some, hother, ReplyCode.ofToken?_of_sameName hcommand hlength]
  rfl

end Signal
end ChatLink
