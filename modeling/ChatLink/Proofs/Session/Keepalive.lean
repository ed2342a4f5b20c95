/-
# Answers to a server that asks whether we are there

A server may ask at any time whether a connection is alive, and wants to have its token back.  The
token is the trailing text of its line, or else the first parameter.  A session answers every such
line, but looks for the parameter among the words that are counted, and puts a colon in front of
the token, with which the answer is one byte longer than a line without one.  Main statement:
`answer_to_ping`.
-/
import Mathlib
import ChatLink.Proofs.Message.Words
import ChatLink.Proofs.Wire.Frames
import ChatLink.Session.Handle

namespace ChatLink

variable {own line text : Text} {t : Tokens} {rule : Rule}

/-- What a server asks to have back. -/
def Tokens.argument? (t : Tokens) : Option Text := t.trailing <|> t.target?

/-! ### Lines that ask -/

/-- A line that asks has no sender, and something to be sent back. -/
lemma Rule.of_ping (h : rule.kind? own t = some .ping) :
    t.sender = none ∧ t.command = "PING" ∧ ReplyCode.ofToken? t.command = none ∧
      (t.trailing = none → t.target?.isSome = true) := by
  have honly : ∀ rule ∈ Rule.table, Kind.ping ∈ rule.kinds → rule = .ping := by decide
  obtain rfl := honly rule rule.mem_table (mem_kinds h)
  have hcode := ofToken?_of_command? (Option.isSome_of_eq_some h) rfl
  have hcond := (whenTrue_eq_some h).1
  rw [Bool.and_eq_true, Bool.and_eq_true, Option.isNone_iff_eq_none, beq_iff_eq,
    decide_eq_true_eq] at hcond
  obtain ⟨⟨hsender, hcommand⟩, hcount⟩ := hcond
  refine ⟨hsender, hcommand, hcode, fun htrailing => ?_⟩
  rw [Tokens.argCount, htrailing] at hcount
  rw [Tokens.target?, List.isSome_head?]
  simpa [List.length_pos_iff] using hcount

/-- Every such line is answered by a token, and by nothing else. -/
lemma Seat.hear_ping {s : Seat} (now : Time) (h : Tokens.ofText? line = some t)
    (hping : Kind.ofLine s.actual line = .ping) (hcode : ReplyCode.ofToken? t.command = none) :
    s.hear now line = ((s.log (.ofParts .debug ["[In] ", Format.strip line])).push
      (Command.pong ((t.trailing <|> wordAt? line 1).getD [])), none) := by
  have hreply : (Message.ofLine s.actual line).replyCode = none := by
    show (Tokens.ofText? line).bind (fun t => ReplyCode.ofToken? t.command) = none
    rw [h, Option.bind_some, hcode]
  have hkind : (Message.ofLine s.actual line).kind = .ping := hping
  rw [hear, show (s.log _).actual = s.actual from rfl, hreply]
  dsimp only
  rw [hearMessage, hkind]
  dsimp only
  rw [pingToken, text_of_ofText? h]
  rfl

/-! ### Answers that can be sent -/

lemma Command.pong_eq (token : Text) : pong token = ("PONG :" : Text) ++ token := rfl

lemma Command.refusal?_pong_eq_none_iff {token : Text} (h : token.IsUnbroken) :
    refusal? (pong token) = none ↔ token.byteLength ≤ 504 := by
  have hword : Text.byteLength "PONG :" = 6 := by decide
  have hunbroken : Text.IsUnbroken "PONG :" := by simp [isLineBreak]
  rw [pong_eq, refusal?_append_eq_none_iff hunbroken h, hword, maxLine, maxFrame]
  omega

/-- The trailing text of a line that asks always fits into the answer. -/
lemma refusal?_pong_trailing (h : Tokens.ofText? line = some t) (hcommand : t.command = "PING")
    (htrailing : t.trailing = some text) (hfits : line.byteLength ≤ maxLine)
    (hunbroken : line.IsUnbroken) : refusal? (Command.pong text) = none := by
  obtain ⟨before, between, rfl⟩ := Tokens.exists_of_trailing h htrailing
  have hping : Text.byteLength "PING" = 4 := by decide
  have hcolon : Text.byteLength " :" = 2 := by decide
  simp only [Text.byteLength_append, hcommand, hping, hcolon, maxLine, maxFrame] at hfits
  simp only [Text.isUnbroken_append] at hunbroken
  rw [Command.refusal?_pong_eq_none_iff hunbroken.2.2]
  omega

namespace Tokens.Opening

variable {o : Opening}

/-- The word that stands after the first one is the parameter if no space is too many.  Otherwise it
can only be a command that is the same word as the parameter. -/
lemma second_eq_target_iff :
    o.second = o.target ↔ o.IsTight ∨ o.before = 1 ∧ o.target = o.command := by
  rw [second]
  split
  · next htight => simp [htight]
  · next hloose =>
    rw [or_iff_right hloose]
    split
    · next hone => rw [and_iff_right hone, eq_comm]
    · next hmore => exact iff_of_false o.target_word.1.symm fun h => hmore h.1

/-- The parameter alone can be too long for the answer, by the one byte of the colon. -/
lemma refusal?_pong_second (hcommand : o.command = "PING") (hfits : o.text.byteLength ≤ maxLine)
    (hunbroken : o.text.IsUnbroken) :
    refusal? (Command.pong o.second) = none ↔
      ¬ (o.IsTight ∧ o.more = [] ∧ o.text.byteLength = maxLine) := by
  have hping : Text.byteLength "PING" = 4 := by decide
  have htarget : o.target.IsUnbroken := by
    rw [text] at hunbroken
    simp only [Text.isUnbroken_append] at hunbroken
    exact hunbroken.2.2.2.1
  rw [byteLength_text, hcommand, hping] at hfits ⊢
  rw [second]
  split
  · next htight =>
    have hmore : o.more = [] ↔ o.more.byteLength = 0 := by
      constructor
      · intro hnil
        rw [hnil, Text.byteLength_nil]
      · intro hzero
        have := Text.length_le_byteLength o.more
        exact List.length_eq_zero_iff.1 (by omega)
    rw [Command.refusal?_pong_eq_none_iff htarget, and_iff_right htight, hmore, htight.1, htight.2]
    simp only [maxLine, maxFrame] at hfits ⊢
    omega
  · next hloose =>
    refine iff_of_true ?_ fun h => hloose h.1
    split
    · rw [hcommand]
      decide
    · decide

end Tokens.Opening

/-- **What a server is answered.**  Let a line that can arrive at all ask whether the session is
there.  The session goes on, with one line more in its own queue and nothing else changed but its
records.  If the line has a trailing text, this is what the answer holds, and the answer can be sent.
If it has none, the answer holds the word after the first one.  This is the first parameter exactly
if there is no space in front of the command and one behind it, or if one is in front and the
parameter is the same word as the command; and the answer can be sent unless the line is the command,
one space and a parameter, and as long as a line can be. -/
theorem answer_to_ping (s : Seat) (now : Time) (line : Text) (hfits : line.byteLength ≤ maxLine)
    (hunbroken : line.IsUnbroken) (hping : Kind.ofLine s.actual line = .ping) :
    ∃ (t : Tokens) (token : Text), Tokens.ofText? line = some t ∧
      s.hear now line = ((s.log (.ofParts .debug ["[In] ", Format.strip line])).push
        (Command.pong token), none) ∧
      (t.trailing.isSome = true →
        t.argument? = some token ∧ refusal? (Command.pong token) = none) ∧
      (t.trailing = none → ∃ o : Tokens.Opening, line = o.text ∧ o.command = "PING" ∧
        t.argument? = some o.target ∧ token = o.second ∧
        (token = o.target ↔ o.IsTight ∨ o.before = 1 ∧ o.target = o.command) ∧
        (refusal? (Command.pong token) = none ↔
          ¬ (o.IsTight ∧ o.more = [] ∧ line.byteLength = maxLine))) := by
  obtain ⟨t, rule, htokens, hrule⟩ := Kind.exists_rule hping (by decide)
  obtain ⟨hsender, hcommand, hcode, htarget⟩ := Rule.of_ping hrule
  refine ⟨t, _, htokens, Seat.hear_ping now htokens hping hcode, ?_, ?_⟩
  · intro hsome
    obtain ⟨text, htrailing⟩ := Option.isSome_iff_exists.1 hsome
    rw [Tokens.argument?, htrailing]
    exact ⟨rfl, refusal?_pong_trailing htokens hcommand htrailing hfits hunbroken⟩
  · intro hnone
    obtain ⟨x, hx⟩ := Option.isSome_iff_exists.1 (htarget hnone)
    obtain ⟨o, ho, rfl, hline, -⟩ := Tokens.exists_opening_of_ofText? htokens hx
    rw [hsender] at hline
    have hline : line = o.text := hline
    subst hline
    rw [Tokens.argument?, hnone, o.wordAt?_one]
    exact ⟨o, rfl, ho.trans hcommand, hx, rfl, Tokens.Opening.second_eq_target_iff,
      Tokens.Opening.refusal?_pong_second (ho.trans hcommand) hfits hunbroken⟩

/-- A server that writes a name without a colon. -/
theorem answer_to_ping_named :
    let s : Seat := ⟨.fresh .default 0 0, .fresh .default⟩
    let line : Text := "PING irc.test"
    line.byteLength ≤ maxLine ∧ line.IsUnbroken ∧ Kind.ofLine s.actual line = .ping ∧
      ∃ (t : Tokens) (token : Text), Tokens.ofText? line = some t ∧ t.argument? = some token ∧
        s.hear 0 line = ((s.log (.ofParts .debug ["[In] ", Format.strip line])).push
          (Command.pong token), none) ∧
        refusal? (Command.pong token) = none := by
  intro s line
  have hfits : line.byteLength ≤ maxLine := by decide
  have hunbroken : line.IsUnbroken := by decide
  have hping : Kind.ofLine s.actual line = .ping := by decide
  obtain ⟨t, token, htokens, hhear, -, hanswer⟩ := answer_to_ping s 0 line hfits hunbroken hping
  obtain rfl : t = ⟨none, "PING", ["irc.test"], none⟩ := Option.some.inj (htokens.symm.trans rfl)
  obtain ⟨o, hline, -, hargument, -, htoken, hrefused⟩ := hanswer rfl
  have hpushed : (s.hear 0 line).1.session.outbox.lines = [("PONG :irc.test" : Text)] := by decide
  rw [hhear] at hpushed
  have hsame : token = "irc.test" := List.append_cancel_left (List.cons.inj hpushed).1
  refine ⟨hfits, hunbroken, hping, _, token, htokens, by rw [hsame]; rfl, hhear, ?_⟩
  rw [hrefused]
  rintro ⟨-, -, hfull⟩
  exact absurd hfull (by decide)

/-- A server that writes two spaces before its name gets nothing back, and one whose name fills the
line is answered by a line that cannot be sent. -/
theorem ping_misanswered :
    let s : Seat := ⟨.fresh .default 0 0, .fresh .default⟩
    let told : Text → Kind × Option Text × List Text := fun line =>
      (Kind.ofLine s.actual line, (Tokens.ofText? line).bind Tokens.argument?,
        (s.hear 0 line).1.session.outbox.lines)
    let name : Text := List.replicate 505 'a'
    told "PING  irc.test" = (Kind.ping, some ("irc.test" : Text), [("PONG :" : Text)]) ∧
      Text.byteLength ("PING " ++ name) = maxLine ∧
      told ("PING " ++ name) = (Kind.ping, some name, [Command.pong name]) ∧
      refusal? (Command.pong name) = some (.tooLong 511) := by
  intro s told name
  have hname : name.byteLength = 505 := Text.byteLength_replicate 505 rfl
  have hspace : ' ' ∉ name := fun h => absurd (List.eq_of_mem_replicate h) (by decide)
  have hword : Tokens.IsWord name := ⟨List.cons_ne_nil _ _, hspace, by decide⟩
  let t : Tokens := ⟨none, "PING", [name], none⟩
  have hwritable : t.Writable := by
    refine ⟨?_, ⟨by decide, by decide, by decide⟩, List.forall_mem_singleton.2 hword⟩
    rintro sender ⟨⟩
  have htokens : Tokens.ofText? ("PING " ++ name) = some t := by
    have hline : ("PING " ++ name : Text) = (⟨0, fun _ => 0, 0⟩ : Tokens.Layout).write t := by
      simp [Tokens.Layout.write, Tokens.Layout.writeSender, Tokens.Layout.writeTrailing,
        Tokens.writeParams, t]
    rw [hline, Tokens.ofText?_write _ hwritable]
  have hping : Kind.ofLine s.actual ("PING " ++ name) = .ping := by
    rw [Kind.ofLine, htokens]
    rfl
  have hsecond : wordAt? ("PING " ++ name) 1 = some name := by
    have hsplit : Text.splitOn ' ' (("PING" : Text) ++ ' ' :: name) = [("PING" : Text), name] := by
      rw [Text.splitOn_append_cons (by decide), Text.splitOn_of_not_mem hspace]
    exact congrArg (·[1]?) hsplit
  refine ⟨by decide, ?_, ?_, ?_⟩
  · rw [Text.byteLength_append, hname]
    rfl
  · show (_, _, _) = _
    rw [Seat.hear_ping 0 htokens hping rfl, hping, htokens, hsecond]
    rfl
  · have hanswer : (Command.pong name).byteLength = 511 := by
      rw [Command.pong_eq, Text.byteLength_append, hname]
      rfl
    rw [refusal?, hanswer]
    rfl

end ChatLink
