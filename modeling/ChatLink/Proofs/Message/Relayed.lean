/-
# Private messages as others receive them

A server puts the sender in front of every line it passes on.  What it then passes on of a
private message is taken apart exactly: the tokens are the sender, the command, the target and
the text, whatever the text is.  From the tokens follow the kind and all that a message holds.
-/
import Mathlib
import ChatLink.Command
import ChatLink.Proofs.Message.Layout

namespace ChatLink

/-! ### Senders -/

/-- A user in the form in which servers put users in front of lines. -/
structure Sender where
  nick : Text
  ident : Text
  host : Text
  /-- The three parts are told apart by an exclamation mark and an at sign, and a space ends
  them. -/
  nick_clean : ' ' ∉ nick ∧ '!' ∉ nick ∧ '@' ∉ nick
  ident_clean : ' ' ∉ ident ∧ '@' ∉ ident
  host_clean : ' ' ∉ host

namespace Sender

/-- The token that names the sender. -/
def token (s : Sender) : Text := s.nick ++ '!' :: (s.ident ++ '@' :: s.host)

/-- A line of this sender as others receive it. -/
def relay (s : Sender) (line : Text) : Text := ':' :: (s.token ++ ' ' :: line)

variable (s : Sender) (line : Text)

lemma space_not_mem_token : ' ' ∉ s.token := by
  simp [token, s.nick_clean.1, s.ident_clean.1, s.host_clean]

end Sender

/-! ### Private messages -/

section Private

variable {target text : Text} {s : Sender}

lemma Command.message_eq (target text : Text) :
    Command.message target text =
      ("PRIVMSG" : Text) ++ ' ' :: (target ++ ' ' :: ':' :: text) := by
  unfold Command.message
  simp only [List.append_assoc]
  rfl

lemma Command.byteLength_message : (Command.message target text).byteLength =
    target.byteLength + text.byteLength + 10 := by
  have hword : Text.byteLength "PRIVMSG" = 7 := by decide
  have hspace : ' '.utf8Size = 1 := rfl
  have hcolon : ':'.utf8Size = 1 := rfl
  rw [Command.message_eq]
  simp only [Text.byteLength_append, Text.byteLength_cons, hword, hspace, hcolon]
  omega

/-- A target that stands for itself in a line, and for a channel. -/
structure ChannelName (name : Text) : Prop where
  hash : name.head? = some '#'
  no_space : ' ' ∉ name

namespace ChannelName

lemma exists_cons {name : Text} (h : ChannelName name) : ∃ rest, name = '#' :: rest := by
  have hhash := h.hash
  cases name with
  | nil => cases hhash
  | cons c rest =>
    rw [List.head?_cons, Option.some_inj] at hhash
    exact ⟨rest, by rw [hhash]⟩

lemma ne_nil {name : Text} (h : ChannelName name) : name ≠ [] := by
  obtain ⟨rest, rfl⟩ := h.exists_cons
  exact List.cons_ne_nil _ _

lemma isChannelTarget {name : Text} (h : ChannelName name) : isChannelTarget name = true := by
  obtain ⟨rest, rfl⟩ := h.exists_cons
  rfl

lemma isWord {name : Text} (h : ChannelName name) : Tokens.IsWord name := by
  refine ⟨h.ne_nil, h.no_space, ?_⟩
  rw [h.hash]
  decide

end ChannelName

/-- Such a line has one space in each of its gaps. -/
lemma relay_message_eq (s : Sender) (target text : Text) :
    s.relay (Command.message target text) =
      (⟨0, fun _ => 0, 0⟩ : Tokens.Layout).write
        ⟨some s.token, "PRIVMSG", [target], some text⟩ := by
  simp [Sender.relay, Command.message_eq, Tokens.Layout.write, Tokens.Layout.writeSender,
    Tokens.Layout.writeTrailing, Tokens.writeParams]

/-- The tokens of a message to a channel, as others receive it. -/
lemma ofText?_relay_message (h : ChannelName target) :
    Tokens.ofText? (s.relay (Command.message target text)) =
      some ⟨some s.token, "PRIVMSG", [target], some text⟩ := by
  have hcommand : Tokens.IsWord "PRIVMSG" := ⟨by decide, by decide, by decide⟩
  rw [relay_message_eq]
  refine Tokens.ofText?_write _ ⟨?_, hcommand, List.forall_mem_singleton.2 h.isWord⟩
  intro token htoken
  obtain rfl := Option.some.inj htoken
  exact s.space_not_mem_token

/-- The second word of such a line is the target. -/
lemma wordAt?_relay_message (h : ChannelName target) :
    wordAt? (s.relay (Command.message target text)) 2 = some target := by
  have hcommand : ' ' ∉ ("PRIVMSG" : Text) := by decide
  have hsender : ' ' ∉ ':' :: s.token := by
    rw [List.mem_cons, not_or]
    exact ⟨by decide, s.space_not_mem_token⟩
  rw [wordAt?, Sender.relay, Command.message_eq, ← List.cons_append,
    Text.splitOn_append_cons hsender, Text.splitOn_append_cons hcommand,
    Text.splitOn_append_cons h.no_space]
  rfl

lemma channelOf_relay_message {kind : Kind} (hkind : kind.channelPosition? = some 2)
    (h : ChannelName target) :
    channelOf kind (s.relay (Command.message target text)) = some target := by
  obtain ⟨rest, htarget⟩ := h.exists_cons
  rw [channelOf, hkind]
  dsimp only
  rw [wordAt?_relay_message h, htarget]
  rfl

/-! ### Kinds -/

/-- Of the rules, the one for actions, the one for requests and the one for messages decide on
what a user says. -/
lemma classifyBy_privmsg {t : Tokens} (own : Text) (hsender : t.sender.isSome = true)
    (hcode : ReplyCode.ofToken? t.command = none) (hcommand : t.isCommand "PRIVMSG" = true)
    (htarget : t.target? = some target) (htext : t.trailing = some text) :
    Rule.classifyBy Rule.table own t =
      if isCtcp text then
        if actionOpen.isPrefixOf text then
          if isChannelTarget target then .channelAction else .queryAction
        else .ctcpRequest
      else if isChannelTarget target then .channelMessage else .queryMessage := by
  obtain ⟨sender, hsender⟩ := Option.isSome_iff_exists.1 hsender
  have hnumeric : Rule.kind? own t .numericReply = none := by
    rw [Rule.kind?, hsender, hcode]
  have hping : Rule.kind? own t .ping = none := by
    rw [Rule.kind?, hsender]
    rfl
  have herror : Rule.kind? own t .serverError = none := by
    rw [Rule.kind?, hsender]
    rfl
  -- the three rules before the one for actions do not apply, and the next three decide
  rw [Rule.classifyBy, Rule.table]
  simp only [List.findSome?_cons, hnumeric, hping, herror]
  simp only [Rule.kind?, hcommand, htext, htarget, Rule.byTarget, Rule.whenTrue, Option.any_some,
    Bool.true_and, Option.isSome_some, if_true]
  cases isCtcp text <;> cases actionOpen.isPrefixOf text <;> rfl

/-- A text without marks is no request. -/
lemma isCtcp_of_not_mem (h : ctcpMark ∉ text) : isCtcp text = false := by
  match text with
  | [] => rfl
  | [_] => rfl
  | c :: d :: t =>
    rw [List.mem_cons, not_or] at h
    rw [isCtcp, beq_false_of_ne (Ne.symm h.1), Bool.false_and]

/-- A text between the two ends of an action is one. -/
lemma isCtcp_action (text : Text) : isCtcp (actionOpen ++ text ++ [ctcpMark]) = true := by
  have hlast : (("ACTION " : Text) ++ text ++ [ctcpMark]).getLast? = some ctcpMark :=
    List.getLast?_concat
  have hcons : actionOpen ++ text ++ [ctcpMark] =
      ctcpMark :: 'A' :: (("CTION " : Text) ++ text ++ [ctcpMark]) := rfl
  rw [hcons, isCtcp]
  simpa using hlast

/-! ### Messages -/

/-- A message is understood as coming from a sender, of a kind and about a channel. -/
structure Message.Says (m : Message) (s : Sender) (kind : Kind) (channel : Text) : Prop where
  kind_eq : m.kind = kind
  channel_eq : m.channel = some channel
  nick_eq : m.nick = some s.nick
  ident_eq : m.ident = some s.ident
  host_eq : m.host = some s.host

/-- What is read from a message to a channel, given the kind that it has. -/
lemma says_relay_message {kind : Kind} (own : Text) (h : ChannelName target)
    (hkind : Kind.ofLine own (s.relay (Command.message target text)) = kind)
    (hpos : kind.channelPosition? = some 2) :
    (Message.ofLine own (s.relay (Command.message target text))).Says s kind target := by
  have hsender : (Message.ofLine own (s.relay (Command.message target text))).sender =
      userToken s.nick s.ident s.host := sender_of_ofText? (ofText?_relay_message h)
  obtain ⟨hnick, hident, hhost⟩ := ofLine_of_user hsender s.nick_clean.2.1 s.nick_clean.2.2
    s.ident_clean.2
  refine ⟨hkind, ?_, hnick, hident, hhost⟩
  show channelOf (Kind.ofLine own _) _ = _
  rw [hkind, channelOf_relay_message hpos h]

lemma text_relay_message (own : Text) (h : ChannelName target) :
    (Message.ofLine own (s.relay (Command.message target text))).text = some text :=
  text_of_ofText? (ofText?_relay_message h)

/-- The kind of a line that says something in a channel. -/
lemma kind_relay_message (own : Text) (h : ChannelName target) :
    Kind.ofLine own (s.relay (Command.message target text)) =
      if isCtcp text then
        if actionOpen.isPrefixOf text then .channelAction else .ctcpRequest
      else .channelMessage := by
  have hcode : ReplyCode.ofToken? ("PRIVMSG" : Text) = none := by decide
  rw [Kind.ofLine, ofText?_relay_message h]
  dsimp only
  rw [classifyBy_privmsg own rfl hcode rfl rfl rfl, h.isChannelTarget, if_pos rfl,
    if_pos rfl]

/-- A text without marks is read as said in the channel. -/
lemma says_message (own : Text) (h : ChannelName target) (hclean : ctcpMark ∉ text) :
    (Message.ofLine own (s.relay (Command.message target text))).Says s .channelMessage
      target := by
  refine says_relay_message own h ?_ rfl
  rw [kind_relay_message own h, isCtcp_of_not_mem hclean]
  rfl

/-- A text between the ends of an action is read as done in the channel. -/
lemma says_action (own : Text) (h : ChannelName target) :
    (Message.ofLine own (s.relay (Command.message target
      (actionOpen ++ text ++ [ctcpMark])))).Says s .channelAction target := by
  have hopen : actionOpen.isPrefixOf (actionOpen ++ text ++ [ctcpMark]) = true := by
    rw [List.isPrefixOf_iff_prefix, List.append_assoc]
    exact List.prefix_append _ _
  refine says_relay_message own h ?_ rfl
  rw [kind_relay_message own h, isCtcp_action, hopen]
  rfl

/-- What wraps an action is taken off again. -/
lemma actionText?_action {m : Message} (h : m.text = some (actionOpen ++ text ++ [ctcpMark])) :
    m.actionText? = some text := by
  have hwrap : (ctcpMark :: ("ACTION" : Text)).isPrefixOf? (actionOpen ++ text ++ [ctcpMark]) =
      some (' ' :: (text ++ [ctcpMark])) := by
    rfl
  have hlast : (' ' :: (text ++ [ctcpMark])).getLast? = some ctcpMark := by
    rw [← List.cons_append, List.getLast?_concat]
  have hdrop : (' ' :: (text ++ [ctcpMark])).dropLast = ' ' :: text := by
    rw [← List.cons_append, List.dropLast_concat]
  -- what follows the word starts with the space before the text and ends with the closing mark
  rw [Message.actionText?, h]
  dsimp only
  rw [hwrap]
  dsimp only
  rw [if_pos hlast, hdrop]
  rfl

end Private
end ChatLink
