/-
# What a configuration makes a session send

A session registers with two lines, for its nick and for its user.  Once it is welcome it tells the
nick service who it is and enters its channels.  Validation sees to the nicks, and to the length of
the channels' names.  It does not look for line breaks, nor at the real name and the nick service at
all; so a line that a valid configuration makes a session send is refused exactly if one of these
texts holds a line break, or if the real name or what the nick service is told is too long.
-/
import Mathlib
import ChatLink.Proofs.Config.Nicks
import ChatLink.Proofs.Session.Places
import ChatLink.Proofs.Session.Sending

namespace ChatLink

variable {line nick text target channel realName : Text} {c d : Config} {i j k : Nat}

/-! ### Commands -/

namespace Nick

lemma not_isLineBreak_of_isPart {c : Char} (h : isPart c = true) : isLineBreak c = false := by
  by_contra hbreak
  rw [Bool.not_eq_false, isLineBreak, Bool.or_eq_true, beq_iff_eq, beq_iff_eq] at hbreak
  rcases hbreak with rfl | rfl
  · exact absurd h (by decide)
  · exact absurd h (by decide)

lemma isUnbroken_of_isPart (h : ∀ c ∈ nick, isPart c = true) : nick.IsUnbroken :=
  fun c hc => not_isLineBreak_of_isPart (h c hc)

end Nick

namespace Command

lemma user_eq (name : Text) (mode : Nat) (realName : Text) :
    user name mode realName =
      ("USER " : Text) ++ name ++ ' ' :: Decimal.digits mode ++ (" * :" : Text) ++ realName := rfl

lemma byteLength_user : (user nick userMode realName).byteLength =
    nick.byteLength + realName.byteLength + 11 := by
  have hword : Text.byteLength "USER " = 5 := by decide
  have hmode : Text.byteLength (' ' :: Decimal.digits userMode) = 2 := by decide
  have hcolon : Text.byteLength " * :" = 4 := by decide
  rw [user_eq, Text.byteLength_append, Text.byteLength_append, Text.byteLength_append,
    Text.byteLength_append, hword, hmode, hcolon]
  omega

lemma isUnbroken_user :
    (user nick userMode realName).IsUnbroken ↔ nick.IsUnbroken ∧ realName.IsUnbroken := by
  rw [user_eq, show Decimal.digits userMode = ['8'] from rfl]
  simp [isLineBreak]

lemma refusal?_nick (hnick : nick.IsUnbroken) (hfits : nick.byteLength ≤ defaultMaxNick) :
    refusal? (Command.nick nick) = none := by
  have hword : Text.byteLength "NICK " = 5 := by decide
  have hunbroken : Text.IsUnbroken "NICK " := by simp [isLineBreak]
  refine (refusal?_append_iff hunbroken ?_).2 hnick
  calc Text.byteLength "NICK " + nick.byteLength
      ≤ 5 + defaultMaxNick := by rw [hword]; exact Nat.add_le_add_left hfits 5
    _ ≤ maxLine := by decide

lemma refusal?_user_iff (hnick : nick.IsUnbroken) :
    refusal? (user nick userMode realName) = none ↔
      realName.IsUnbroken ∧ nick.byteLength + realName.byteLength + 11 ≤ maxLine := by
  rw [refusal?_eq_none_iff, byteLength_user, isUnbroken_user, and_iff_right hnick, and_comm]

lemma refusal?_join_iff (hfits : channel.byteLength ≤ maxChannel) :
    refusal? (join channel) = none ↔ channel.IsUnbroken := by
  have hword : Text.byteLength "JOIN " = 5 := by decide
  have hunbroken : Text.IsUnbroken "JOIN " := by simp [isLineBreak]
  refine refusal?_append_iff hunbroken ?_
  calc Text.byteLength "JOIN " + channel.byteLength
      ≤ 5 + maxChannel := by rw [hword]; exact Nat.add_le_add_left hfits 5
    _ ≤ maxLine := by decide

lemma isUnbroken_message :
    (message target text).IsUnbroken ↔ target.IsUnbroken ∧ text.IsUnbroken := by
  rw [message_eq]
  simp [isLineBreak]

lemma refusal?_message_iff :
    refusal? (message target text) = none ↔
      target.IsUnbroken ∧ text.IsUnbroken ∧ target.byteLength + text.byteLength + 10 ≤ maxLine := by
  rw [refusal?_eq_none_iff, byteLength_message, isUnbroken_message, and_comm, and_assoc]

end Command

/-! ### Nicks of a valid configuration -/

lemma cutNick_prefix (nick : Text) (maxLen : Nat) : cutNick nick maxLen <+: nick := by
  cases nick with
  | nil => exact List.nil_prefix
  | cons c t => exact (List.prefix_cons_inj c).2 (Text.takeBytes_prefix _ t)

lemma cutNick_of_byteLength_le {maxLen : Nat} (h : nick.byteLength ≤ maxLen) :
    cutNick nick maxLen = nick := by
  cases nick with
  | nil => rfl
  | cons c t =>
    rw [Text.byteLength_cons] at h
    rw [cutNick, Text.takeBytes_of_byteLength_le (by omega)]

lemma Text.byteLength_le_of_prefix {s t : Text} (h : s <+: t) : s.byteLength ≤ t.byteLength := by
  obtain ⟨rest, rfl⟩ := h
  rw [byteLength_append]
  exact Nat.le_add_right _ _

namespace Config

/-- However much the network lets a session have of its nick, that holds no line break and fits. -/
lemma cutNick_of_validate (h : c.validate = .ok d) (hi : i < d.sessionCount) (maxLen : Nat) :
    (cutNick (d.sessionNick i) maxLen).IsUnbroken ∧
      (cutNick (d.sessionNick i) maxLen).byteLength ≤ defaultMaxNick := by
  have hcut := cutNick_prefix (d.sessionNick i) maxLen
  refine ⟨Nick.isUnbroken_of_isPart fun x hx => ?_, ?_⟩
  · exact Nick.isPart_of_mem (isValid_sessionNick (nick_of_validate h).2.1 i) (hcut.subset hx)
  · exact (Text.byteLength_le_of_prefix hcut).trans (byteLength_sessionNick_of_validate h hi)

/-! ### The lines -/

/-- The lines that register a session under a nick. -/
def registration (c : Config) (nick : Text) : List Text :=
  [Command.nick nick, Command.user nick userMode c.realName]

/-- The lines that a session sends once it is welcome: it tells the nick service who it is and
enters its channels. -/
def entrance (c : Config) : List Text :=
  (c.nickService.map fun service => Command.message service.service service.message).toList ++
    c.channels.map Command.join

/-- What is left to hold for the lines of a valid configuration to be sent under a nick. -/
structure Sendable (c : Config) (nick : Text) : Prop where
  realName : c.realName.IsUnbroken ∧ nick.byteLength + c.realName.byteLength + 11 ≤ maxLine
  nickService : ∀ service ∈ c.nickService, service.service.IsUnbroken ∧
    service.message.IsUnbroken ∧
      service.service.byteLength + service.message.byteLength + 10 ≤ maxLine
  channels : ∀ channel ∈ c.channels, channel.IsUnbroken

lemma forall_refusal?_iff (hchannels : ∀ channel ∈ c.channels, channel.byteLength ≤ maxChannel)
    (hnick : nick.IsUnbroken) (hfits : nick.byteLength ≤ defaultMaxNick) :
    (∀ line ∈ c.registration nick ++ c.entrance, refusal? line = none) ↔ c.Sendable nick := by
  have hservice : (∀ line ∈ (c.nickService.map fun service =>
        Command.message service.service service.message).toList, refusal? line = none) ↔
      ∀ service ∈ c.nickService,
        refusal? (Command.message service.service service.message) = none := by
    cases c.nickService <;> simp
  have hjoins : (∀ line ∈ c.channels.map Command.join, refusal? line = none) ↔
      ∀ channel ∈ c.channels, channel.IsUnbroken := by
    rw [List.forall_mem_map]
    exact forall₂_congr fun channel hchannel =>
      Command.refusal?_join_iff (hchannels channel hchannel)
  rw [registration, entrance, List.forall_mem_append, List.forall_mem_append, List.forall_mem_cons,
    List.forall_mem_singleton, Command.refusal?_user_iff hnick, hservice, hjoins,
    and_iff_right (Command.refusal?_nick hnick hfits)]
  simp only [Command.refusal?_message_iff]
  exact ⟨fun ⟨huser, hservice, hjoin⟩ => ⟨huser, hservice, hjoin⟩,
    fun ⟨huser, hservice, hjoin⟩ => ⟨huser, hservice, hjoin⟩⟩

end Config

/-! ### What a session sends -/

namespace Seat

variable {s : Seat}

/-- A session registers with the wanted nick, as much of it as the network allows. -/
lemma sent_register {w : Wire} (h : w.isReliable = true) (s : Seat) (now : Time) :
    (s.register ⟨[], w⟩ now).2.1.sent = Utf8.encode ((s.hub.config.registration
      (cutNick s.session.nick.configured s.hub.limits.maxNick)).flatMap frame) := by
  -- the nick is published first, and is the one that is wanted
  have hactual : (s.setState .registering).resetNick.publishNick.actual =
    cutNick s.session.nick.configured s.hub.limits.maxNick := rfl
  have hdesired : (s.setState .registering).resetNick.publishNick.desired =
    cutNick s.session.nick.configured s.hub.limits.maxNick := rfl
  have hconfig : (s.setState .registering).resetNick.publishNick.hub.config = s.hub.config := rfl
  rw [register]
  generalize (s.setState .registering).resetNick.publishNick = t at hactual hdesired hconfig ⊢
  obtain ⟨journal, w', hreliable, hnick⟩ :=
    write_of_isReliable (o := ⟨[], w⟩) h t (Command.nick t.actual) .own
  dsimp only [List.nil_append] at hnick
  obtain ⟨journal', w'', -, huser⟩ := write_of_isReliable
    (o := ⟨Utf8.encode (frame (Command.nick t.actual)), w'⟩) hreliable
    { t with hub := { t.hub with journal } }
    (Command.user t.desired userMode t.hub.config.realName) .own
  rw [hnick]
  dsimp only
  rw [show desired { t with hub := { t.hub with journal } } = t.desired from rfl, huser, hactual,
    hdesired, hconfig, Config.registration]
  simp

lemma lines_identify (s : Seat) :
    s.identify.session.outbox.lines = s.session.outbox.lines ++ (s.hub.config.nickService.map
      fun service => Command.message service.service service.message).toList := by
  rw [identify]
  cases s.hub.config.nickService with
  | none => exact (List.append_nil _).symm
  | some service => rfl

lemma lines_joinAll (s : Seat) (channels : List Text) :
    (s.joinAll channels).session.outbox.lines =
      s.session.outbox.lines ++ channels.map Command.join := by
  induction channels generalizing s with
  | nil => rw [joinAll, List.map_nil, List.append_nil]
  | cons channel channels ih =>
    rw [joinAll, ih, List.map_cons]
    show s.session.outbox.lines ++ [Command.join channel] ++ _ = _
    rw [List.append_assoc, List.singleton_append]

/-- A session that is welcome puts the lines of its configuration into its queue, and then asks
under which host others see it. -/
lemma lines_registered (s : Seat) (now : Time) (m : Message) :
    (s.registered now m).session.outbox.lines =
      s.session.outbox.lines ++ s.hub.config.entrance ++
        [Command.userHost ((m.word? 2).getD s.actual)] := by
  rw [registered]
  show ((Seat.joinAll _ _).session.outbox.lines ++ [_]) = _
  rw [lines_joinAll, lines_identify, Config.entrance, ← List.append_assoc s.session.outbox.lines]
  rfl

/-- **What a valid configuration makes a session send.**  Let a configuration be valid, and let a
session of it want the nick that the configuration gives it.  It registers with its nick, whole
unless the network has named a shorter limit, and its user; and once it is welcome it queues the
lines for the nick service and the channels.  The line for its nick is always fit to be sent.  All
of them are exactly if neither the real name nor the nick service nor a channel holds a line break,
and the real name and what the nick service is told fit in a frame. -/
theorem configured_lines (h : c.validate = .ok d) (hi : i < d.sessionCount)
    (hconfig : s.hub.config = d) (hnick : s.session.nick.configured = d.sessionNick i)
    (now : Time) (m : Message) :
    let nick := cutNick (d.sessionNick i) s.hub.limits.maxNick
    (defaultMaxNick ≤ s.hub.limits.maxNick → nick = d.sessionNick i) ∧
      (∀ w : Wire, w.isReliable = true → (s.register ⟨[], w⟩ now).2.1.sent =
        Utf8.encode ((d.registration nick).flatMap frame)) ∧
      (s.registered now m).session.outbox.lines = s.session.outbox.lines ++ d.entrance ++
        [Command.userHost ((m.word? 2).getD s.actual)] ∧
      refusal? (Command.nick nick) = none ∧
      ((∀ line ∈ d.registration nick ++ d.entrance, refusal? line = none) ↔ d.Sendable nick) := by
  intro nick
  obtain ⟨hunbroken, hfits⟩ := Config.cutNick_of_validate h hi s.hub.limits.maxNick
  refine ⟨fun hmax => ?_, ?_, ?_, Command.refusal?_nick hunbroken hfits, ?_⟩
  · exact cutNick_of_byteLength_le ((Config.byteLength_sessionNick_of_validate h hi).trans hmax)
  · intro w hw
    rw [sent_register hw, hconfig, hnick]
  · rw [lines_registered, hconfig]
  · exact Config.forall_refusal?_iff (fun _ => Config.byteLength_le_of_validate h) hunbroken hfits

/-- A session that identifies itself with a nick service: all its lines can be sent. -/
theorem configured_lines_nickService :
    let c : Config := { Config.default with nickService := some ⟨"NickServ", "IDENTIFY secret"⟩ }
    c.validate = .ok c ∧
      ∀ line ∈ c.registration "ServerBot" ++ c.entrance, refusal? line = none := by
  intro c
  have hvalid : c.validate = .ok c := rfl
  have hsendable : c.Sendable "ServerBot" :=
    ⟨by decide, by decide, by decide⟩
  have hlines := configured_lines (s := ⟨.fresh c 0 0, .fresh c⟩) (i := 0) hvalid (by decide) rfl
    rfl 0 (.ofLine [] [])
  exact ⟨hvalid, hlines.2.2.2.2.2 hsendable⟩

/-- Three valid configurations, each with a line break in another place, and a line of each that is
never sent: it does not register, does not identify itself, or does not enter its channel. -/
theorem valid_lines_refused :
    let inRealName : Config := { Config.default with realName := "a\nb" }
    let inService : Config := { Config.default with nickService := some ⟨"NickServ", "a\nb"⟩ }
    let inChannel : Config := { Config.default with channels := ["#a\nb"] }
    (inRealName.validate = .ok inRealName ∧
      ∃ line ∈ inRealName.registration "ServerBot", refusal? line = some .lineBreak) ∧
    (inService.validate = .ok inService ∧
      ∃ line ∈ inService.entrance, refusal? line = some .lineBreak) ∧
    inChannel.validate = .ok inChannel ∧
      ∃ line ∈ inChannel.entrance, refusal? line = some .lineBreak :=
  ⟨⟨rfl, by decide⟩, ⟨rfl, by decide⟩, rfl, by decide⟩

end Seat
end ChatLink
