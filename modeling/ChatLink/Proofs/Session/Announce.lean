/-
# What the game is told of a line

A line of traffic stands for one event at most, which depends on the configuration only.  If who
acts in it is none of ours, a session that hears the line tells the game of that event exactly if
it is responsible, and changes nothing in the roster.
-/
import Mathlib
import ChatLink.Proofs.Message.Traffic
import ChatLink.Proofs.Session.Places

namespace ChatLink

namespace Message

/-- The nick whose doings a line tells of: the one that was kicked, or else the sender's. -/
def actor? (m : Message) : Option Text :=
  match m.kind with
  | .kick => m.word? 3
  | _ => m.nick

/-- What of something said or done in a channel is passed on: all of it, or what follows a hash
sign. -/
def passed? (c : Config) (m : Message) (isAction : Bool) : Option Text :=
  (if isAction then m.actionText? else m.text).bind fun said =>
    if c.forwardFromNetwork then some said
    else if isAction then none
    else if said.head? = some '#' then some said.tail
    else none

/-- The event that something said or done in a channel makes. -/
def chat? (c : Config) (m : Message) (isAction : Bool) : Option NetworkEvent :=
  match m.nick, m.channel, m.passed? c isAction with
  | some nick, some channel, some raw =>
    let text := Format.fromNetwork c.formatting.fromNetwork raw
    if text = [] then none
    else some (if isAction then .action channel nick text else .chat channel nick text)
  | _, _, _ => none

/-- The event that a line makes. -/
def event? (c : Config) (m : Message) : Option NetworkEvent :=
  match m.kind, m.nick, m.channel with
  | .channelMessage, _, _ => m.chat? c false
  | .channelAction, _, _ => m.chat? c true
  | .join, some nick, some channel =>
    if c.announceNetworkJoins then some (.joined channel nick) else none
  | .part, some nick, some channel =>
    if c.announceNetworkJoins then some (.left (some channel) nick m.text) else none
  | .quit, some nick, _ =>
    if c.announceNetworkJoins then some (.left none nick m.text) else none
  | .kick, kicker, some channel =>
    (m.word? 3).map fun kicked => .kicked channel kicked (kicker.getD m.sender) m.text
  | .nickChange, some old, _ =>
    if Seat.newNick m = [] then none else some (.nickChanged old (Seat.newNick m))
  | _, _, _ => none

end Message

/-- A line that tells what someone else does: its actor has no nick of the roster.  The own nick
plays no part in reading such a line. -/
def Roster.Foreign (r : Roster) (line : Text) : Prop :=
  (Message.ofLine [] line).kind.isTraffic = true ∧
    ∀ nick ∈ (Message.ofLine [] line).actor?, r.isOurs nick = false

instance (r : Roster) (line : Text) : Decidable (r.Foreign line) :=
  inferInstanceAs (Decidable ((Message.ofLine [] line).kind.isTraffic = true ∧
    ∀ nick ∈ (Message.ofLine [] line).actor?, r.isOurs nick = false))

namespace Seat

variable {s : Seat} {m : Message} {nick : Text} {isAction : Bool}

/-- What a session tells the game where an event happens. -/
def told (s : Seat) (e : Option NetworkEvent) : List NetworkEvent :=
  if s.isResponsible then e.toList else []

/-! ### Foreign nicks -/

lemma not_isOwn (hp : s.Published) (h : s.hub.roster.isOurs nick = false) :
    s.session.isOwn nick = false := by
  rw [Published, Roster.nick?, Option.map_eq_some_iff] at hp
  obtain ⟨slot, hslot, hnick⟩ := hp
  rw [Roster.isOurs, List.any_eq_false] at h
  have hne := h slot (List.mem_of_getElem? hslot)
  rw [hnick, Text.sameName_comm] at hne
  exact Bool.eq_false_iff.2 hne

lemma announces_of_not_isOurs (h : s.hub.roster.isOurs nick = false) :
    s.announces nick = s.isResponsible := by
  rw [announces, h, Bool.not_false, Bool.and_true]

/-! ### What is delivered -/

lemma told_none : s.told none = [] := by
  rw [told]
  split
  · rfl
  · rfl

lemma delivered_of_told {e : NetworkEvent} :
    (if s.isResponsible = true then s.deliver e else s).hub.delivered =
      s.hub.delivered ++ s.told (some e) := by
  rw [told]
  split
  · rfl
  · rw [List.append_nil]

lemma bind_forwarded? (s : Seat) (m : Message) (isAction : Bool) :
    (if isAction then m.actionText? else m.text).bind (s.forwarded? isAction) =
      m.passed? s.hub.config isAction := by
  rw [Message.passed?]
  congr 1
  funext said
  rw [forwarded?.eq_def]
  rcases said with _ | ⟨c, rest⟩
  · rfl
  · by_cases hc : c = '#'
    · subst hc
      rfl
    · simp [hc]

lemma delivered_passOn (hforeign : ∀ nick ∈ m.nick, s.hub.roster.isOurs nick = false) :
    (s.passOn m isAction).hub.delivered =
      s.hub.delivered ++ s.told (m.chat? s.hub.config isAction) := by
  rw [passOn.eq_def, Message.chat?.eq_def]
  dsimp only
  rw [bind_forwarded?]
  cases hnick : m.nick with
  | none => simp [told_none]
  | some nick =>
    cases m.channel with
    | none => simp [told_none]
    | some channel =>
      dsimp only
      rw [announces_of_not_isOurs (hforeign nick hnick)]
      cases m.passed? s.hub.config isAction with
      | none => simp [told_none]
      | some raw =>
        dsimp only
        by_cases htext : Format.fromNetwork s.hub.config.formatting.fromNetwork raw = []
        · simp [htext, told_none]
        · rw [if_neg htext, if_neg htext]
          exact delivered_of_told

/-- An event that is wanted only where a setting asks for it. -/
lemma delivered_of_told_if {wanted : Bool} {e : NetworkEvent} :
    (if (wanted && s.isResponsible) = true then s.deliver e else s).hub.delivered =
      s.hub.delivered ++ s.told (if wanted = true then some e else none) := by
  cases wanted with
  | false => simp [told_none]
  | true =>
    rw [Bool.true_and, if_pos rfl]
    exact delivered_of_told

lemma delivered_userJoined (hp : s.Published) (hkind : m.kind = .join)
    (hforeign : ∀ nick ∈ m.nick, s.hub.roster.isOurs nick = false) :
    (s.userJoined m).hub.delivered = s.hub.delivered ++ s.told (m.event? s.hub.config) := by
  rw [userJoined.eq_def, Message.event?.eq_def, hkind]
  cases hnick : m.nick with
  | none => simp [told_none]
  | some nick =>
    cases m.channel with
    | none => simp [told_none]
    | some channel =>
      have hours := hforeign nick hnick
      dsimp only
      rw [not_isOwn hp hours, announces_of_not_isOurs hours]
      exact delivered_of_told_if

lemma delivered_userParted (hp : s.Published) (hkind : m.kind = .part)
    (hforeign : ∀ nick ∈ m.nick, s.hub.roster.isOurs nick = false) :
    (s.userParted m).hub.delivered = s.hub.delivered ++ s.told (m.event? s.hub.config) := by
  rw [userParted.eq_def, Message.event?.eq_def, hkind]
  cases hnick : m.nick with
  | none => simp [told_none]
  | some nick =>
    cases m.channel with
    | none => simp [told_none]
    | some channel =>
      have hours := hforeign nick hnick
      dsimp only
      rw [not_isOwn hp hours, announces_of_not_isOurs hours, Bool.not_false, Bool.true_and]
      exact delivered_of_told_if

lemma delivered_reclaim (s : Seat) (now : Time) (nick : Text) :
    (s.reclaim now nick).hub.delivered = s.hub.delivered := by
  rw [reclaim]
  split
  · rfl
  · rfl

lemma delivered_userQuit (now : Time) (hkind : m.kind = .quit)
    (hforeign : ∀ nick ∈ m.nick, s.hub.roster.isOurs nick = false) :
    (s.userQuit now m).hub.delivered = s.hub.delivered ++ s.told (m.event? s.hub.config) := by
  rw [userQuit.eq_def, Message.event?.eq_def, hkind]
  cases hnick : m.nick with
  | none => simp [told_none]
  | some nick =>
    -- asking for the wanted nick comes first and changes nothing that decides about telling
    have hkeep := keeps_reclaim s now nick
    have hresp : (s.reclaim now nick).isResponsible = s.isResponsible := by
      rw [isResponsible, hkeep.roster, hkeep.index, isResponsible]
    have hours : (s.reclaim now nick).hub.roster.isOurs nick = false := by
      rw [hkeep.roster, hforeign nick hnick]
    dsimp only
    rw [announces_of_not_isOurs hours, delivered_of_told_if, delivered_reclaim, hkeep.config, told,
      hresp, told]

lemma delivered_userKicked (now : Time) (hp : s.Published) (hkind : m.kind = .kick)
    (hforeign : ∀ nick ∈ m.word? 3, s.hub.roster.isOurs nick = false) :
    (s.userKicked now m).hub.delivered = s.hub.delivered ++ s.told (m.event? s.hub.config) := by
  rw [userKicked.eq_def, Message.event?.eq_def, hkind]
  cases m.channel with
  | none => simp [told_none]
  | some channel =>
    cases hkicked : m.word? 3 with
    | none => simp [told_none]
    | some kicked =>
      have hours := hforeign kicked hkicked
      dsimp only
      rw [not_isOwn hp hours, announces_of_not_isOurs hours]
      exact delivered_of_told

lemma userRenamed_foreign (hp : s.Published) (hkind : m.kind = .nickChange)
    (hforeign : ∀ nick ∈ m.nick, s.hub.roster.isOurs nick = false) :
    s.Keeps (s.userRenamed m) ∧
      (s.userRenamed m).hub.delivered = s.hub.delivered ++ s.told (m.event? s.hub.config) := by
  rw [userRenamed.eq_def, Message.event?.eq_def, hkind]
  cases hnick : m.nick with
  | none => simp [told_none, Keeps.refl]
  | some old =>
    have hours := hforeign old hnick
    dsimp only
    split
    · simp [told_none, Keeps.refl]
    · rw [not_isOwn hp hours, announces_of_not_isOurs hours]
      refine ⟨?_, delivered_of_told⟩
      split
      · next h => cases h
      split
      · exact keeps_deliver s _
      · exact .refl s

/-! ### Hearing a line -/

/-- A session keeps its place and tells the game of an event, if it is the one to do so. -/
structure Tells (s s' : Seat) (e : Option NetworkEvent) : Prop extends Keeps s s' where
  delivered : s'.hub.delivered = s.hub.delivered ++ s.told e

lemma tells_none (s : Seat) : s.Tells s none :=
  ⟨.refl s, by rw [told_none, List.append_nil]⟩

lemma hearMessage_foreign (now : Time) (hp : s.Published) (hkind : m.kind.isTraffic = true)
    (hforeign : ∀ nick ∈ m.actor?, s.hub.roster.isOurs nick = false) :
    (s.hearMessage now m).2 = none ∧
      s.Tells (s.hearMessage now m).1 (m.event? s.hub.config) := by
  have hevent : ∀ isAction, m.kind = (if isAction then .channelAction else .channelMessage) →
      m.event? s.hub.config = m.chat? s.hub.config isAction := by
    intro isAction hm
    rw [Message.event?.eq_def, hm]
    cases isAction <;> rfl
  have hnone : m.kind = .queryMessage ∨ m.kind = .queryAction ∨ m.kind = .ctcpRequest →
      m.event? s.hub.config = none := by
    rintro (hm | hm | hm) <;> rw [Message.event?.eq_def, hm]
  rw [hearMessage]
  rw [Message.actor?] at hforeign
  cases hm : m.kind with
  | channelMessage =>
    rw [hm] at hforeign
    rw [hevent false hm]
    exact ⟨rfl, keeps_passOn s m false, delivered_passOn hforeign⟩
  | channelAction =>
    rw [hm] at hforeign
    rw [hevent true hm]
    exact ⟨rfl, keeps_passOn s m true, delivered_passOn hforeign⟩
  | join =>
    rw [hm] at hforeign
    exact ⟨rfl, keeps_userJoined s m, delivered_userJoined hp hm hforeign⟩
  | part =>
    rw [hm] at hforeign
    exact ⟨rfl, keeps_userParted s m, delivered_userParted hp hm hforeign⟩
  | quit =>
    rw [hm] at hforeign
    exact ⟨rfl, keeps_userQuit s now m, delivered_userQuit now hm hforeign⟩
  | kick =>
    rw [hm] at hforeign
    exact ⟨rfl, keeps_userKicked s now m, delivered_userKicked now hp hm hforeign⟩
  | nickChange =>
    rw [hm] at hforeign
    obtain ⟨hkeep, hdelivered⟩ := userRenamed_foreign hp hm hforeign
    exact ⟨rfl, hkeep, hdelivered⟩
  | queryMessage =>
    rw [hnone (.inl hm)]
    exact ⟨rfl, tells_none s⟩
  | queryAction =>
    rw [hnone (.inr (.inl hm))]
    exact ⟨rfl, tells_none s⟩
  | ctcpRequest =>
    rw [hnone (.inr (.inr hm))]
    exact ⟨rfl, tells_none s⟩
  | _ =>
    rw [hm] at hkind
    cases hkind

/-- **A session that hears what someone else does** stays connected and where it is, and tells the
game of it exactly if it is responsible. -/
lemma hear_foreign (now : Time) {line : Text} (hp : s.Published)
    (hline : s.hub.roster.Foreign line) :
    (s.hear now line).2 = none ∧
      s.Tells (s.hear now line).1 ((Message.ofLine [] line).event? s.hub.config) := by
  have hread : Message.ofLine s.actual line = Message.ofLine [] line :=
    Message.ofLine_own s.actual hline.1
  have hcode : (Message.ofLine [] line).replyCode = none :=
    Message.replyCode_of_isTraffic hline.1
  obtain ⟨hexit, htells⟩ := hearMessage_foreign
    (s := s.log (.ofParts .debug ["[In] ", Format.strip line])) now hp hline.1 hline.2
  rw [hear, show (s.log _).actual = s.actual from rfl, hread, hcode]
  exact ⟨hexit, (keeps_log s _).trans htells.toKeeps, htells.delivered⟩

end Seat
end ChatLink
