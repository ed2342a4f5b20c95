/-
# What a session delivers

A session that hears a line tells the game of one event at most.  What was said or done in a
channel is converted to game text first; a reason for leaving is passed on as it came.
-/
import Mathlib
import ChatLink.Proofs.Format.GameText
import ChatLink.Proofs.Session.Announce
import ChatLink.Proofs.Session.Reachable

namespace ChatLink

namespace NetworkEvent

/-- What someone wrote freely: something said or done, or a reason. -/
def freeTexts : NetworkEvent → List Text
  | chat _ _ text | action _ _ text => [text]
  | left _ _ reason | kicked _ _ _ reason => reason.toList
  | joined _ _ | nickChanged _ _ => []

/-- All that was written freely is in game format. -/
def InGameFormat (on : Toggles) (e : NetworkEvent) : Prop :=
  ∀ text ∈ e.freeTexts, Format.InGameFormat on text

instance (on : Toggles) (e : NetworkEvent) : Decidable (e.InGameFormat on) :=
  inferInstanceAs (Decidable (∀ text ∈ e.freeTexts, Format.InGameFormat on text))

end NetworkEvent

/-- A line of this kind may give a reason: someone left a channel or the network. -/
def Kind.givesReason : Kind → Bool
  | part | quit | kick => true
  | _ => false

/-- If the line gives a reason, that is in game format. -/
def Message.ReasonInGameFormat (on : Toggles) (m : Message) : Prop :=
  m.kind.givesReason = true → ∀ reason ∈ m.text, Format.InGameFormat on reason

namespace Seat

variable {s s' : Seat} {m : Message} {e : NetworkEvent} {now : Time}

/-! ### What delivers nothing -/

@[simp] lemma delivered_log (s : Seat) (r : Record) : (s.log r).hub.delivered = s.hub.delivered :=
  rfl

@[simp] lemma delivered_update (s : Seat) (f : Session → Session) :
    (s.update f).hub.delivered = s.hub.delivered := rfl

@[simp] lemma delivered_push (s : Seat) (line : Text) :
    (s.push line).hub.delivered = s.hub.delivered := rfl

@[simp] lemma delivered_setState (s : Seat) (state : SessionState) :
    (s.setState state).hub.delivered = s.hub.delivered := rfl

@[simp] lemma delivered_confirmNick (s : Seat) (nick : Text) :
    (s.confirmNick nick).hub.delivered = s.hub.delivered := rfl

@[simp] lemma delivered_identify (s : Seat) : s.identify.hub.delivered = s.hub.delivered := by
  rw [identify]
  split <;> rfl

@[simp] lemma delivered_joinAll (s : Seat) (channels : List Text) :
    (s.joinAll channels).hub.delivered = s.hub.delivered := by
  induction channels generalizing s with
  | nil => rfl
  | cons channel channels ih => rw [joinAll, ih, delivered_push]

lemma delivered_registered (s : Seat) (now : Time) (m : Message) :
    (s.registered now m).hub.delivered = s.hub.delivered := by
  simp [registered]

lemma delivered_learnFeatures (s : Seat) (m : Message) :
    (s.learnFeatures m).hub.delivered = s.hub.delivered := by
  rw [learnFeatures]
  split <;> rfl

lemma delivered_learnUserHosts (s : Seat) (replies : List Text) :
    (s.learnUserHosts replies).hub.delivered = s.hub.delivered := by
  induction replies generalizing s with
  | nil => rfl
  | cons reply replies ih =>
    rw [learnUserHosts]
    split
    · exact ih _
    · exact ih s

lemma delivered_hearUserHosts (s : Seat) (m : Message) :
    (s.hearUserHosts m).hub.delivered = s.hub.delivered := by
  rw [hearUserHosts]
  split
  · exact delivered_learnUserHosts s _
  · rfl

lemma delivered_nickTaken (s : Seat) (m : Message) :
    (s.nickTaken m).hub.delivered = s.hub.delivered := by
  rw [nickTaken]
  split <;> rfl

lemma delivered_nickRefused (s : Seat) (m : Message) :
    (s.nickRefused m).1.hub.delivered = s.hub.delivered := by
  rw [nickRefused, longNickRefused]
  dsimp only
  split
  · split <;> rfl
  · split <;> rfl

/-- No numeric reply is passed to the game. -/
lemma delivered_hearReply (s : Seat) (now : Time) (code : ReplyCode) (m : Message) :
    (s.hearReply now code m).1.hub.delivered = s.hub.delivered := by
  rw [hearReply]
  split
  · exact delivered_registered s now m
  split
  · exact delivered_learnFeatures s m
  split
  · exact delivered_hearUserHosts s m
  split
  · exact delivered_nickTaken s m
  split
  · exact delivered_nickRefused s m
  split <;> rfl

/-! ### What delivers an event -/

/-- The game is told of one event more at most, and that one has the property. -/
def Adds (s s' : Seat) (p : NetworkEvent → Prop) : Prop :=
  ∃ told : Option NetworkEvent,
    s'.hub.delivered = s.hub.delivered ++ told.toList ∧ ∀ e ∈ told, p e

variable {p : NetworkEvent → Prop} {on : Toggles}

lemma adds_of_delivered (h : s'.hub.delivered = s.hub.delivered) : s.Adds s' p :=
  ⟨none, by rw [h, Option.toList_none, List.append_nil], by simp⟩

lemma adds_deliver (h : s'.hub.delivered = s.hub.delivered) (he : p e) :
    s.Adds (s'.deliver e) p :=
  ⟨some e, congrArg (· ++ [e]) h, by simpa using he⟩

/-- An event is fit for the game exactly if the reason that its line gives is. -/
def FitWith (on : Toggles) (m : Message) (e : NetworkEvent) : Prop :=
  e.InGameFormat on ↔ m.ReasonInGameFormat on

lemma fitWith_of_inGameFormat (hkind : m.kind.givesReason = false) (he : e.InGameFormat on) :
    FitWith on m e := by
  refine iff_of_true he fun h => ?_
  rw [hkind] at h
  cases h

lemma inGameFormat_of_freeTexts (he : e.freeTexts = []) : e.InGameFormat on := by
  intro text htext
  rw [he] at htext
  cases htext

/-- A reason is passed on as it came. -/
lemma fitWith_of_freeTexts (hkind : m.kind.givesReason = true)
    (he : e.freeTexts = m.text.toList) : FitWith on m e := by
  rw [FitWith, NetworkEvent.InGameFormat, Message.ReasonInGameFormat, he, hkind]
  simp

/-- What was said or done is converted before it is passed on. -/
lemma adds_passOn (s : Seat) (isAction : Bool) (hkind : m.kind.givesReason = false) :
    s.Adds (s.passOn m isAction) (FitWith s.hub.config.formatting.fromNetwork m) := by
  rw [passOn]
  split
  · split
    · dsimp only
      cases (if isAction then m.actionText? else m.text).bind (s.forwarded? isAction) with
      | none => exact adds_of_delivered rfl
      | some raw =>
        dsimp only
        split
        · exact adds_of_delivered rfl
        · refine adds_deliver rfl (fitWith_of_inGameFormat hkind ?_)
          intro text htext
          cases isAction <;>
          · rw [List.mem_singleton.1 htext]
            exact Format.inGameFormat_fromNetwork _ raw
    · exact adds_of_delivered rfl
  · exact adds_of_delivered rfl

lemma adds_userJoined (s : Seat) (hkind : m.kind.givesReason = false) :
    s.Adds (s.userJoined m) (FitWith on m) := by
  rw [userJoined]
  split
  · split
    · exact adds_of_delivered rfl
    split
    · exact adds_deliver rfl (fitWith_of_inGameFormat hkind (inGameFormat_of_freeTexts rfl))
    · exact adds_of_delivered rfl
  · exact adds_of_delivered rfl

lemma adds_userRenamed (s : Seat) (hkind : m.kind.givesReason = false) :
    s.Adds (s.userRenamed m) (FitWith on m) := by
  rw [userRenamed]
  split
  · dsimp only
    split
    · exact adds_of_delivered rfl
    split
    · exact adds_of_delivered (delivered_identify _)
    split
    · exact adds_deliver rfl (fitWith_of_inGameFormat hkind (inGameFormat_of_freeTexts rfl))
    · exact adds_of_delivered rfl
  · exact adds_of_delivered rfl

lemma adds_userParted (s : Seat) (hkind : m.kind.givesReason = true) :
    s.Adds (s.userParted m) (FitWith on m) := by
  rw [userParted]
  split
  · split
    · exact adds_deliver rfl (fitWith_of_freeTexts hkind rfl)
    · exact adds_of_delivered rfl
  · exact adds_of_delivered rfl

lemma adds_userQuit (s : Seat) (now : Time) (hkind : m.kind.givesReason = true) :
    s.Adds (s.userQuit now m) (FitWith on m) := by
  rw [userQuit]
  split
  · next nick _ =>
    dsimp only
    split
    · exact adds_deliver (delivered_reclaim s now nick) (fitWith_of_freeTexts hkind rfl)
    · exact adds_of_delivered (delivered_reclaim s now nick)
  · exact adds_of_delivered rfl

lemma adds_userKicked (s : Seat) (now : Time) (hkind : m.kind.givesReason = true) :
    s.Adds (s.userKicked now m) (FitWith on m) := by
  rw [userKicked]
  split
  · dsimp only
    split
    · exact adds_of_delivered rfl
    split
    · exact adds_deliver rfl (fitWith_of_freeTexts hkind rfl)
    · exact adds_of_delivered rfl
  · exact adds_of_delivered rfl

lemma delivered_userKilled (s : Seat) (m : Message) :
    (s.userKilled m).1.hub.delivered = s.hub.delivered := by
  rw [userKilled]
  split
  · split <;> rfl
  · rfl

/-! ### Hearing a line -/

lemma adds_hearMessage (s : Seat) (now : Time) (m : Message) :
    s.Adds (s.hearMessage now m).1 (FitWith s.hub.config.formatting.fromNetwork m) := by
  rw [hearMessage]
  split
  · exact adds_of_delivered rfl
  · exact adds_of_delivered rfl
  · exact adds_of_delivered (delivered_userKilled s m)
  · next hkind => exact adds_passOn s false (by rw [hkind]; rfl)
  · next hkind => exact adds_passOn s true (by rw [hkind]; rfl)
  · next hkind => exact adds_userJoined s (by rw [hkind]; rfl)
  · next hkind => exact adds_userParted s (by rw [hkind]; rfl)
  · next hkind => exact adds_userQuit s now (by rw [hkind]; rfl)
  · next hkind => exact adds_userKicked s now (by rw [hkind]; rfl)
  · next hkind => exact adds_userRenamed s (by rw [hkind]; rfl)
  · exact adds_of_delivered rfl

/-- **What a session delivers of a line.**  The game is told of one event at most.  All that
someone wrote freely in it is in game format, unless the line gives a reason for leaving that is
not: a reason is not converted. -/
theorem hear_delivers (s : Seat) (now : Time) (line : Text) :
    ∃ told : Option NetworkEvent,
      (s.hear now line).1.hub.delivered = s.hub.delivered ++ told.toList ∧
      ∀ e ∈ told, (e.InGameFormat s.hub.config.formatting.fromNetwork ↔
        (Message.ofLine s.actual line).ReasonInGameFormat
          s.hub.config.formatting.fromNetwork) := by
  rw [hear]
  split
  · exact adds_of_delivered (delivered_hearReply _ now _ _)
  · exact adds_hearMessage _ now _

/-- A session that has registered tells the game of a departure with a reason that the game cannot
show. -/
theorem reason_not_inGameFormat :
    let r : Run :=
      ((Run.begin (.fresh .default) 0).act 0 0 (.hear ":irc.test 001 ServerBot :Welcome")).1
    r.Reachable ∧ ∃ s, r.seat? 0 = some s ∧
      ∀ entry ∈ ([
        (":bob!b@host PART #changeme :café", .left (some "#changeme") "bob" (some "café")),
        (":bob!b@host QUIT :café", .left none "bob" (some "café")),
        (":op!o@host KICK #changeme bob :café", .kicked "#changeme" "bob" "op" (some "café"))] :
          List (String × NetworkEvent)),
        (s.hear 0 entry.1).1.hub.delivered = s.hub.delivered ++ [entry.2] ∧
        ¬ entry.2.InGameFormat s.hub.config.formatting.fromNetwork := by
  intro r
  have hreason : ∀ on, ¬ Format.InGameFormat on "café" := by
    intro on h
    have hchar : Format.IsGameChar on 'é' := h 'é' (by decide)
    simp [Format.IsGameChar, Format.isPlain, Format.isEmote] at hchar
  refine ⟨.act 0 0 (.begin (.fresh .default) 0) (by decide), _, rfl, ?_⟩
  simp only [List.forall_mem_cons]
  refine ⟨⟨by decide, fun h => ?_⟩, ⟨by decide, fun h => ?_⟩, ⟨by decide, fun h => ?_⟩, by simp⟩
  all_goals exact hreason _ (h "café" (List.mem_singleton_self _))

end Seat
end ChatLink
