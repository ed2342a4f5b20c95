/-
# What a session does besides sending

Whatever a session hears, it acts by a few operations only: it records, puts commands into its own
queue, tells the game of events, publishes its nick, learns limits, changes what it keeps for
itself, and becomes ready when it is welcome.  The same holds of all it does unasked, so that a
property that these operations keep is kept by all of it.  None of them takes a line from a queue,
and the commands are few: no line by which the session would leave the network is among them.
-/
import Mathlib
import ChatLink.Session.Run

namespace ChatLink

/-- The commands of a connection that goes on. -/
inductive Command.IsOngoing : Text → Prop where
  | nick (name : Text) : IsOngoing (Command.nick name)
  | join (channel : Text) : IsOngoing (Command.join channel)
  | message (target text : Text) : IsOngoing (Command.message target text)
  | pong (token : Text) : IsOngoing (Command.pong token)
  | userHost (name : Text) : IsOngoing (Command.userHost name)

/-- None of them leaves the network. -/
lemma Command.IsOngoing.isQuit_eq_false {line : Text} (h : IsOngoing line) :
    isQuit line = false := by
  cases h <;> rfl

namespace Seat

/-- The session is registered: it is ready from now on, and says so. -/
def welcome (s : Seat) (now : Time) : Seat :=
  (s.update fun session => { session with ready := true, lastNickRetry := now }).setState .ready

/-- One seat comes from another by operations that take no line from a queue and leave the limiter
alone. -/
inductive Acts (s : Seat) : Seat → Prop where
  | refl : Acts s s
  | log {t : Seat} (h : Acts s t) (r : Record) : Acts s (t.log r)
  | push {t : Seat} (h : Acts s t) {line : Text} (ongoing : Command.IsOngoing line) :
      Acts s (t.push line)
  | deliver {t : Seat} (h : Acts s t) (e : NetworkEvent) : Acts s (t.deliver e)
  | publishNick {t : Seat} (h : Acts s t) : Acts s t.publishNick
  | learn {t : Seat} (h : Acts s t) (limits : Limits) :
      Acts s { t with hub := { t.hub with limits } }
  | welcome {t : Seat} (h : Acts s t) (now : Time) : Acts s (t.welcome now)
  | update {t : Seat} (h : Acts s t) {f : Session → Session}
      (index : ∀ session, (f session).index = session.index)
      (outbox : ∀ session, (f session).outbox = session.outbox)
      (limiter : ∀ session, (f session).limiter = session.limiter)
      (ready : ∀ session, (f session).ready = session.ready) : Acts s (t.update f)

namespace Acts

variable {s t : Seat} {now : Time} {m : Message}

/-- The lines that all sessions share stay. -/
lemma queue_eq (h : s.Acts t) : t.hub.queue = s.hub.queue := by
  induction h with
  | refl => rfl
  | log _ _ ih | push _ _ ih | deliver _ _ ih | publishNick _ ih | learn _ _ ih | welcome _ _ ih
  | update _ _ _ _ _ ih => exact ih

lemma limiter_eq (h : s.Acts t) : t.session.limiter = s.session.limiter := by
  induction h with
  | refl => rfl
  | log _ _ ih | push _ _ ih | deliver _ _ ih | publishNick _ ih | learn _ _ ih | welcome _ _ ih =>
    exact ih
  | update _ _ _ limiter _ ih => exact (limiter _).trans ih

/-- What a session puts into its own queue comes behind the lines that wait there, and is commands
of a connection that goes on. -/
lemma outbox_eq (h : s.Acts t) : ∃ lines, (∀ line ∈ lines, Command.IsOngoing line) ∧
    t.session.outbox.lines = s.session.outbox.lines ++ lines := by
  induction h with
  | refl => exact ⟨[], by simp, by simp⟩
  | log _ _ ih | deliver _ _ ih | publishNick _ ih | learn _ _ ih | welcome _ _ ih => exact ih
  | push _ ongoing ih =>
    obtain ⟨lines, hlines, heq⟩ := ih
    refine ⟨lines ++ [_], List.forall_mem_append.2 ⟨hlines, by simpa using ongoing⟩, ?_⟩
    rw [← List.append_assoc, ← heq]
    rfl
  | @update t _ f _ outbox _ _ ih =>
    obtain ⟨lines, hlines, heq⟩ := ih
    exact ⟨lines, hlines, by rw [← heq]; exact congrArg Queue.lines (outbox t.session)⟩

/-- What is left for a session to change is its nick, when it last asked for the wanted one, and the
channels to enter again. -/
lemma change (h : s.Acts t) {nick : Session → NickSearch} {lastNickRetry : Session → Time}
    {rejoins : Session → List (Time × Text)} :
    s.Acts (t.update fun session => { session with
      nick := nick session
      lastNickRetry := lastNickRetry session
      rejoins := rejoins session }) :=
  h.update (fun _ => rfl) (fun _ => rfl) (fun _ => rfl) (fun _ => rfl)

/-! ### Numeric replies -/

lemma logAs (h : s.Acts t) (level : Level) (parts : List Text) : s.Acts (t.logAs level parts) :=
  h.log _

lemma confirmNick (h : s.Acts t) (nick : Text) : s.Acts (t.confirmNick nick) :=
  h.change.publishNick

lemma identify (h : s.Acts t) : s.Acts t.identify := by
  rw [Seat.identify]
  split
  · exact h.push (.message _ _)
  · exact h

lemma joinAll (h : s.Acts t) (channels : List Text) : s.Acts (t.joinAll channels) := by
  induction channels generalizing t with
  | nil => exact h
  | cons channel channels ih => exact ih (h.push (.join channel))

lemma registered (h : s.Acts t) (now : Time) (m : Message) : s.Acts (t.registered now m) := by
  rw [Seat.registered]
  exact ((((h.confirmNick _).log _).identify.joinAll _).welcome now).push (.userHost _)

lemma learnFeatures (h : s.Acts t) (m : Message) : s.Acts (t.learnFeatures m) := by
  rw [Seat.learnFeatures]
  split
  · exact (h.learn _).log _
  · exact h

lemma learnUserHosts (h : s.Acts t) (replies : List Text) : s.Acts (t.learnUserHosts replies) := by
  induction replies generalizing t with
  | nil => exact h
  | cons reply replies ih =>
    rw [Seat.learnUserHosts]
    split
    · exact ih ((h.learn _).logAs _ _)
    · exact ih h

lemma hearUserHosts (h : s.Acts t) (m : Message) : s.Acts (t.hearUserHosts m) := by
  rw [Seat.hearUserHosts]
  split
  · exact h.learnUserHosts _
  · exact h

lemma nickTaken (h : s.Acts t) (m : Message) : s.Acts (t.nickTaken m) := by
  rw [Seat.nickTaken]
  split
  · exact h.logAs _ _
  · exact (h.change.log _).publishNick.push (.nick _)

lemma longNickRefused (h : s.Acts t) (rejected : Text) : s.Acts (t.longNickRefused rejected) := by
  rw [Seat.longNickRefused]
  dsimp only
  split
  · exact (h.learn _).change.logAs _ _
  · exact ((h.learn _).change.log _).publishNick.push (.nick _)

lemma nickRefused (h : s.Acts t) (m : Message) : s.Acts (t.nickRefused m).1 := by
  rw [Seat.nickRefused]
  split
  · exact h.longNickRefused _
  split
  · exact h.logAs _ _
  · exact h.log _

lemma hearReply (h : s.Acts t) (now : Time) (code : ReplyCode) (m : Message) :
    s.Acts (t.hearReply now code m).1 := by
  rw [Seat.hearReply]
  split
  · exact h.registered now m
  split
  · exact h.learnFeatures m
  split
  · exact h.hearUserHosts m
  split
  · exact h.nickTaken m
  split
  · exact h.nickRefused m
  split
  · exact h.logAs _ _
  · exact h

/-! ### Traffic -/

lemma passOn (h : s.Acts t) (m : Message) (isAction : Bool) : s.Acts (t.passOn m isAction) := by
  rw [Seat.passOn]
  split
  · split
    · dsimp only
      cases (if isAction then m.actionText? else m.text).bind (t.forwarded? isAction) with
      | none => exact h
      | some raw =>
        dsimp only
        split
        · exact h
        · exact h.deliver _
    · exact h
  · exact h

lemma userJoined (h : s.Acts t) (m : Message) : s.Acts (t.userJoined m) := by
  rw [Seat.userJoined]
  split
  · split
    · exact h.log _
    split
    · exact h.deliver _
    · exact h
  · exact h

lemma userParted (h : s.Acts t) (m : Message) : s.Acts (t.userParted m) := by
  rw [Seat.userParted]
  split
  · split
    · exact h.deliver _
    · exact h
  · exact h

lemma reclaim (h : s.Acts t) (now : Time) (nick : Text) : s.Acts (t.reclaim now nick) := by
  rw [Seat.reclaim]
  split
  · exact (h.logAs _ _).change.push (.nick _)
  · exact h

lemma userQuit (h : s.Acts t) (now : Time) (m : Message) : s.Acts (t.userQuit now m) := by
  rw [Seat.userQuit]
  split
  · dsimp only
    split
    · exact (h.reclaim now _).deliver _
    · exact h.reclaim now _
  · exact h

lemma userKicked (h : s.Acts t) (now : Time) (m : Message) : s.Acts (t.userKicked now m) := by
  rw [Seat.userKicked]
  split
  · dsimp only
    split
    · exact (h.logAs _ _).change
    split
    · exact h.deliver _
    · exact h
  · exact h

lemma userRenamed (h : s.Acts t) (m : Message) : s.Acts (t.userRenamed m) := by
  rw [Seat.userRenamed]
  split
  · dsimp only
    split
    · exact h
    split
    · exact ((h.log _).confirmNick _).identify
    split
    · exact h.deliver _
    · exact h
  · exact h

lemma userKilled (h : s.Acts t) (m : Message) : s.Acts (t.userKilled m).1 := by
  rw [Seat.userKilled]
  split
  · split
    · exact h.logAs _ _
    · exact h
  · exact h

lemma hearMessage (h : s.Acts t) (now : Time) (m : Message) : s.Acts (t.hearMessage now m).1 := by
  rw [Seat.hearMessage]
  split
  · exact h.push (.pong _)
  · exact h.logAs _ _
  · exact h.userKilled m
  · exact h.passOn m false
  · exact h.passOn m true
  · exact h.userJoined m
  · exact h.userParted m
  · exact h.userQuit now m
  · exact h.userKicked now m
  · exact h.userRenamed m
  · exact h

/-- Hearing a line is such an operation, whatever the line. -/
lemma hear (h : s.Acts t) (now : Time) (line : Text) : s.Acts (t.hear now line).1 := by
  rw [Seat.hear]
  split
  · exact (h.log _).hearReply now _ _
  · exact (h.log _).hearMessage now _

/-! ### Unasked -/

lemma askAgain (h : s.Acts t) (now : Time) : s.Acts (t.askAgain now) := by
  rw [Seat.askAgain]
  split
  · exact h.change.push (.nick _)
  · exact h

lemma rejoinAll (h : s.Acts t) (due : List (Time × Text)) : s.Acts (t.rejoinAll due) := by
  induction due generalizing t with
  | nil => exact h
  | cons entry rest ih => exact ih ((h.logAs _ _).push (.join _))

lemma rejoinDue (h : s.Acts t) (now : Time) : s.Acts (t.rejoinDue now) :=
  h.change.rejoinAll _

end Acts
end Seat
end ChatLink
