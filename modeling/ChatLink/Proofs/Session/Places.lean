/-
# Sessions at their places

What a session can change of what all sessions share.  Most of what it does keeps its place: the
configuration, the roster and its own index and nick stay.  The rest moves its own slot only, and
leaves the nick in use published there.  From this follows what holds of every run: each session
stands at its index, and the roster knows its nick.
-/
import Mathlib
import ChatLink.Proofs.Roster.Election
import ChatLink.Proofs.Session.Writing

namespace ChatLink

namespace Seat

/-- The roster knows the session by the nick in use. -/
def Published (s : Seat) : Prop := s.hub.roster.nick? s.session.index = some s.actual

/-- A seat that differs in its nick at most from another, of what matters to the roster. -/
structure SamePlace (s s' : Seat) : Prop where
  config : s'.hub.config = s.hub.config
  roster : s'.hub.roster = s.hub.roster
  index : s'.session.index = s.session.index

/-- A seat with the same place and nick. -/
structure Keeps (s s' : Seat) : Prop extends SamePlace s s' where
  actual : s'.actual = s.actual

/-- A seat that a session reaches: it may have changed its own slot. -/
structure Moves (s s' : Seat) : Prop where
  config : s'.hub.config = s.hub.config
  index : s'.session.index = s.session.index
  length : s'.hub.roster.slots.length = s.hub.roster.slots.length
  nick_other : ∀ k, k ≠ s.session.index → s'.hub.roster.nick? k = s.hub.roster.nick? k
  state_other : ∀ k, k ≠ s.session.index → s'.hub.roster.state? k = s.hub.roster.state? k
  settled : s.hub.roster.Settled → s'.hub.roster.Settled
  published : s.Published → s'.Published

variable {s t u : Seat} {now : Time} {m : Message}

/-! ### One after the other -/

lemma Keeps.refl (s : Seat) : s.Keeps s := ⟨⟨rfl, rfl, rfl⟩, rfl⟩

lemma Keeps.trans (h : s.Keeps t) (h' : t.Keeps u) : s.Keeps u where
  config := h'.config.trans h.config
  roster := h'.roster.trans h.roster
  index := h'.index.trans h.index
  actual := h'.actual.trans h.actual

lemma Keeps.moves (h : s.Keeps t) : s.Moves t where
  config := h.config
  index := h.index
  length := by rw [h.roster]
  nick_other k _ := by rw [h.roster]
  state_other k _ := by rw [h.roster]
  settled hs := by rwa [h.roster]
  published hp := by rwa [Published, h.roster, h.index, h.actual]

lemma Moves.refl (s : Seat) : s.Moves s := (Keeps.refl s).moves

lemma Moves.trans (h : s.Moves t) (h' : t.Moves u) : s.Moves u where
  config := h'.config.trans h.config
  index := h'.index.trans h.index
  length := h'.length.trans h.length
  nick_other k hk := by
    rw [h'.nick_other k (by rwa [h.index]), h.nick_other k hk]
  state_other k hk := by
    rw [h'.state_other k (by rwa [h.index]), h.state_other k hk]
  settled hs := h'.settled (h.settled hs)
  published hp := h'.published (h.published hp)

/-- A nick that is published at once may be any. -/
lemma SamePlace.moves_publishNick (h : s.SamePlace t) : s.Moves t.publishNick where
  config := h.config
  index := h.index
  length := by
    rw [publishNick, Hub.setNick, h.roster, Roster.length_setNick]
  nick_other k hk := by
    have hne : ¬ t.session.index = k := by
      rw [h.index]
      exact Ne.symm hk
    rw [publishNick, Hub.setNick, h.roster]
    show (s.hub.roster.setNick t.session.index t.actual).nick? k = _
    rw [Roster.nick?_setNick, if_neg hne]
  state_other k _ := by
    rw [publishNick, Hub.setNick, h.roster]
    exact Roster.state?_setNick _ _ _ _
  settled hs := by
    rw [publishNick, Hub.setNick, h.roster]
    exact hs.setNick _ _
  published hp := by
    show (t.hub.roster.setNick t.session.index t.actual).nick? t.session.index = some t.actual
    rw [Published] at hp
    rw [Roster.nick?_setNick, if_pos rfl, h.roster, h.index, hp]
    rfl

lemma moves_setState (s : Seat) (state : SessionState) : s.Moves (s.setState state) where
  config := rfl
  index := rfl
  length := Roster.length_setState _ _ _
  nick_other k _ := Roster.nick?_setState _ _ _ _
  state_other k hk := by
    show (s.hub.roster.setState _ _).state? k = _
    rw [Roster.state?_setState, if_neg (Ne.symm hk)]
  settled hs := hs.setState _ _
  published hp := by
    rw [Published] at hp
    show (s.hub.roster.setState _ _).nick? s.session.index = some s.actual
    rw [Roster.nick?_setState, hp]

/-! ### Numeric replies -/

lemma keeps_log (s : Seat) (r : Record) : s.Keeps (s.log r) := ⟨⟨rfl, rfl, rfl⟩, rfl⟩

lemma keeps_logAs (s : Seat) (level : Level) (parts : List Text) :
    s.Keeps (s.logAs level parts) := ⟨⟨rfl, rfl, rfl⟩, rfl⟩

lemma keeps_push (s : Seat) (line : Text) : s.Keeps (s.push line) := ⟨⟨rfl, rfl, rfl⟩, rfl⟩

lemma keeps_deliver (s : Seat) (e : NetworkEvent) : s.Keeps (s.deliver e) :=
  ⟨⟨rfl, rfl, rfl⟩, rfl⟩

lemma keeps_update (s : Seat) {f : Session → Session} (hindex : (f s.session).index = s.session.index)
    (hactual : (f s.session).nick.actual = s.session.nick.actual) : s.Keeps (s.update f) :=
  ⟨⟨rfl, rfl, hindex⟩, hactual⟩

lemma moves_confirmNick (s : Seat) (nick : Text) : s.Moves (s.confirmNick nick) :=
  SamePlace.moves_publishNick ⟨rfl, rfl, rfl⟩

lemma keeps_identify (s : Seat) : s.Keeps s.identify := by
  rw [identify]
  split
  · exact keeps_push s _
  · exact .refl s

lemma keeps_joinAll (s : Seat) (channels : List Text) : s.Keeps (s.joinAll channels) := by
  induction channels generalizing s with
  | nil => exact .refl s
  | cons channel channels ih => exact (keeps_push s _).trans (ih _)

lemma moves_registered (s : Seat) (now : Time) (m : Message) : s.Moves (s.registered now m) := by
  -- from the last thing done back to the first
  rw [registered]
  refine Moves.trans ?_ (keeps_push _ _).moves
  refine Moves.trans ?_ (moves_setState _ _)
  refine Moves.trans ?_ (keeps_update _ rfl rfl).moves
  refine Moves.trans ?_ (keeps_joinAll _ _).moves
  refine Moves.trans ?_ (keeps_identify _).moves
  exact (moves_confirmNick s _).trans (keeps_log _ _).moves

lemma keeps_learnFeatures (s : Seat) (m : Message) : s.Keeps (s.learnFeatures m) := by
  rw [learnFeatures]
  split
  · exact ⟨⟨rfl, rfl, rfl⟩, rfl⟩
  · exact .refl s

lemma keeps_learnUserHosts (s : Seat) (replies : List Text) :
    s.Keeps (s.learnUserHosts replies) := by
  induction replies generalizing s with
  | nil => exact .refl s
  | cons reply replies ih =>
    rw [learnUserHosts]
    split
    · refine Keeps.trans ?_ (ih _)
      exact ⟨⟨rfl, rfl, rfl⟩, rfl⟩
    · exact ih s

lemma keeps_hearUserHosts (s : Seat) (m : Message) : s.Keeps (s.hearUserHosts m) := by
  rw [hearUserHosts]
  split
  · exact keeps_learnUserHosts s _
  · exact .refl s

lemma moves_nickTaken (s : Seat) (m : Message) : s.Moves (s.nickTaken m) := by
  rw [nickTaken]
  split
  · exact (keeps_logAs s _ _).moves
  · refine Moves.trans ?_ (keeps_push _ _).moves
    exact SamePlace.moves_publishNick ⟨rfl, rfl, rfl⟩

lemma moves_longNickRefused (s : Seat) (rejected : Text) :
    s.Moves (s.longNickRefused rejected) := by
  rw [longNickRefused]
  dsimp only
  split
  · exact Keeps.moves ⟨⟨rfl, rfl, rfl⟩, rfl⟩
  · refine Moves.trans ?_ (keeps_push _ _).moves
    exact SamePlace.moves_publishNick ⟨rfl, rfl, rfl⟩

lemma moves_nickRefused (s : Seat) (m : Message) : s.Moves (s.nickRefused m).1 := by
  rw [nickRefused]
  split
  · exact moves_longNickRefused s _
  split
  · exact (keeps_logAs s _ _).moves
  · exact (keeps_log s _).moves

lemma moves_hearReply (s : Seat) (now : Time) (code : ReplyCode) (m : Message) :
    s.Moves (s.hearReply now code m).1 := by
  rw [hearReply]
  split
  · exact moves_registered s now m
  split
  · exact (keeps_learnFeatures s m).moves
  split
  · exact (keeps_hearUserHosts s m).moves
  split
  · exact moves_nickTaken s m
  split
  · exact moves_nickRefused s m
  split
  · exact (keeps_logAs s _ _).moves
  · exact .refl s

/-! ### Traffic -/

lemma keeps_passOn (s : Seat) (m : Message) (isAction : Bool) : s.Keeps (s.passOn m isAction) := by
  rw [passOn]
  split
  · split
    · dsimp only
      cases (if isAction then m.actionText? else m.text).bind (s.forwarded? isAction) with
      | none => exact .refl s
      | some raw =>
        dsimp only
        split
        · exact .refl s
        · exact keeps_deliver s _
    · exact .refl s
  · exact .refl s

lemma keeps_userJoined (s : Seat) (m : Message) : s.Keeps (s.userJoined m) := by
  rw [userJoined]
  split
  · split
    · exact keeps_log s _
    split
    · exact keeps_deliver s _
    · exact .refl s
  · exact .refl s

lemma keeps_userParted (s : Seat) (m : Message) : s.Keeps (s.userParted m) := by
  rw [userParted]
  split
  · split
    · exact keeps_deliver s _
    · exact .refl s
  · exact .refl s

lemma keeps_reclaim (s : Seat) (now : Time) (nick : Text) : s.Keeps (s.reclaim now nick) := by
  rw [reclaim]
  split
  · exact ⟨⟨rfl, rfl, rfl⟩, rfl⟩
  · exact .refl s

lemma keeps_userQuit (s : Seat) (now : Time) (m : Message) : s.Keeps (s.userQuit now m) := by
  rw [userQuit]
  split
  · dsimp only
    split
    · exact (keeps_reclaim s now _).trans (keeps_deliver _ _)
    · exact keeps_reclaim s now _
  · exact .refl s

lemma keeps_userKicked (s : Seat) (now : Time) (m : Message) : s.Keeps (s.userKicked now m) := by
  rw [userKicked]
  split
  · dsimp only
    split
    · exact ⟨⟨rfl, rfl, rfl⟩, rfl⟩
    split
    · exact keeps_deliver s _
    · exact .refl s
  · exact .refl s

lemma moves_userRenamed (s : Seat) (m : Message) : s.Moves (s.userRenamed m) := by
  rw [userRenamed]
  split
  · dsimp only
    split
    · exact .refl s
    split
    · refine Moves.trans ?_ (keeps_identify _).moves
      refine Moves.trans ?_ (moves_confirmNick _ _)
      exact (keeps_log s _).moves
    split
    · exact (keeps_deliver s _).moves
    · exact .refl s
  · exact .refl s

lemma keeps_userKilled (s : Seat) (m : Message) : s.Keeps (s.userKilled m).1 := by
  rw [userKilled]
  split
  · split
    · exact keeps_logAs s _ _
    · exact .refl s
  · exact .refl s

lemma moves_hearMessage (s : Seat) (now : Time) (m : Message) : s.Moves (s.hearMessage now m).1 := by
  rw [hearMessage]
  split
  · exact (keeps_push s _).moves
  · exact (keeps_logAs s _ _).moves
  · exact (keeps_userKilled s m).moves
  · exact (keeps_passOn s m false).moves
  · exact (keeps_passOn s m true).moves
  · exact (keeps_userJoined s m).moves
  · exact (keeps_userParted s m).moves
  · exact (keeps_userQuit s now m).moves
  · exact (keeps_userKicked s now m).moves
  · exact moves_userRenamed s m
  · exact .refl s

lemma moves_hear (s : Seat) (now : Time) (line : Text) : s.Moves (s.hear now line).1 := by
  rw [hear]
  refine (keeps_log s (.ofParts .debug ["[In] ", Format.strip line])).moves.trans ?_
  split
  · exact moves_hearReply _ now _ _
  · exact moves_hearMessage _ now _

/-! ### Sending -/

lemma moves_register (s : Seat) (o : Outlet) (now : Time) : s.Moves (s.register o now).1 := by
  have hpublish : s.Moves (s.setState .registering).resetNick.publishNick :=
    (moves_setState s _).trans (SamePlace.moves_publishNick ⟨rfl, rfl, rfl⟩)
  obtain ⟨journal, limiter, -, h⟩ := s.register_eq o now
  rw [h]
  exact hpublish.trans (Keeps.moves ⟨⟨rfl, rfl, rfl⟩, rfl⟩)

lemma keeps_flushLines (s : Seat) (o : Outlet) (lines : List Text) :
    s.Keeps (s.flushLines o lines).1 := by
  obtain ⟨journal, rest, -, h⟩ := s.flushLines_eq o lines
  rw [h]
  exact ⟨⟨rfl, rfl, rfl⟩, rfl⟩

lemma keeps_askAgain (s : Seat) (now : Time) : s.Keeps (s.askAgain now) := by
  rw [askAgain]
  split
  · exact ⟨⟨rfl, rfl, rfl⟩, rfl⟩
  · exact .refl s

lemma keeps_drop (s : Seat) (origin : Origin) : s.Keeps (s.drop origin) := by
  cases origin with
  | own => exact ⟨⟨rfl, rfl, rfl⟩, rfl⟩
  | shared => exact ⟨⟨rfl, rfl, rfl⟩, rfl⟩

lemma keeps_sendOne (s : Seat) (o : Outlet) (now : Time) : s.Keeps (s.sendOne o now).1 := by
  cases hdue : s.due? now with
  | none =>
    rw [sendOne_eq_of_not_due hdue]
    dsimp only
    split
    · exact keeps_askAgain s now
    · exact .refl s
  | some due =>
    obtain ⟨journal, h⟩ := sendOne_eq_of_due hdue o
    rw [h]
    exact (keeps_drop s due.1).trans ⟨⟨rfl, rfl, rfl⟩, rfl⟩

lemma keeps_rejoinAll (s : Seat) (due : List (Time × Text)) : s.Keeps (s.rejoinAll due) := by
  induction due generalizing s with
  | nil => exact .refl s
  | cons entry rest ih =>
    rw [rejoinAll]
    refine Keeps.trans ?_ (ih _)
    exact (keeps_logAs s _ _).trans (keeps_push _ _)

lemma keeps_rejoinDue (s : Seat) (now : Time) : s.Keeps (s.rejoinDue now) := by
  rw [rejoinDue]
  refine Keeps.trans ?_ (keeps_rejoinAll _ _)
  exact ⟨⟨rfl, rfl, rfl⟩, rfl⟩

/-- Whatever a session does, it moves its own slot only and leaves its nick published; but going
back to the wanted nick by itself publishes nothing. -/
lemma moves_perform (s : Seat) (now : Time) {d : Deed} (h : d ≠ .resetNick) :
    s.Moves (s.perform now d).1 := by
  cases d with
  | register wire =>
    rw [perform_register]
    exact moves_register s ⟨[], wire⟩ now
  | hear line => exact moves_hear s now line
  | send wire =>
    rw [perform_send]
    exact (keeps_sendOne s ⟨[], wire⟩ now).moves
  | flush wire =>
    rw [perform_flush]
    exact (keeps_flushLines s ⟨[], wire⟩ _).moves
  | rejoin => exact (keeps_rejoinDue s now).moves
  | resetNick => exact absurd rfl h
  | disconnect => exact Keeps.moves ⟨⟨rfl, rfl, rfl⟩, rfl⟩
  | report state => exact moves_setState s state

end Seat
end ChatLink
