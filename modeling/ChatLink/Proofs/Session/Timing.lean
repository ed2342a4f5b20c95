/-
# The times that a session keeps

A session keeps two kinds of times: when it last had a reason to want its nick back, and from when
on it is to enter which channels again.  A line changes the first if it makes the session welcome, or
tells that the holder of the wanted nick is gone, and adds to the others if it puts the session out
of a channel.  Of what a session does unasked only an idle request for its nick, the call to enter
channels again, and the loss of the connection change any of them.  Main statement: `timing_perform`.
-/
import Mathlib
import ChatLink.Proofs.Session.Standing

namespace ChatLink

/-- The times that a session keeps. -/
structure Timing where
  /-- When the session last had a reason to want its nick back. -/
  lastNickRetry : Time
  /-- The channels to enter again, each with the moment from which to do so. -/
  rejoins : List (Time × Text)
deriving DecidableEq

/-- A line after which a session waits again before it asks for its nick: it is welcome, or the
holder of the nick that it wants is gone. -/
def Standing.marks (st : Standing) (m : Message) : Bool :=
  match m.replyCode with
  | some code => code = .welcome
  | none => m.kind = .quit && m.nick.any fun nick => st.wants && Text.sameName nick st.nick.desired

namespace Seat

variable {s : Seat} {now : Time} {m : Message} {line : Text}

def timing (s : Seat) : Timing := ⟨s.session.lastNickRetry, s.session.rejoins⟩

/-- The channel that a line puts the session out of. -/
def kickedFrom? (s : Seat) (m : Message) : Option Text :=
  match m.replyCode, m.kind, m.channel, m.word? 3 with
  | none, .kick, some channel, some kicked => if s.session.isOwn kicked then some channel else none
  | _, _, _, _ => none

/-- That channel with the moment from which the session enters it again. -/
def banished? (s : Seat) (now : Time) (m : Message) : Option (Time × Text) :=
  (s.kickedFrom? m).map fun channel => (now + s.hub.config.reconnectDelay, channel)

/-- The times that a session keeps after a line. -/
def timingAfter (s : Seat) (now : Time) (m : Message) : Timing where
  lastNickRetry := if s.standing.marks m then now else s.session.lastNickRetry
  rejoins := s.session.rejoins ++ (s.banished? now m).toList

/-! ### Numeric replies -/

lemma timing_identify (s : Seat) : s.identify.timing = s.timing := by
  fun_cases identify s <;> rfl

lemma timing_joinAll (s : Seat) (channels : List Text) :
    (s.joinAll channels).timing = s.timing := by
  fun_induction joinAll s channels with
  | case1 => rfl
  | case2 s channel channels ih => exact ih

lemma timing_learnUserHosts (s : Seat) (replies : List Text) :
    (s.learnUserHosts replies).timing = s.timing := by
  fun_induction learnUserHosts s replies with
  | case1 => rfl
  | case2 s reply replies userHost _ _ _ ih => exact ih
  | case3 s reply replies _ ih => exact ih

lemma timing_registered (s : Seat) (now : Time) (m : Message) :
    (s.registered now m).timing = ⟨now, s.session.rejoins⟩ := by
  have hrejoins : ∀ t : Seat, ∀ channels, (t.identify.joinAll channels).session.rejoins =
      t.session.rejoins := fun t channels =>
    congrArg Timing.rejoins ((timing_joinAll _ _).trans (timing_identify t))
  exact congrArg (Timing.mk now) (hrejoins _ _)

lemma timing_learnFeatures (s : Seat) (m : Message) : (s.learnFeatures m).timing = s.timing := by
  fun_cases learnFeatures s m <;> rfl

lemma timing_hearUserHosts (s : Seat) (m : Message) : (s.hearUserHosts m).timing = s.timing := by
  fun_cases hearUserHosts s m with
  | case1 => exact timing_learnUserHosts s _
  | case2 => rfl

lemma timing_nickTaken (s : Seat) (m : Message) : (s.nickTaken m).timing = s.timing := by
  fun_cases nickTaken s m <;> rfl

lemma timing_longNickRefused (s : Seat) (rejected : Text) :
    (s.longNickRefused rejected).timing = s.timing := by
  fun_cases longNickRefused s rejected <;> rfl

lemma timing_nickRefused (s : Seat) (m : Message) : (s.nickRefused m).1.timing = s.timing := by
  fun_cases nickRefused s m with
  | case1 => exact timing_longNickRefused s _
  | case2 => rfl
  | case3 => rfl

lemma timing_hearReply (s : Seat) (now : Time) (code : ReplyCode) (m : Message) :
    (s.hearReply now code m).1.timing =
      if code = .welcome then ⟨now, s.session.rejoins⟩ else s.timing := by
  by_cases hwelcome : code = .welcome
  · rw [if_pos hwelcome, hearReply, if_pos hwelcome]
    exact timing_registered s now m
  rw [if_neg hwelcome]
  fun_cases hearReply s now code m with
  | case1 => contradiction
  | case2 => exact timing_learnFeatures s m
  | case3 => exact timing_hearUserHosts s m
  | case4 => exact timing_nickTaken s m
  | case5 => exact timing_nickRefused s m
  | case6 => rfl
  | case7 => rfl

/-! ### Traffic -/

lemma timing_passOn (s : Seat) (m : Message) (isAction : Bool) :
    (s.passOn m isAction).timing = s.timing := by
  fun_cases passOn s m isAction <;> rfl

lemma timing_userJoined (s : Seat) (m : Message) : (s.userJoined m).timing = s.timing := by
  fun_cases userJoined s m <;> rfl

lemma timing_userParted (s : Seat) (m : Message) : (s.userParted m).timing = s.timing := by
  fun_cases userParted s m <;> rfl

lemma timing_userRenamed (s : Seat) (m : Message) : (s.userRenamed m).timing = s.timing := by
  fun_cases userRenamed s m with
  | case2 => exact timing_identify _
  | _ => rfl

lemma timing_userKilled (s : Seat) (m : Message) : (s.userKilled m).1.timing = s.timing := by
  fun_cases userKilled s m <;> rfl

lemma timing_reclaim (s : Seat) (now : Time) (nick : Text) :
    (s.reclaim now nick).timing =
      if s.standing.wants && Text.sameName nick s.standing.nick.desired then
        ⟨now, s.session.rejoins⟩
      else s.timing :=
  apply_ite timing _ _ _

lemma timing_userQuit (s : Seat) (now : Time) (m : Message) :
    (s.userQuit now m).timing =
      if m.nick.any fun nick => s.standing.wants && Text.sameName nick s.standing.nick.desired then
        ⟨now, s.session.rejoins⟩
      else s.timing := by
  rw [userQuit]
  cases m.nick with
  | none => rfl
  | some nick =>
    rw [Option.any_some, ← timing_reclaim]
    dsimp only
    split <;> rfl

lemma timing_userKicked (s : Seat) (now : Time) (hreply : m.replyCode = none)
    (hkind : m.kind = .kick) :
    (s.userKicked now m).timing =
      ⟨s.session.lastNickRetry, s.session.rejoins ++ (s.banished? now m).toList⟩ := by
  rw [userKicked, banished?, kickedFrom?, hreply, hkind]
  cases m.channel with
  | none => exact congrArg (Timing.mk _) (List.append_nil _).symm
  | some channel =>
    cases m.word? 3 with
    | none => exact congrArg (Timing.mk _) (List.append_nil _).symm
    | some kicked =>
      dsimp only
      split
      · rfl
      · refine Eq.trans ?_ (congrArg (Timing.mk _) (List.append_nil _).symm)
        split <;> rfl

/-! ### Lines -/

lemma kickedFrom?_of_ne (s : Seat) (h : m.kind ≠ .kick) : s.kickedFrom? m = none := by
  fun_cases kickedFrom? s m with
  | case1 | case2 => contradiction
  | case3 => rfl

lemma kickedFrom?_of_replyCode {code : ReplyCode} (s : Seat) (h : m.replyCode = some code) :
    s.kickedFrom? m = none := by
  rw [kickedFrom?, h]

/-- Other lines than these change nothing. -/
lemma timingAfter_of_ne (s : Seat) (now : Time) (hreply : m.replyCode = none)
    (hquit : m.kind ≠ .quit) (hkick : m.kind ≠ .kick) : s.timingAfter now m = s.timing := by
  rw [timingAfter, Standing.marks, banished?, kickedFrom?_of_ne s hkick, hreply]
  simp [hquit, timing]

lemma timing_hearMessage (s : Seat) (now : Time) (hreply : m.replyCode = none) :
    (s.hearMessage now m).1.timing = s.timingAfter now m := by
  by_cases hquit : m.kind = .quit
  · have hkick : m.kind ≠ .kick := by rw [hquit]; decide
    rw [hearMessage, hquit]
    dsimp only
    rw [timing_userQuit, timingAfter, Standing.marks, banished?, kickedFrom?_of_ne s hkick, hreply,
      hquit]
    cases m.nick.any fun nick => s.standing.wants && Text.sameName nick s.standing.nick.desired with
    | true => simp
    | false => simp [timing]
  by_cases hkick : m.kind = .kick
  · rw [hearMessage, hkick]
    dsimp only
    rw [timing_userKicked s now hreply hkick, timingAfter, Standing.marks, hreply, hkick]
    rfl
  rw [timingAfter_of_ne s now hreply hquit hkick]
  fun_cases hearMessage s now m with
  | case1 | case2 | case11 => rfl
  | case3 => exact timing_userKilled s m
  | case4 => exact timing_passOn s m false
  | case5 => exact timing_passOn s m true
  | case6 => exact timing_userJoined s m
  | case7 => exact timing_userParted s m
  | case8 => contradiction
  | case9 => contradiction
  | case10 => exact timing_userRenamed s m

/-- What a line does to the times that a session keeps. -/
lemma timing_hear (s : Seat) (now : Time) (line : Text) :
    (s.hear now line).1.timing = s.timingAfter now (Message.ofLine s.actual line) := by
  -- the record of the line changes none of them
  let t := s.log (.ofParts .debug ["[In] ", Format.strip line])
  show (match (Message.ofLine s.actual line).replyCode with
    | some code => t.hearReply now code (Message.ofLine s.actual line)
    | none => t.hearMessage now (Message.ofLine s.actual line)).1.timing =
      t.timingAfter now (Message.ofLine s.actual line)
  generalize Message.ofLine s.actual line = m
  cases hreply : m.replyCode with
  | none => exact timing_hearMessage t now hreply
  | some code =>
    dsimp only
    rw [timing_hearReply, timingAfter, Standing.marks, banished?, kickedFrom?_of_replyCode t hreply,
      hreply]
    split <;> simp_all [timing]

/-! ### Unasked -/

lemma timing_rejoinAll (s : Seat) (due : List (Time × Text)) :
    (s.rejoinAll due).timing = s.timing := by
  fun_induction rejoinAll s due with
  | case1 => rfl
  | case2 s _ channel rest ih => exact ih

lemma lines_rejoinAll (s : Seat) (due : List (Time × Text)) :
    (s.rejoinAll due).session.outbox.lines =
      s.session.outbox.lines ++ due.map fun entry => Command.join entry.2 := by
  fun_induction rejoinAll s due with
  | case1 => exact (List.append_nil _).symm
  | case2 s _ channel rest ih =>
    rw [ih]
    show s.session.outbox.lines ++ [Command.join channel] ++ _ = _
    rw [List.append_assoc]
    rfl

/-- The call to enter channels again takes those whose time has come, in their order. -/
lemma rejoinDue_spec (s : Seat) (now : Time) :
    (s.rejoinDue now).timing =
        ⟨s.session.lastNickRetry, s.session.rejoins.filter fun entry => now < entry.1⟩ ∧
      (s.rejoinDue now).session.outbox.lines = s.session.outbox.lines ++
        (s.session.rejoins.filter fun entry => entry.1 ≤ now).map fun entry =>
          Command.join entry.2 := by
  rw [rejoinDue, timing_rejoinAll, lines_rejoinAll]
  refine ⟨congrArg (Timing.mk _) (List.filter_congr fun entry _ => ?_), rfl⟩
  rw [← decide_not, decide_eq_decide, Nat.not_le]

/-! ### Idle sessions -/

/-- A session that is asked to send asks for its nick instead: it is registered under another one,
nothing waits, the limiter would let a line through, and it has not asked for a while. -/
def idles (s : Seat) (now : Time) : Bool :=
  s.standing.wants && s.session.limiter.ready now && s.session.outbox.lines.isEmpty &&
    s.hub.queue.lines.isEmpty && s.hub.config.nickRetryDelay ≤ elapsed s.session.lastNickRetry now

/-- The session asks for its nick. -/
def ask (s : Seat) (now : Time) : Seat :=
  (s.update fun session => { session with lastNickRetry := now }).push (Command.nick s.desired)

lemma sendOne_of_idles (h : s.idles now = true) (o : Outlet) :
    s.sendOne o now = (s.ask now, o, .ok false) := by
  simp only [idles, Bool.and_eq_true, List.isEmpty_iff] at h
  obtain ⟨⟨⟨⟨hwants, hlimiter⟩, houtbox⟩, hqueue⟩, hdelay⟩ := h
  have hready : s.session.ready = true := by
    rw [Standing.wants, Bool.and_eq_true] at hwants
    exact hwants.1
  have hdue : s.due? now = none := by
    rw [due?, if_pos hlimiter, houtbox]
    dsimp only
    rw [if_pos hready, hqueue]
    rfl
  rw [sendOne_eq_of_not_due hdue, if_pos hlimiter, askAgain, if_pos]
  · rfl
  · rw [Bool.and_eq_true]
    exact ⟨hwants, hdelay⟩

/-- A registered session that may send has nothing to send only if nothing waits. -/
lemma isEmpty_of_not_due (hdue : s.due? now = none) (hlimiter : s.session.limiter.ready now = true)
    (hready : s.session.ready = true) :
    s.session.outbox.lines.isEmpty = true ∧ s.hub.queue.lines.isEmpty = true := by
  rw [due?, if_pos hlimiter] at hdue
  split at hdue
  · cases hdue
  · next houtbox =>
    rw [if_pos hready, Option.map_eq_none_iff, List.head?_eq_none_iff] at hdue
    rw [houtbox, hdue]
    exact ⟨rfl, rfl⟩

/-- A session that does not ask for its nick takes the line that is due, or does nothing. -/
lemma sendOne_of_not_idles (h : s.idles now = false) (o : Outlet) :
    (∃ origin line, s.due? now = some (origin, line)) ∨ s.sendOne o now = (s, o, .ok false) := by
  cases hdue : s.due? now with
  | some due => exact .inl ⟨due.1, due.2, rfl⟩
  | none =>
    right
    rw [sendOne_eq_of_not_due hdue]
    split
    · next hlimiter =>
      rw [askAgain, if_neg]
      intro hask
      rw [Bool.and_eq_true, Bool.and_eq_true] at hask
      obtain ⟨⟨hready, hother⟩, hdelay⟩ := hask
      obtain ⟨houtbox, hqueue⟩ := isEmpty_of_not_due hdue hlimiter hready
      have hwants : s.standing.wants = true := by
        rw [Standing.wants, Bool.and_eq_true]
        exact ⟨hready, hother⟩
      rw [idles, hwants, hlimiter, houtbox, hqueue, hdelay] at h
      cases h
    · rfl

lemma timing_sendOne (s : Seat) (o : Outlet) (now : Time) :
    (s.sendOne o now).1.timing = if s.idles now then ⟨now, s.session.rejoins⟩ else s.timing := by
  by_cases hidles : s.idles now = true
  · rw [sendOne_of_idles hidles, if_pos hidles]
    rfl
  · rw [if_neg hidles]
    rcases sendOne_of_not_idles (Bool.eq_false_iff.2 hidles) o with ⟨origin, line, hdue⟩ | hnothing
    · obtain ⟨journal, hsend⟩ := sendOne_eq_of_due hdue o
      rw [hsend]
      cases origin <;> rfl
    · rw [hnothing]

/-- **What a session does to the times that it keeps.** -/
lemma timing_perform (s : Seat) (now : Time) (d : Deed) :
    (s.perform now d).1.timing = match d with
      | .hear line => s.timingAfter now (Message.ofLine s.actual line)
      | .send _ => if s.idles now then ⟨now, s.session.rejoins⟩ else s.timing
      | .rejoin =>
        ⟨s.session.lastNickRetry, s.session.rejoins.filter fun entry => now < entry.1⟩
      | .disconnect => ⟨s.session.lastNickRetry, []⟩
      | _ => s.timing := by
  cases d with
  | register wire =>
    obtain ⟨journal, limiter, -, h⟩ := s.register_eq ⟨[], wire⟩ now
    rw [perform_register, h]
    rfl
  | hear line => exact timing_hear s now line
  | send wire =>
    rw [perform_send]
    exact timing_sendOne s _ now
  | flush wire =>
    obtain ⟨journal, rest, -, h⟩ := s.flushLines_eq ⟨[], wire⟩ s.session.outbox.lines
    rw [perform_flush, h]
    rfl
  | rejoin => exact (s.rejoinDue_spec now).1
  | resetNick => rfl
  | disconnect => rfl
  | report state => rfl

end Seat
end ChatLink
