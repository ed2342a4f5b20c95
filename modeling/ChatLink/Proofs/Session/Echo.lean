/-
# Our own lines come back

The network sends what is said and every change of nicks to all sessions, and each session reads at
its own pace.  A line is taken for one of ours if the roster knows the sender's nick; but the roster
holds the nick that each session has at *its* place in what the network sends.  So the game is told
of a line of our own exactly if the responsible session hears it at a moment when no session stands
under the nick that it was sent from.
-/
import Mathlib
import ChatLink.Proofs.Session.Delivered
import ChatLink.Proofs.Session.Interleaving

namespace ChatLink

/-- Something said or done in a channel. -/
def Kind.isChat : Kind → Bool
  | channelMessage | channelAction => true
  | _ => false

/-- Chat or a change of nicks. -/
def Kind.isChatOrNick (k : Kind) : Bool := k.isChat || k == .nickChange

lemma Kind.isTraffic_of_isChatOrNick {k : Kind} (h : k.isChatOrNick = true) :
    k.isTraffic = true := by
  revert h
  cases k <;> decide

namespace Message

variable {m : Message} {nick : Text}

/-- The message comes from someone with this nick. -/
def isFrom (m : Message) (nick : Text) : Bool := m.nick.any fun sender => Text.sameName sender nick

/-- The nick that someone has after a message: the new one if it tells that they change nicks. -/
def nickAfter (m : Message) (nick : Text) : Text :=
  if m.kind = .nickChange ∧ m.isFrom nick = true ∧ Seat.newNick m ≠ [] then Seat.newNick m
  else nick

lemma nickAfter_of_isChat (nick : Text) (h : m.kind.isChat = true) : m.nickAfter nick = nick := by
  rw [nickAfter]
  refine if_neg fun hchange => ?_
  rw [hchange.1] at h
  cases h

lemma nickAfter_of_not_isFrom (h : m.isFrom nick = false) : m.nickAfter nick = nick := by
  rw [nickAfter]
  refine if_neg fun hchange => ?_
  rw [hchange.2.1] at h
  cases h

lemma actor?_of_isChatOrNick (h : m.kind.isChatOrNick = true) : m.actor? = m.nick := by
  rw [actor?]
  split
  · next hkick =>
    rw [hkick] at h
    cases h
  · rfl

end Message

/-! ### One session -/

namespace Seat

variable {s t : Seat} {m : Message} {nick : Text} {now : Time} {line : Text}

lemma announces_of_isOurs (h : s.hub.roster.isOurs nick = true) : s.announces nick = false := by
  rw [announces, h, Bool.not_true, Bool.and_false]

/-- The event that a message makes for a roster: none if the sender is one of ours. -/
def foreignEvent? (s : Seat) (m : Message) : Option NetworkEvent :=
  if m.nick.any s.hub.roster.isOurs then none else m.event? s.hub.config

/-- What a session knows after a message that tells of chat or of a change of nicks, and what it
tells the game. -/
structure Follows (s : Seat) (m : Message) (t : Seat) : Prop where
  actual : t.actual = m.nickAfter s.actual
  responsible : ∀ k, t.hub.roster.isResponsible k = s.hub.roster.isResponsible k
  delivered : t.hub.delivered = s.hub.delivered ++ s.told (s.foreignEvent? m)

lemma foreignEvent?_of_forall (h : ∀ nick ∈ m.nick, s.hub.roster.isOurs nick = false) :
    s.foreignEvent? m = m.event? s.hub.config := by
  rw [foreignEvent?, if_neg]
  rw [Option.any_eq_true]
  rintro ⟨nick, hnick, hours⟩
  rw [h nick hnick] at hours
  cases hours

lemma foreignEvent?_of_isOurs (hnick : m.nick = some nick)
    (h : s.hub.roster.isOurs nick = true) : s.foreignEvent? m = none := by
  rw [foreignEvent?, hnick, Option.any_some, if_pos h]

/-- Nobody whom the roster does not know has the nick in use. -/
lemma not_isFrom_actual (hp : s.Published)
    (h : ∀ nick ∈ m.nick, s.hub.roster.isOurs nick = false) : m.isFrom s.actual = false := by
  rw [Message.isFrom]
  cases hnick : m.nick with
  | none => rfl
  | some sender => exact not_isOwn hp (h sender hnick)

/-- Where one of ours acts, only the nick in use has to follow. -/
lemma follows_of_isOurs (hnick : m.nick = some nick) (h : s.hub.roster.isOurs nick = true)
    (hactual : t.actual = m.nickAfter s.actual)
    (hresp : ∀ k, t.hub.roster.isResponsible k = s.hub.roster.isResponsible k)
    (hdelivered : t.hub.delivered = s.hub.delivered) : s.Follows m t where
  actual := hactual
  responsible := hresp
  delivered := by rw [hdelivered, foreignEvent?_of_isOurs hnick h, told_none, List.append_nil]

lemma follows_passOn (hnick : m.nick = some nick) (h : s.hub.roster.isOurs nick = true)
    (hchat : m.kind.isChat = true) (isAction : Bool) : s.Follows m (s.passOn m isAction) := by
  have hpass : s.passOn m isAction = s := by
    rw [passOn.eq_def, hnick]
    cases m.channel with
    | none => rfl
    | some channel =>
      dsimp only
      rw [announces_of_isOurs h]
      rfl
  rw [hpass]
  exact follows_of_isOurs hnick h (m.nickAfter_of_isChat _ hchat).symm (fun _ => rfl) rfl

lemma follows_userRenamed (hnick : m.nick = some nick) (h : s.hub.roster.isOurs nick = true)
    (hkind : m.kind = .nickChange) : s.Follows m (s.userRenamed m) := by
  have hown : m.isFrom s.actual = s.session.isOwn nick := by
    rw [Message.isFrom, hnick]
    rfl
  rw [userRenamed, hnick]
  dsimp only
  split
  · -- a change to no nick at all is passed over
    next hnew =>
    refine follows_of_isOurs hnick h ?_ (fun _ => rfl) rfl
    rw [Message.nickAfter, if_neg]
    exact fun hchange => hchange.2.2 hnew
  split
  · -- the session's own change moves its nick
    next hnew hisOwn =>
    have hkeep := keeps_identify
      ((s.log (.tagged .info nick ["now known as ", newNick m])).confirmNick (newNick m))
    refine follows_of_isOurs hnick h ?_ (fun k => ?_) (delivered_identify _)
    · rw [hkeep.actual, Message.nickAfter, if_pos ⟨hkind, hown.trans hisOwn, hnew⟩]
      rfl
    · rw [hkeep.roster]
      exact Roster.isResponsible_setNick _ _ _ _
  · -- and that of another session of ours is not told
    next hnew hisOwn =>
    rw [announces_of_isOurs h, if_neg Bool.false_ne_true]
    have hnot : m.isFrom s.actual = false := hown.trans (Bool.eq_false_iff.2 hisOwn)
    exact follows_of_isOurs hnick h (Message.nickAfter_of_not_isFrom hnot).symm (fun _ => rfl) rfl

/-- One of ours says something or changes nicks. -/
lemma follows_hearMessage (now : Time) (hnick : m.nick = some nick)
    (h : s.hub.roster.isOurs nick = true) (hkind : m.kind.isChatOrNick = true) :
    s.Follows m (s.hearMessage now m).1 := by
  rw [hearMessage]
  cases hk : m.kind with
  | channelMessage => exact follows_passOn hnick h (by rw [hk]; rfl) false
  | channelAction => exact follows_passOn hnick h (by rw [hk]; rfl) true
  | nickChange => exact follows_userRenamed hnick h hk
  | _ =>
    rw [hk] at hkind
    cases hkind

/-- Chat or a change of nicks is followed, whoever it comes from. -/
lemma follows_hear (now : Time) (hp : s.Published)
    (hkind : (Message.ofLine [] line).kind.isChatOrNick = true) :
    s.Follows (Message.ofLine [] line) (s.hear now line).1 := by
  have htraffic := Kind.isTraffic_of_isChatOrNick hkind
  by_cases hforeign : ∀ nick ∈ (Message.ofLine [] line).nick, s.hub.roster.isOurs nick = false
  · have htells := (hear_foreign now hp
      ⟨htraffic, by rwa [Message.actor?_of_isChatOrNick hkind]⟩).2
    refine ⟨?_, fun k => ?_, ?_⟩
    · rw [htells.actual, Message.nickAfter_of_not_isFrom (not_isFrom_actual hp hforeign)]
    · rw [htells.roster]
    · rw [htells.delivered, foreignEvent?_of_forall hforeign]
  · push Not at hforeign
    obtain ⟨nick, hnick, h⟩ := hforeign
    rw [Bool.ne_false_iff] at h
    -- the record of the line decides about nothing
    obtain ⟨hactual, hresp, hdelivered⟩ := follows_hearMessage
      (s := s.log (.ofParts .debug ["[In] ", Format.strip line])) now hnick h hkind
    rw [hear, show (s.log _).actual = s.actual from rfl, Message.ofLine_own s.actual htraffic,
      Message.replyCode_of_isTraffic htraffic]
    exact ⟨hactual, hresp, hdelivered⟩

end Seat

namespace Run

variable {r : Run} {stream : List Text} {line : Text} {i k : Nat}

/-! ### One call -/

/-- A call that tells of chat or of a change of nicks moves the nick of the session that hears it
only, and tells the game of it if that session is responsible and the roster does not know the
sender. -/
structure Follows (r : Run) (call : Call) (r' : Run) : Prop where
  seated : r'.Seated
  config : r'.hub.config = r.hub.config
  responsible : ∀ k, r'.hub.roster.isResponsible k = r.hub.roster.isResponsible k
  actual : ∀ i, r'.actual? i =
    if i = call.session then (r.actual? i).map (Message.ofLine [] call.line).nickAfter
    else r.actual? i
  delivered : r'.hub.delivered = r.hub.delivered ++
    if r.hub.roster.isResponsible call.session = true ∧
        (Message.ofLine [] call.line).nick.any r.hub.roster.isOurs = false then
      (r.hub.config.eventOf? call.line).toList
    else []

lemma follows_hearOne (h : r.Seated) (call : Call)
    (hkind : (Message.ofLine [] call.line).kind.isChatOrNick = true) :
    r.Follows call (r.hearOne call) := by
  have hseated : (r.hearOne call).Seated := h.act call.session call.now (by simp)
  rw [hearOne, act] at hseated ⊢
  cases hs : r.seat? call.session with
  | none =>
    -- nobody hears it
    have hnot : ¬ r.hub.roster.isResponsible call.session = true := fun hresp =>
      absurd (h.lt_of_isResponsible hresp) (not_lt.2 (seat?_eq_none_iff.1 hs))
    refine ⟨h, rfl, fun _ => rfl, fun i => ?_, ?_⟩
    · show r.actual? i = _
      split
      · next hi =>
        rw [hi, actual?, List.getElem?_eq_none (seat?_eq_none_iff.1 hs)]
        rfl
      · rfl
    · rw [if_neg fun hresp => hnot hresp.1, List.append_nil]
  | some s =>
    rw [hs] at hseated
    obtain ⟨hsession, hhub⟩ := seat?_eq_some_iff.1 hs
    have hfollows : s.Follows (Message.ofLine [] call.line) (s.hear call.now call.line).1 :=
      Seat.follows_hear call.now (h.published hs) hkind
    have hmoves := Seat.moves_hear s call.now call.line
    refine ⟨hseated, ?_, fun k => ?_, fun i => ?_, ?_⟩
    · show (s.hear call.now call.line).1.hub.config = _
      rw [hmoves.config, hhub]
    · show (s.hear call.now call.line).1.hub.roster.isResponsible k = _
      rw [hfollows.responsible, hhub]
    · show ((r.sessions.set call.session (s.hear call.now call.line).1.session)[i]?).map _ = _
      rw [List.getElem?_set]
      split
      · next hi =>
        subst hi
        rw [if_pos (List.getElem?_eq_some_iff.1 hsession).1, if_pos rfl, actual?, hsession]
        exact congrArg some hfollows.actual
      · next hi =>
        rw [if_neg (Ne.symm hi)]
        rfl
    · show (s.hear call.now call.line).1.hub.delivered = _
      rw [hfollows.delivered, Seat.told, Seat.isResponsible, Seat.foreignEvent?,
        h.index_of_seat? hs, hhub]
      by_cases hresp : r.hub.roster.isResponsible call.session = true
      · by_cases hours : (Message.ofLine [] call.line).nick.any r.hub.roster.isOurs = true
        · simp [hresp, hours]
        · simp [hresp, hours, Config.eventOf?]
      · simp [hresp]

end Run

/-! ### All sessions -/

/-- A session takes the next line of what the network sends. -/
structure Turn where
  session : Nat
  now : Time
deriving DecidableEq, Repr

/-- A run whose sessions read the same stream of lines, each from its own place. -/
structure Feed where
  run : Run
  /-- How many lines each session has behind it. -/
  place : Nat → Nat

namespace Run

variable {r : Run} {stream : List Text} {f : Feed} {t : Turn} {line : Text} {i k : Nat}

/-- The nick that a session has on the network after the first `k` lines of a stream. -/
def nickAt (r : Run) (stream : List Text) (i k : Nat) : Option Text :=
  (r.actual? i).map fun nick =>
    (stream.take k).foldl (fun nick line => (Message.ofLine [] line).nickAfter nick) nick

/-- The sessions stand under their nicks, each at its place in a stream, and the line comes from
one of these nicks. -/
def isKnown (r : Run) (stream : List Text) (place : Nat → Nat) (line : Text) : Bool :=
  (List.range r.sessions.length).any fun i =>
    (r.nickAt stream i (place i)).any (Message.ofLine [] line).isFrom

/-- The line is one that a session at a place in a stream has said itself.  The network does not
send it back. -/
def isSpared (r : Run) (stream : List Text) (i k : Nat) (line : Text) : Bool :=
  (Message.ofLine [] line).kind.isChat &&
    (r.nickAt stream i k).any (Message.ofLine [] line).isFrom

/-- A session hears the next line, unless that is spared it. -/
def turn (r : Run) (stream : List Text) (f : Feed) (t : Turn) : Feed :=
  match stream[f.place t.session]? with
  | none => f
  | some line =>
    { run :=
        if r.isSpared stream t.session (f.place t.session) line then f.run
        else f.run.hearOne ⟨t.session, t.now, line⟩
      place := Function.update f.place t.session (f.place t.session + 1) }

/-- The sessions start at the beginning of a stream and take their turns. -/
def feed (r : Run) (stream : List Text) (turns : List Turn) : Feed :=
  turns.foldl (r.turn stream) ⟨r, fun _ => 0⟩

lemma isKnown_iff {place : Nat → Nat} :
    r.isKnown stream place line = true ↔
      ∃ i, ∃ nick ∈ r.nickAt stream i (place i), (Message.ofLine [] line).isFrom nick = true := by
  rw [isKnown, List.any_eq_true]
  constructor
  · rintro ⟨i, -, h⟩
    exact ⟨i, Option.any_eq_true .. |>.1 h⟩
  · rintro ⟨i, nick, hnick, h⟩
    refine ⟨i, ?_, Option.any_eq_true .. |>.2 ⟨nick, hnick, h⟩⟩
    obtain ⟨own, hown, -⟩ := Option.map_eq_some_iff.1 hnick
    obtain ⟨session, hsession, -⟩ := Option.map_eq_some_iff.1 hown
    exact List.mem_range.2 (List.getElem?_eq_some_iff.1 hsession).1

lemma nickAt_succ (h : stream[k]? = some line) :
    r.nickAt stream i (k + 1) =
      (r.nickAt stream i k).map (Message.ofLine [] line).nickAfter := by
  rw [nickAt, nickAt, List.take_add_one, h, Option.map_map]
  congr 1
  funext nick
  rw [List.foldl_append]
  rfl

/-- What holds between two turns: every session stands under the nick of its place. -/
structure Tracks (r : Run) (stream : List Text) (f : Feed) : Prop where
  seated : f.run.Seated
  config : f.run.hub.config = r.hub.config
  responsible : ∀ k, f.run.hub.roster.isResponsible k = r.hub.roster.isResponsible k
  actual : ∀ i, f.run.actual? i = r.nickAt stream i (f.place i)

lemma tracks_start (h : r.Seated) : r.Tracks stream ⟨r, fun _ => 0⟩ where
  seated := h
  config := rfl
  responsible _ := rfl
  actual i := by
    rw [nickAt, List.take_zero]
    exact Option.map_id'.symm

/-- The roster knows the sender of a line if a session stands under that nick at its place. -/
lemma Tracks.any_isOurs (h : r.Tracks stream f) (line : Text) :
    (Message.ofLine [] line).nick.any f.run.hub.roster.isOurs = r.isKnown stream f.place line := by
  rw [Bool.eq_iff_iff, isKnown_iff, Option.any_eq_true]
  constructor
  · rintro ⟨nick, hnick, hours⟩
    obtain ⟨i, own, hown, hsame⟩ := h.seated.isOurs_iff.1 hours
    rw [h.actual] at hown
    exact ⟨i, own, hown, by rw [Message.isFrom, Option.any_eq_true]; exact ⟨nick, hnick, hsame⟩⟩
  · rintro ⟨i, own, hown, hfrom⟩
    rw [Message.isFrom, Option.any_eq_true] at hfrom
    obtain ⟨nick, hnick, hsame⟩ := hfrom
    rw [← h.actual] at hown
    exact ⟨nick, hnick, h.seated.isOurs_iff.2 ⟨i, own, hown, hsame⟩⟩

/-- One turn of a session. -/
lemma Tracks.turn (h : r.Tracks stream f) (t : Turn)
    (hline : stream[f.place t.session]? = some line)
    (hkind : (Message.ofLine [] line).kind.isChatOrNick = true) :
    r.Tracks stream (r.turn stream f t) ∧
      (r.turn stream f t).run.hub.delivered = f.run.hub.delivered ++
        if r.hub.roster.isResponsible t.session = true ∧ r.isKnown stream f.place line = false then
          (r.hub.config.eventOf? line).toList
        else [] := by
  rw [Run.turn, hline]
  dsimp only
  have hnick : ∀ {run : Run}, (∀ i, run.actual? i =
      if i = t.session then (f.run.actual? i).map (Message.ofLine [] line).nickAfter
      else f.run.actual? i) →
      ∀ i, run.actual? i = r.nickAt stream i
        (Function.update f.place t.session (f.place t.session + 1) i) := by
    intro run hactual i
    rw [hactual, h.actual]
    split
    · next hi =>
      rw [hi, Function.update_self, nickAt_succ hline]
    · next hi => rw [Function.update_of_ne hi]
  split
  · -- a line that the session said itself leaves its nick alone, and the roster knows it
    next hspared =>
    rw [isSpared, Bool.and_eq_true] at hspared
    have hknown : r.isKnown stream f.place line = true :=
      isKnown_iff.2 ⟨t.session, Option.any_eq_true .. |>.1 hspared.2⟩
    refine ⟨⟨h.seated, h.config, h.responsible, hnick fun i => ?_⟩, ?_⟩
    · split
      · cases f.run.actual? i with
        | none => rfl
        | some nick => rw [Option.map_some, Message.nickAfter_of_isChat nick hspared.1]
      · rfl
    · rw [hknown, if_neg (by simp), List.append_nil]
  · have hfollows := follows_hearOne h.seated ⟨t.session, t.now, line⟩ hkind
    refine ⟨⟨hfollows.seated, hfollows.config.trans h.config,
      fun k => (hfollows.responsible k).trans (h.responsible k), hnick hfollows.actual⟩, ?_⟩
    rw [hfollows.delivered, h.any_isOurs, h.responsible, h.config]

lemma feed_concat (turns : List Turn) (t : Turn) :
    r.feed stream (turns ++ [t]) = r.turn stream (r.feed stream turns) t :=
  List.foldl_concat _ _ _ _

lemma tracks_feed (h : r.Seated)
    (hstream : ∀ line ∈ stream, (Message.ofLine [] line).kind.isChatOrNick = true)
    (turns : List Turn) : r.Tracks stream (r.feed stream turns) := by
  induction turns using List.reverseRecOn with
  | nil => exact tracks_start h
  | append_singleton turns t ih =>
    rw [feed_concat]
    cases hline : stream[(r.feed stream turns).place t.session]? with
    | none =>
      rw [Run.turn, hline]
      exact ih
    | some line => exact (ih.turn t hline (hstream line (List.mem_of_getElem? hline))).1

/-- **When the game is told of a line of our own.**  A run that can come about is fed a stream of
chat and changes of nicks, which each session reads from its own place; what a session said itself
it is spared.  In every order of the turns, the game is told of a line exactly if the responsible
session hears it while no session, at its own place in the stream, stands under the sender's nick.
So nothing of ours is told as long as the session that it comes from stands, at its own place,
under the nick that it has at the place of the line. -/
theorem delivered_feed (hr : r.Reachable)
    (hstream : ∀ line ∈ stream, (Message.ofLine [] line).kind.isChatOrNick = true)
    (turns : List Turn) (t : Turn) :
    let before := r.feed stream turns
    let after := r.feed stream (turns ++ [t])
    ∀ line ∈ stream[before.place t.session]?,
      after.run.hub.delivered = before.run.hub.delivered ++
        (if r.hub.roster.isResponsible t.session = true ∧
            r.isKnown stream before.place line = false then
          (r.hub.config.eventOf? line).toList
        else []) ∧
      ∀ j, (r.nickAt stream j (before.place t.session)).any (Message.ofLine [] line).isFrom = true →
        r.nickAt stream j (before.place j) = r.nickAt stream j (before.place t.session) →
        after.run.hub.delivered = before.run.hub.delivered := by
  intro before after line hline
  have htracks : r.Tracks stream before := tracks_feed hr.seated hstream turns
  have hdelivered := (htracks.turn t hline (hstream line (List.mem_of_getElem? hline))).2
  rw [← feed_concat] at hdelivered
  refine ⟨hdelivered, fun j hfrom hstands => ?_⟩
  -- the session that the line comes from is one under whose nick somebody stands
  have hknown : r.isKnown stream before.place line = true := by
    rw [← hstands, Option.any_eq_true] at hfrom
    exact isKnown_iff.2 ⟨j, hfrom⟩
  rw [hknown] at hdelivered
  simpa using hdelivered

/-- The responsible session keeps up with the other one, which says something: nothing is told. -/
theorem delivered_feed_in_step :
    let config : Config := { Config.default with sessionCount := 2 }
    let r : Run := (((begin (.fresh config) 0).act 0 0
      (.hear ":irc.test 001 ServerBot :Welcome")).1.act 1 0
      (.hear ":irc.test 001 ServerBot2 :Welcome")).1
    let stream : List Text :=
      [":ServerBot2!bot@host PRIVMSG #changeme :hi", ":ServerBot2!bot@host NICK :Relay"]
    r.Reachable ∧ (∀ line ∈ stream, (Message.ofLine [] line).kind.isChatOrNick = true) ∧
      (r.feed stream [⟨0, 1⟩]).run.hub.delivered = r.hub.delivered := by
  intro config r stream
  have hr : r.Reachable := .act 1 0 (.act 0 0 (.begin (.fresh config) 0) (by decide)) (by decide)
  have hstream : ∀ line ∈ stream, (Message.ofLine [] line).kind.isChatOrNick = true := by decide
  exact ⟨hr, hstream, (delivered_feed hr hstream [] ⟨0, 1⟩ _ rfl).2 1 (by decide) rfl⟩

/-- The second session says something under its nick and changes nicks.  It hears both at once,
and the responsible one afterwards: the game is told both. -/
theorem own_lines_delivered :
    let config : Config := { Config.default with sessionCount := 2 }
    let r : Run := (((begin (.fresh config) 0).act 0 0
      (.hear ":irc.test 001 ServerBot :Welcome")).1.act 1 0
      (.hear ":irc.test 001 ServerBot2 :Welcome")).1
    let stream : List Text :=
      [":ServerBot2!bot@host PRIVMSG #changeme :hi", ":ServerBot2!bot@host NICK :Relay"]
    r.Reachable ∧ (∀ i < r.sessions.length, r.hub.roster.state? i = some .ready) ∧
      (∀ k, ∀ line ∈ stream[k]?,
        (r.nickAt stream 1 k).any (Message.ofLine [] line).isFrom = true) ∧
      r.hub.delivered = [] ∧
      (r.feed stream [⟨1, 1⟩, ⟨1, 2⟩, ⟨0, 3⟩, ⟨0, 4⟩]).run.hub.delivered =
        [.chat "#changeme" "ServerBot2" "hi", .nickChanged "ServerBot2" "Relay"] := by
  intro config r stream
  have hr : r.Reachable := .act 1 0 (.act 0 0 (.begin (.fresh config) 0) (by decide)) (by decide)
  have hours : ∀ k, ∀ line ∈ stream[k]?,
      (r.nickAt stream 1 k).any (Message.ofLine [] line).isFrom = true := by
    rintro (_ | _ | k) line hline
    · obtain rfl := Option.some.inj hline
      decide
    · obtain rfl := Option.some.inj hline
      decide
    · cases hline
  exact ⟨hr, by decide, hours, by decide, by decide +kernel⟩

end Run
end ChatLink
