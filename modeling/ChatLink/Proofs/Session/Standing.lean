/-
# How a session stands with the network

Of all that a session keeps, its search for a nick, whether it is registered, and the longest nick
learned decide which nicks it asks for.  They change by few lines only, and only some of these make
the session ask for a nick.  This file says so by a function on the three alone, and shows that it
is what a session does: whatever else a session does on a line, it puts no line into its queue that
asks for a nick.
-/
import Mathlib
import ChatLink.Proofs.Session.Sending

namespace ChatLink

namespace Command

/-- The nick that a line asks for. -/
def askedNick? (line : Text) : Option Text := List.isPrefixOf? ("NICK " : Text) line

variable {line x : Text}

@[simp] lemma askedNick?_nick (x : Text) : askedNick? (nick x) = some x := rfl

@[simp] lemma askedNick?_join (channel : Text) : askedNick? (join channel) = none := rfl

@[simp] lemma askedNick?_message (target text : Text) :
    askedNick? (message target text) = none := rfl

@[simp] lemma askedNick?_pong (token : Text) : askedNick? (pong token) = none := rfl

@[simp] lemma askedNick?_userHost (name : Text) : askedNick? (userHost name) = none := rfl

end Command

/-- What decides which nicks a session asks for. -/
structure Standing where
  nick : NickSearch
  /-- Registration is complete. -/
  ready : Bool
  /-- The greatest number of bytes of a nick, as far as it was learned. -/
  maxNick : Nat

namespace Standing

/-- The session asks for the nick it wants, if it is registered under another one. -/
def wants (st : Standing) : Bool := st.ready && !st.nick.hasDesired

/-- A numeric reply, and the nicks that the session asks for on it. -/
def hearReply (st : Standing) (code : ReplyCode) (m : Message) : Standing × List Text :=
  let rejected := (m.word? 3).getD []
  if code = .welcome then
    ({ st with nick := st.nick.confirm ((m.word? 2).getD st.nick.actual), ready := true }, [])
  else if code = .features then
    match Seat.advertisedNickLen? m.line with
    | some len => ({ st with maxNick := max len minMaxNick }, [])
    | none => (st, [])
  else if code.isNickConflict then
    match st.nick.afterRefusal ((m.word? 2).getD ['*']) rejected st.maxNick with
    | (_, .keep) => (st, [])
    | (nick, .ask next) => ({ st with nick }, [next])
  else if code = .erroneousNick then
    if minMaxNick < rejected.byteLength then
      let maxNick := max (rejected.byteLength - 1) minMaxNick
      if st.ready then ({ st with maxNick, nick := st.nick.fit maxNick }, [])
      else ({ st with maxNick, nick := st.nick.reset maxNick }, [(st.nick.reset maxNick).actual])
    else (st, [])
  else (st, [])

/-- Someone leaves the network.  If it is the holder of the nick wanted, the session asks for it. -/
def hearQuit (st : Standing) (nick : Text) : List Text :=
  if st.wants && Text.sameName nick st.nick.desired then [st.nick.desired] else []

/-- Someone changes nicks.  If it is the session itself, its search is over. -/
def hearRename (st : Standing) (m : Message) : Standing :=
  if Seat.newNick m ≠ [] ∧ m.nick.any (Text.sameName · st.nick.actual) = true then
    { st with nick := st.nick.confirm (Seat.newNick m) }
  else st

/-- A line, and the nicks that the session asks for on it. -/
def hear (st : Standing) (m : Message) : Standing × List Text :=
  match m.replyCode with
  | some code => st.hearReply code m
  | none =>
    match m.kind with
    | .quit => (st, m.nick.elim [] st.hearQuit)
    | .nickChange => (st.hearRename m, [])
    | _ => (st, [])

/-- A deed of the session. -/
def perform (st : Standing) : Deed → Standing
  | .register _ => { st with nick := st.nick.reset st.maxNick }
  | .hear line => (st.hear (Message.ofLine st.nick.actual line)).1
  | .resetNick => { st with nick := st.nick.reset st.maxNick }
  | .disconnect => { st with ready := false }
  | _ => st

/-! ### Replies about nicks -/

variable {st : Standing} {m : Message} {code : ReplyCode} {current rejected : Text}

lemma hear_of_replyCode (h : m.replyCode = some code) : st.hear m = st.hearReply code m := by
  rw [hear, h]

/-- On a taken nick the session goes on as its search tells. -/
lemma hear_conflict (hreply : m.replyCode = some code) (hcode : code.isNickConflict = true)
    (hcurrent : m.word? 2 = some current) (hrejected : m.word? 3 = some rejected) :
    st.hear m = match st.nick.afterRefusal current rejected st.maxNick with
      | (_, .keep) => (st, [])
      | (nick, .ask next) => ({ st with nick }, [next]) := by
  have hother : code ≠ .welcome ∧ code ≠ .features := by
    refine ⟨?_, ?_⟩ <;> rintro rfl <;> cases hcode
  rw [hear_of_replyCode hreply, hearReply, if_neg hother.1, if_neg hother.2, if_pos hcode, hcurrent,
    hrejected]
  rfl

end Standing

namespace Seat

variable {s t u : Seat} {now : Time} {m : Message} {line : Text} {nicks more : List Text}
  {result : Standing × List Text} {st : Standing}

/-- How the session of a seat stands with the network. -/
def standing (s : Seat) : Standing := ⟨s.session.nick, s.session.ready, s.hub.limits.maxNick⟩

/-- Lines are put into the session's own queue behind those that wait, and they ask for these
nicks. -/
def Puts (s : Seat) (nicks : List Text) (t : Seat) : Prop :=
  ∃ lines, t.session.outbox.lines = s.session.outbox.lines ++ lines ∧
    lines.filterMap Command.askedNick? = nicks

/-- The session stands in this way, and has asked for these nicks. -/
structure Stands (s : Seat) (result : Standing × List Text) (t : Seat) : Prop where
  standing : t.standing = result.1
  puts : s.Puts result.2 t

/-- The session stands as it did, and has asked for no nick. -/
def Rests (s t : Seat) : Prop := s.Stands (s.standing, []) t

lemma Puts.of_eq (h : t.session.outbox = s.session.outbox) : s.Puts [] t :=
  ⟨[], by rw [h, List.append_nil], rfl⟩

lemma Puts.trans (h : s.Puts nicks t) (h' : t.Puts more u) : s.Puts (nicks ++ more) u := by
  obtain ⟨lines, hlines, rfl⟩ := h
  obtain ⟨lines', hlines', rfl⟩ := h'
  exact ⟨lines ++ lines', by rw [hlines', hlines, List.append_assoc], List.filterMap_append⟩

/-- Lines that ask for no nick may come in front. -/
lemma Puts.after (h : t.Puts nicks u) (h' : s.Puts [] t) : s.Puts nicks u := h'.trans h

/-- Lines that ask for no nick may come behind. -/
lemma Puts.andThen (h : s.Puts nicks t) (h' : t.Puts [] u) : s.Puts nicks u := by
  have htrans := h.trans h'
  rwa [List.append_nil] at htrans

lemma Rests.refl (s : Seat) : s.Rests s := ⟨rfl, .of_eq rfl⟩

lemma Stands.andThen (h : s.Stands result t) (h' : t.Rests u) : s.Stands result u :=
  ⟨h'.standing.trans h.standing, h.puts.andThen h'.puts⟩

lemma Rests.trans (h : s.Rests t) (h' : t.Rests u) : s.Rests u := Stands.andThen h h'

/-- A nick is asked for last. -/
lemma Stands.push_nick (h : s.Stands (st, []) t) (x : Text) :
    s.Stands (st, [x]) (t.push (Command.nick x)) :=
  ⟨h.standing, Puts.after ⟨[Command.nick x], rfl, rfl⟩ h.puts⟩

/-! ### Single operations -/

lemma rests_log (s : Seat) (r : Record) : s.Rests (s.log r) := ⟨rfl, .of_eq rfl⟩

lemma rests_logAs (s : Seat) (level : Level) (parts : List Text) : s.Rests (s.logAs level parts) :=
  ⟨rfl, .of_eq rfl⟩

lemma rests_deliver (s : Seat) (e : NetworkEvent) : s.Rests (s.deliver e) := ⟨rfl, .of_eq rfl⟩

lemma rests_setState (s : Seat) (state : SessionState) : s.Rests (s.setState state) :=
  ⟨rfl, .of_eq rfl⟩

lemma rests_push (s : Seat) (h : Command.askedNick? line = none) : s.Rests (s.push line) :=
  ⟨rfl, [line], rfl, by rw [List.filterMap_cons, h, List.filterMap_nil]⟩

lemma stands_confirmNick (s : Seat) (nick : Text) :
    s.Stands ({ s.standing with nick := s.session.nick.confirm nick }, []) (s.confirmNick nick) :=
  ⟨rfl, .of_eq rfl⟩

/-! ### Numeric replies -/

lemma rests_identify (s : Seat) : s.Rests s.identify := by
  rw [identify]
  split
  · exact rests_push s (Command.askedNick?_message _ _)
  · exact .refl s

lemma rests_joinAll (s : Seat) (channels : List Text) : s.Rests (s.joinAll channels) := by
  induction channels generalizing s with
  | nil => exact .refl s
  | cons channel channels ih => exact (rests_push s (Command.askedNick?_join channel)).trans (ih _)

lemma stands_registered (s : Seat) (now : Time) (m : Message) :
    s.Stands ({ s.standing with
      nick := s.session.nick.confirm ((m.word? 2).getD s.actual), ready := true }, [])
        (s.registered now m) := by
  rw [registered]
  generalize (m.word? 2).getD s.actual = nick
  have hconfirmed := (stands_confirmNick s nick).andThen
    (rests_log _ (.tagged .info nick ["registered with ", s.hub.config.host]))
  have hjoined := (hconfirmed.andThen (rests_identify _)).andThen
    (rests_joinAll _ s.hub.config.channels)
  refine Stands.andThen ?_ ((rests_setState _ .ready).trans
    (rests_push _ (Command.askedNick?_userHost nick)))
  exact ⟨congrArg (fun st : Standing => { st with ready := true }) hjoined.standing,
    hjoined.puts.andThen (.of_eq rfl)⟩

lemma stands_learnFeatures (s : Seat) (m : Message) :
    s.Stands (match advertisedNickLen? m.line with
      | some len => ({ s.standing with maxNick := max len minMaxNick }, [])
      | none => (s.standing, [])) (s.learnFeatures m) := by
  rw [learnFeatures]
  cases advertisedNickLen? m.line with
  | some len => exact ⟨rfl, .of_eq rfl⟩
  | none => exact Rests.refl s

lemma rests_learnUserHosts (s : Seat) (replies : List Text) :
    s.Rests (s.learnUserHosts replies) := by
  induction replies generalizing s with
  | nil => exact .refl s
  | cons reply replies ih =>
    rw [learnUserHosts]
    cases ownUserHost? s.actual reply with
    | some userHost =>
      refine Rests.trans ?_ (ih _)
      exact ⟨rfl, .of_eq rfl⟩
    | none => exact ih s

lemma rests_hearUserHosts (s : Seat) (m : Message) : s.Rests (s.hearUserHosts m) := by
  rw [hearUserHosts]
  split
  · exact rests_learnUserHosts s _
  · exact .refl s

lemma stands_nickTaken (s : Seat) (m : Message) :
    s.Stands (match s.session.nick.afterRefusal ((m.word? 2).getD ['*']) ((m.word? 3).getD [])
        s.hub.limits.maxNick with
      | (_, .keep) => (s.standing, [])
      | (nick, .ask next) => ({ s.standing with nick }, [next])) (s.nickTaken m) := by
  rw [nickTaken]
  rcases s.session.nick.afterRefusal ((m.word? 2).getD ['*']) ((m.word? 3).getD [])
    s.hub.limits.maxNick with ⟨nick, _ | next⟩
  · exact rests_logAs s _ _
  · refine Stands.push_nick ?_ next
    exact ⟨rfl, .of_eq rfl⟩

lemma stands_longNickRefused (s : Seat) (rejected : Text) :
    let maxNick := max (rejected.byteLength - 1) minMaxNick
    s.Stands (
      if s.session.ready then ({ s.standing with maxNick, nick := s.session.nick.fit maxNick }, [])
      else ({ s.standing with maxNick, nick := s.session.nick.reset maxNick },
        [(s.session.nick.reset maxNick).actual])) (s.longNickRefused rejected) := by
  intro maxNick
  rw [longNickRefused]
  cases hready : s.session.ready with
  | true =>
    simp only [if_true]
    exact ⟨rfl, .of_eq rfl⟩
  | false =>
    simp only [Bool.false_eq_true, if_false]
    refine Stands.push_nick ?_ _
    exact ⟨rfl, .of_eq rfl⟩

lemma stands_nickRefused (s : Seat) (m : Message) :
    let rejected := (m.word? 3).getD []
    let maxNick := max (rejected.byteLength - 1) minMaxNick
    s.Stands (
      if minMaxNick < rejected.byteLength then
        if s.session.ready then
          ({ s.standing with maxNick, nick := s.session.nick.fit maxNick }, [])
        else
          ({ s.standing with maxNick, nick := s.session.nick.reset maxNick },
            [(s.session.nick.reset maxNick).actual])
      else (s.standing, [])) (s.nickRefused m).1 := by
  intro rejected maxNick
  rw [nickRefused]
  by_cases hlong : minMaxNick < rejected.byteLength
  · simp only [rejected, if_pos hlong]
    exact stands_longNickRefused s _
  · simp only [rejected, if_neg hlong]
    split
    · exact rests_logAs s _ _
    · exact rests_log s _

lemma stands_hearReply (s : Seat) (now : Time) (code : ReplyCode) (m : Message) :
    s.Stands (s.standing.hearReply code m) (s.hearReply now code m).1 := by
  rw [hearReply, Standing.hearReply]
  by_cases hwelcome : code = .welcome
  · simp only [if_pos hwelcome]
    exact stands_registered s now m
  by_cases hfeatures : code = .features
  · simp only [if_neg hwelcome, if_pos hfeatures]
    exact stands_learnFeatures s m
  by_cases huserHost : code = .userHost
  · subst huserHost
    exact rests_hearUserHosts s m
  by_cases hconflict : code.isNickConflict = true
  · simp only [if_neg hwelcome, if_neg hfeatures, if_neg huserHost, if_pos hconflict]
    exact stands_nickTaken s m
  by_cases herroneous : code = .erroneousNick
  · simp only [if_neg hwelcome, if_neg hfeatures, if_neg huserHost, if_neg hconflict,
      if_pos herroneous]
    exact stands_nickRefused s m
  · simp only [if_neg hwelcome, if_neg hfeatures, if_neg huserHost, if_neg hconflict,
      if_neg herroneous]
    split
    · exact rests_logAs s _ _
    · exact Rests.refl s

/-! ### Traffic -/

lemma rests_passOn (s : Seat) (m : Message) (isAction : Bool) : s.Rests (s.passOn m isAction) := by
  rw [passOn]
  split
  · split
    · dsimp only
      cases (if isAction then m.actionText? else m.text).bind (s.forwarded? isAction) with
      | none => exact .refl s
      | some raw =>
        dsimp only
        split
        · exact .refl s
        · exact rests_deliver s _
    · exact .refl s
  · exact .refl s

lemma rests_userJoined (s : Seat) (m : Message) : s.Rests (s.userJoined m) := by
  rw [userJoined]
  split
  · split
    · exact rests_log s _
    split
    · exact rests_deliver s _
    · exact .refl s
  · exact .refl s

lemma rests_userParted (s : Seat) (m : Message) : s.Rests (s.userParted m) := by
  rw [userParted]
  split
  · split
    · exact rests_deliver s _
    · exact .refl s
  · exact .refl s

lemma stands_reclaim (s : Seat) (now : Time) (nick : Text) :
    s.Stands (s.standing, s.standing.hearQuit nick) (s.reclaim now nick) := by
  have hwants : (s.session.ready && !s.session.nick.hasDesired && Text.sameName nick s.desired) =
      (s.standing.wants && Text.sameName nick s.standing.nick.desired) := rfl
  rw [reclaim, hwants, Standing.hearQuit]
  by_cases h : (s.standing.wants && Text.sameName nick s.standing.nick.desired) = true
  · rw [if_pos h, if_pos h]
    refine Stands.push_nick ?_ _
    exact ⟨rfl, .of_eq rfl⟩
  · rw [if_neg h, if_neg h]
    exact Rests.refl s

lemma stands_userQuit (s : Seat) (now : Time) (m : Message) :
    s.Stands (s.standing, m.nick.elim [] s.standing.hearQuit) (s.userQuit now m) := by
  rw [userQuit]
  cases m.nick with
  | none => exact Rests.refl s
  | some nick =>
    have hreclaim := stands_reclaim s now nick
    dsimp only
    split
    · exact hreclaim.andThen (rests_deliver _ _)
    · exact hreclaim

lemma rests_userKicked (s : Seat) (now : Time) (m : Message) : s.Rests (s.userKicked now m) := by
  rw [userKicked]
  split
  · dsimp only
    split
    · exact ⟨rfl, .of_eq rfl⟩
    split
    · exact rests_deliver s _
    · exact .refl s
  · exact .refl s

lemma stands_userRenamed (s : Seat) (m : Message) :
    s.Stands (s.standing.hearRename m, []) (s.userRenamed m) := by
  rw [userRenamed, Standing.hearRename]
  cases hold : m.nick with
  | none =>
    rw [if_neg fun h => Bool.false_ne_true h.2]
    exact Rests.refl s
  | some old =>
    rw [Option.any_some]
    dsimp only
    by_cases hnew : newNick m = []
    · rw [if_pos hnew, if_neg fun h => h.1 hnew]
      exact Rests.refl s
    rw [if_neg hnew]
    by_cases hown : s.session.isOwn old = true
    · rw [if_pos hown, if_pos ⟨hnew, hown⟩]
      refine Stands.andThen ?_ (rests_identify _)
      exact ⟨rfl, .of_eq rfl⟩
    · rw [if_neg hown, if_neg fun h => hown h.2]
      split
      · exact rests_deliver s _
      · exact Rests.refl s

lemma rests_userKilled (s : Seat) (m : Message) : s.Rests (s.userKilled m).1 := by
  rw [userKilled]
  split
  · split
    · exact rests_logAs s _ _
    · exact .refl s
  · exact .refl s

lemma stands_hearMessage (s : Seat) (now : Time) (m : Message) :
    s.Stands (match m.kind with
      | .quit => (s.standing, m.nick.elim [] s.standing.hearQuit)
      | .nickChange => (s.standing.hearRename m, [])
      | _ => (s.standing, [])) (s.hearMessage now m).1 := by
  rw [hearMessage]
  cases m.kind with
  | ping => exact rests_push s (Command.askedNick?_pong _)
  | serverError => exact rests_logAs s _ _
  | kill => exact rests_userKilled s m
  | channelMessage => exact rests_passOn s m false
  | channelAction => exact rests_passOn s m true
  | join => exact rests_userJoined s m
  | part => exact rests_userParted s m
  | quit => exact stands_userQuit s now m
  | kick => exact rests_userKicked s now m
  | nickChange => exact stands_userRenamed s m
  | _ => exact Rests.refl s

/-- A session stands after a line as the message tells, and has asked for the nicks that this makes
it ask for. -/
lemma stands_hear (s : Seat) (now : Time) (line : Text) :
    s.Stands (s.standing.hear (Message.ofLine s.actual line)) (s.hear now line).1 := by
  -- the record of the line decides about nothing
  have hlog := rests_log s (.ofParts .debug ["[In] ", Format.strip line])
  have hafter : ∀ {result t}, (s.log (.ofParts .debug ["[In] ", Format.strip line])).Stands result t →
      s.Stands result t := fun h => ⟨h.standing, h.puts.after hlog.puts⟩
  rw [hear, Standing.hear, show (s.log _).actual = s.actual from rfl]
  cases (Message.ofLine s.actual line).replyCode with
  | some code => exact hafter (stands_hearReply _ now code _)
  | none => exact hafter (stands_hearMessage _ now _)

/-! ### Sending -/

/-- While nothing is to be sent, a session may ask for the nick it wants. -/
lemma stands_askAgain (s : Seat) (now : Time) :
    ∃ nicks, s.Stands (s.standing, nicks) (s.askAgain now) ∧
      (nicks = [] ∨ s.standing.wants = true ∧ nicks = [s.desired]) := by
  rw [askAgain]
  split
  · next h =>
    rw [Bool.and_eq_true] at h
    refine ⟨[s.desired], Stands.push_nick ?_ _, .inr ⟨h.1, rfl⟩⟩
    exact ⟨rfl, .of_eq rfl⟩
  · exact ⟨[], Rests.refl s, .inl rfl⟩

lemma rests_rejoinAll (s : Seat) (due : List (Time × Text)) : s.Rests (s.rejoinAll due) := by
  induction due generalizing s with
  | nil => exact .refl s
  | cons entry rest ih =>
    rw [rejoinAll]
    refine Rests.trans ?_ (ih _)
    exact (rests_logAs s _ _).trans (rests_push _ (Command.askedNick?_join _))

lemma rests_rejoinDue (s : Seat) (now : Time) : s.Rests (s.rejoinDue now) := by
  rw [rejoinDue]
  refine Rests.trans ?_ (rests_rejoinAll _ _)
  exact ⟨rfl, .of_eq rfl⟩

lemma standing_sendOne (s : Seat) (o : Outlet) (now : Time) :
    (s.sendOne o now).1.standing = s.standing := by
  cases hdue : s.due? now with
  | none =>
    rw [sendOne_eq_of_not_due hdue]
    dsimp only
    split
    · obtain ⟨nicks, h, -⟩ := s.stands_askAgain now
      exact h.standing
    · rfl
  | some due =>
    obtain ⟨origin, line⟩ := due
    obtain ⟨journal, h⟩ := sendOne_eq_of_due hdue o
    rw [h]
    cases origin with
    | own => rfl
    | shared => rfl

lemma standing_flushLines (s : Seat) (o : Outlet) (lines : List Text) :
    (s.flushLines o lines).1.standing = s.standing := by
  obtain ⟨journal, rest, -, h⟩ := s.flushLines_eq o lines
  rw [h]
  rfl

/-- Registration goes back to the nick wanted, cut to the longest one learned. -/
lemma stands_register (s : Seat) (o : Outlet) (now : Time) :
    s.Stands ({ s.standing with nick := s.session.nick.reset s.hub.limits.maxNick }, [])
      (s.register o now).1 := by
  obtain ⟨journal, limiter, -, h⟩ := s.register_eq o now
  rw [h]
  exact ⟨rfl, .of_eq rfl⟩

/-- What a session does moves its standing as its deeds tell. -/
lemma standing_perform (s : Seat) (now : Time) (d : Deed) :
    (s.perform now d).1.standing = s.standing.perform d := by
  cases d with
  | register wire =>
    rw [perform_register]
    exact (stands_register s ⟨[], wire⟩ now).standing
  | hear line => exact (stands_hear s now line).standing
  | send wire =>
    rw [perform_send]
    exact standing_sendOne s ⟨[], wire⟩ now
  | flush wire =>
    rw [perform_flush]
    exact standing_flushLines s ⟨[], wire⟩ _
  | rejoin => exact (rests_rejoinDue s now).standing
  | resetNick => rfl
  | disconnect => rfl
  | report state => rfl

end Seat
end ChatLink
