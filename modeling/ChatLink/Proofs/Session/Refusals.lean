/-
# Nicks that the network refuses as malformed

A nick that is refused as malformed may be too long, so the session takes one byte less than its
length for the longest one and starts over from the nick that it wants.  It does not look at what it
knew before, so that a refusal of some other nick may raise what it knows
(`maxNick_refused_le_iff`).  While the network refuses nothing but the nick that the session asks
for, the limit only goes down; refusals as taken leave it, and every attempt that they lead to fits
as long as their numbers stay below ten digits (`NickSearch.HasRoom`, which a session has for a long
time: `Run.hasRoom_after`).  So a session that is not registered gives up after few refusals as
malformed, whatever comes between them (`Seat.Trial.malformed_le`).
-/
import Mathlib
import ChatLink.Proofs.Nick.Counting
import ChatLink.Proofs.Session.NickLimit

namespace ChatLink

/-- The nick that a refusal names. -/
def Message.rejected (m : Message) : Text := (m.word? 3).getD []

/-! ### What is learned from a refusal -/

namespace Standing

variable {st : Standing} {m : Message}

/-- What is learned from a nick that is refused as malformed comes from its length alone. -/
lemma hear_malformed (h : m.replyCode = some .erroneousNick) :
    st.hear m =
      if minMaxNick < m.rejected.byteLength then
        let maxNick := m.rejected.byteLength - 1
        if st.ready then ({ st with maxNick, nick := st.nick.fit maxNick }, [])
        else ({ st with maxNick, nick := st.nick.reset maxNick }, [(st.nick.reset maxNick).actual])
      else (st, []) := by
  rw [hear_of_replyCode h]
  show (if minMaxNick < m.rejected.byteLength then _ else _) = _
  split
  · next hlong =>
    -- one byte less is no less than the least limit
    rw [← max_eq_left (Nat.le_sub_one_of_lt hlong)]
    rfl
  · rfl

lemma maxNick_hear_malformed (h : m.replyCode = some .erroneousNick) :
    (st.hear m).1.maxNick =
      if minMaxNick < m.rejected.byteLength then m.rejected.byteLength - 1 else st.maxNick := by
  rw [hear_malformed h]
  split
  · dsimp only
    split <;> rfl
  · rfl

end Standing

namespace Run

variable {hub : Hub} {i : Nat} {line : Text}

/-- **When a refusal leaves the limit or lowers it.**  In any run, let a session hear that a nick is
malformed.  The longest nick known does not rise if the refused one is longer by one byte at most,
and only then; and where it rises, it becomes one byte less than the refused nick has. -/
theorem maxNick_refused_le_iff (hlimit : minMaxNick ≤ hub.limits.maxNick) (start : Time)
    (history : List Entry) (hi : i < hub.config.sessionCount) (now : Time)
    (hline : (Message.ofLine [] line).replyCode = some .erroneousNick) :
    let r := (begin hub start).after history
    let limit := r.hub.limits.maxNick
    let learned := (r.act i now (.hear line)).1.hub.limits.maxNick
    let rejected := (Message.ofLine [] line).rejected
    (learned ≤ limit ↔ rejected.byteLength ≤ limit + 1) ∧
      (limit < learned → learned + 1 = rejected.byteLength) := by
  intro r limit learned rejected
  have hsound : minMaxNick ≤ limit := sound_after hlimit history
  have hlearned : learned =
      if minMaxNick < rejected.byteLength then rejected.byteLength - 1 else limit := by
    cases hs : r.seat? i with
    | none =>
      rw [seat?_eq_none_iff, length_sessions_after, begin, List.length_map, List.length_range] at hs
      exact absurd hi (not_lt_of_ge hs)
    | some s =>
      have hlearned : (s.perform now (.hear line)).1.standing.maxNick =
          if minMaxNick < rejected.byteLength then rejected.byteLength - 1 else s.standing.maxNick := by
        rw [Seat.standing_perform]
        exact Standing.maxNick_hear_malformed (m := Message.ofLine s.actual line) hline
      rw [show limit = s.standing.maxNick by rw [Seat.standing, (seat?_eq_some_iff.1 hs).2], ← hlearned]
      show (r.act i now (.hear line)).1.hub.limits.maxNick = _
      rw [act_eq_settle hs]
      rfl
  rw [hlearned]
  split <;> omega

/-- The network names a limit of twelve and then refuses a nick of eleven bytes. -/
theorem maxNick_refused_le_iff_lower :
    let c : Config := { Config.default with nick := "LongServerBot" }
    let history : List Entry := [
      .deed 0 0 (.hear ":irc.test 005 LongServerBo NICKLEN=12 :are supported")]
    let line : Text := ":irc.test 432 * LongServerB :Erroneous nickname"
    let r := (begin (.fresh c) 0).after history
    minMaxNick ≤ (Hub.fresh c).limits.maxNick ∧ 0 < c.sessionCount ∧
      (Message.ofLine [] line).replyCode = some .erroneousNick ∧ r.hub.limits.maxNick = 12 ∧
      (r.act 0 1 (.hear line)).1.hub.limits.maxNick ≤ 12 := by
  intro c history line r
  have hlimit : minMaxNick ≤ (Hub.fresh c).limits.maxNick := by decide
  have hi : 0 < (Hub.fresh c).config.sessionCount := by decide
  have hline : (Message.ofLine [] line).replyCode = some .erroneousNick := by decide
  have hmax : r.hub.limits.maxNick = 12 := by decide
  obtain ⟨hle, -⟩ := maxNick_refused_le_iff hlimit 0 history hi 1 hline
  refine ⟨hlimit, hi, hline, hmax, ?_⟩
  rw [← hmax]
  exact hle.2 (by decide)

/-- A registered session has learned that a nick has at most nine bytes.  Then the network refuses
the nick of seventeen bytes that was asked for earlier, and the session takes sixteen for the limit. -/
theorem refusal_raises_maxNick :
    let c : Config := { Config.default with nick := "LongServerBotName" }
    let r := (begin (.fresh c) 0).after [
      .deed 0 0 (.hear ":irc.test 001 LongServe :Welcome"),
      .deed 0 0 (.hear ":irc.test 005 LongServe NICKLEN=9 :are supported by this server")]
    let line : Text := ":irc.test 432 LongServe LongServerBotName :Erroneous nickname"
    c.validate = .ok c ∧ (Message.ofLine [] line).replyCode = some .erroneousNick ∧
      r.hub.limits.maxNick = 9 ∧ (r.act 0 0 (.hear line)).1.hub.limits.maxNick = 16 :=
  ⟨rfl, by decide, by decide, by decide⟩

end Run

/-! ### What the search of a session has met -/

namespace Standing

variable {st : Standing} {m : Message} {past : List NickSearch.Report}

/-- A line reports one refusal to the search at most. -/
lemma Change.met {result : Standing × List Text} (hchange : st.Change m result)
    (h : NickSearch.Met past st.nick) :
    ∃ past', NickSearch.Met past' result.1.nick ∧ past'.length ≤ past.length + 1 := by
  have hsame : ∃ past', NickSearch.Met past' st.nick ∧ past'.length ≤ past.length + 1 :=
    ⟨past, h, Nat.le_succ _⟩
  cases hchange with
  | welcomed => exact ⟨[], .confirm _ _, Nat.zero_le _⟩
  | renamed => exact ⟨[], .confirm _ _, Nat.zero_le _⟩
  | restarted => exact ⟨[], NickSearch.met_reset _ _, Nat.zero_le _⟩
  | cut => exact ⟨past, h.fit _, Nat.le_succ _⟩
  | passed _ _ hask =>
    have hmet := @NickSearch.Met.report past
      ⟨st.nick, (m.word? 2).getD ['*'], (m.word? 3).getD [], st.maxNick⟩ h
    rw [NickSearch.Report.outcome, hask] at hmet
    exact ⟨_, hmet, List.length_append.le⟩
  | limited => exact hsame
  | reclaimed => exact hsame
  | nothing => exact hsame

lemma met_perform (st : Standing) (h : NickSearch.Met past st.nick) (d : Deed) :
    ∃ past', NickSearch.Met past' (st.perform d).nick ∧ past'.length ≤ past.length + 1 := by
  cases d with
  | hear line => exact (st.change_hear _).met h
  | register wire => exact ⟨[], NickSearch.met_reset _ _, Nat.zero_le _⟩
  | resetNick => exact ⟨[], NickSearch.met_reset _ _, Nat.zero_le _⟩
  | send | flush | rejoin | disconnect | report => exact ⟨past, h, Nat.le_succ _⟩

end Standing

namespace Run

variable {r : Run}

/-- Every session's search has met few reports. -/
def MetAtMost (r : Run) (k : Nat) : Prop :=
  ∀ session ∈ r.sessions, ∃ past, NickSearch.Met past session.nick ∧ past.length ≤ k

lemma metAtMost_begin (hub : Hub) (start : Time) : (begin hub start).MetAtMost 0 := by
  intro session hsession
  obtain ⟨i, -, rfl⟩ := List.mem_map.1 hsession
  exact ⟨[], NickSearch.met_ofNick _, le_rfl⟩

lemma MetAtMost.advance {k : Nat} (h : r.MetAtMost k) (e : Entry) : (r.advance e).MetAtMost (k + 1) := by
  have hsame : r.MetAtMost (k + 1) := fun session hsession =>
    (h session hsession).imp fun past hpast => hpast.imp_right fun hle => hle.trans (Nat.le_succ k)
  cases e with
  | enqueue lines => exact hsame
  | deed i now d =>
    cases hs : r.seat? i with
    | none =>
      show (r.act i now d).1.MetAtMost (k + 1)
      rwa [act, hs]
    | some s =>
      show (r.act i now d).1.MetAtMost (k + 1)
      rw [act_eq_settle hs]
      intro session hsession
      rcases List.mem_or_eq_of_mem_set hsession with hmem | rfl
      · exact hsame session hmem
      · obtain ⟨past, hmet, hle⟩ := h s.session (List.mem_of_getElem? (seat?_eq_some_iff.1 hs).1)
        obtain ⟨past', hmet', hle'⟩ := s.standing.met_perform hmet d
        rw [← Seat.standing_perform s now d] at hmet'
        exact ⟨past', hmet', hle'.trans (Nat.succ_le_succ hle)⟩

/-- **A search has met no more reports than there were deeds.** -/
theorem met_after (hub : Hub) (start : Time) (history : List Entry) :
    ((begin hub start).after history).MetAtMost history.length := by
  induction history using List.reverseRecOn with
  | nil => exact metAtMost_begin hub start
  | append_singleton history e ih =>
    rw [after_append, List.length_append, List.length_singleton]
    exact ih.advance e

/-- So the searches have room to count for the first 27 million deeds of any run. -/
theorem hasRoom_after (hub : Hub) (start : Time) {history : List Entry}
    (hfew : history.length ≤ 27 * 10 ^ 6) {session : Session}
    (hsession : session ∈ ((begin hub start).after history).sessions) : session.nick.HasRoom := by
  obtain ⟨past, hmet, hpast⟩ := met_after hub start history session hsession
  exact hmet.hasRoom (hpast.trans hfew)

end Run

/-! ### One refusal of the nick in use after another -/

namespace Standing

variable {st : Standing} {limit first few : Nat} {codes : List ReplyCode} {code : ReplyCode}
  {m : Message}

/-- The network refuses the nick that is asked for, and knows the session by none. -/
structure Refused (st : Standing) (code : ReplyCode) (m : Message) : Prop where
  kind : code = .erroneousNick ∨ code.isNickConflict = true
  reply : m.replyCode = some code
  unknown : m.word? 2 = some ['*']
  rejected : m.word? 3 = some st.nick.actual

/-- How a session stands that is not registered and had its nicks refused by these codes, where its
search had used the first few numbers and knew few nicks.  Each refusal as malformed has cost the
limit a byte or more. -/
structure Trying (limit first few : Nat) (codes : List ReplyCode) (st : Standing) : Prop where
  ready : st.ready = false
  sound : st.Sound
  fits : st.nick.actual.byteLength ≤ st.maxNick
  spent : codes.count .erroneousNick + st.maxNick ≤ limit
  counts : NickSearch.Counts first (few + 2 * codes.length) st.nick

lemma Refused.rejected_eq (h : st.Refused code m) : m.rejected = st.nick.actual := by
  rw [Message.rejected, h.rejected, Option.getD_some]

/-- A nick that may be too long is refused as malformed: the session starts over with a shorter one. -/
lemma Refused.hear_long (h : st.Refused .erroneousNick m) (hready : st.ready = false)
    (hlong : minMaxNick < st.nick.actual.byteLength) :
    let limit := st.nick.actual.byteLength - 1
    st.hear m = ({ st with maxNick := limit, nick := st.nick.reset limit },
      [cutNick st.nick.configured limit]) := by
  rw [hear_malformed h.reply, h.rejected_eq, if_pos hlong, hready]
  rfl

/-- A nick is refused as taken: the session goes on with another one. -/
lemma Refused.hear_taken (h : st.Refused code m) (hcode : code.isNickConflict = true) :
    st.hear m = match st.nick.afterRefusal ['*'] st.nick.actual st.maxNick with
      | (_, .keep) => (st, [])
      | (nick, .ask next) => ({ st with nick }, [next]) :=
  hear_conflict h.reply hcode h.unknown h.rejected

/-- The limit becomes less than the nick had bytes, which fitted it. -/
lemma Trying.malformed (h : Trying limit first few codes st) (hm : st.Refused .erroneousNick m)
    (hlong : minMaxNick < st.nick.actual.byteLength) :
    Trying limit first few (codes ++ [.erroneousNick]) (st.hear m).1 := by
  have hsound : minMaxNick ≤ st.nick.actual.byteLength - 1 := Nat.le_sub_one_of_lt hlong
  rw [hm.hear_long h.ready hlong]
  refine ⟨h.ready, hsound, byteLength_cutNick_le hsound, ?_,
    NickSearch.counts_confirm _ _ _ (by simp)⟩
  have hspent := h.spent
  have hfits := h.fits
  rw [List.count_append, List.count_singleton_self]
  dsimp only
  omega

/-- The limit stays, and the next attempt fits it. -/
lemma Trying.taken (h : Trying limit first few codes st) (hm : st.Refused code m)
    (hcode : code.isNickConflict = true)
    (hroom : first + (few + 2 * (codes.length + 1)) * 9 + 1 < 10 ^ 9) :
    Trying limit first few (codes ++ [code]) (st.hear m).1 := by
  have hother : code ≠ .erroneousNick := by
    rintro rfl
    cases hcode
  have hcount : (codes ++ [code]).count .erroneousNick = codes.count .erroneousNick := by
    rw [List.count_append, List.count_singleton, beq_false_of_ne hother]
    rfl
  have hspent : (codes ++ [code]).count .erroneousNick + st.maxNick ≤ limit := by
    rw [hcount]
    exact h.spent
  have hlength : few + 2 * (codes ++ [code]).length = few + 2 * codes.length + 2 := by
    rw [List.length_append, List.length_singleton]
    omega
  rw [hm.hear_taken hcode]
  rcases hstep : st.nick.afterRefusal ['*'] st.nick.actual st.maxNick with ⟨nick, _ | next⟩
  · exact ⟨h.ready, h.sound, h.fits, hspent, h.counts.mono (by omega)⟩
  · obtain ⟨-, -, hactual, -⟩ := NickSearch.afterRefusal_ask hstep
    refine ⟨h.ready, h.sound, ?_, hspent, hlength ▸ h.counts.ask hstep⟩
    rw [hactual]
    exact h.counts.fits (by omega) h.sound hstep

end Standing

/-! ### A session whose nicks are refused -/

namespace Seat

variable {start s : Seat} {codes : List ReplyCode} {code : ReplyCode} {line : Text}

/-- A line by which the network refuses the nick that the session asks for, before it knows the
session by any. -/
def Refuses (s : Seat) (code : ReplyCode) (line : Text) : Prop :=
  s.standing.Refused code (Message.ofLine s.actual line)

/-- The network refuses one nick after another, each as the session asks for it, for reasons with
these codes, and the session does not give up.  Beside that anything may happen that does not concern
the nick, such as that the session sends lines or that others report their states. -/
inductive Trial (start : Seat) : List ReplyCode → Seat → Prop where
  | start : Trial start [] start
  | beside {codes : List ReplyCode} {s t : Seat} (h : Trial start codes s)
      (hsame : t.standing = s.standing) : Trial start codes t
  | refuse {codes : List ReplyCode} {s : Seat} (h : Trial start codes s) {code : ReplyCode}
      {line : Text} (hline : s.Refuses code line) (now : Time) (hgoes : (s.hear now line).2 = none) :
      Trial start (codes ++ [code]) (s.hear now line).1

variable {m : Message}

lemma exit_nickRefused (hready : s.session.ready = false) :
    (s.nickRefused m).2 = if m.rejected.byteLength ≤ minMaxNick then some .fatal else none := by
  rw [nickRefused, ← Message.rejected]
  split
  · next hlong => rw [if_neg (not_le_of_gt hlong)]
  · next hshort =>
    rw [hready, if_neg Bool.false_ne_true, if_pos (not_lt.1 hshort)]

/-- A session that starts over with a shorter nick puts one line into its queue, which asks for it. -/
lemma outbox_nickRefused (hready : s.session.ready = false)
    (hlong : minMaxNick < m.rejected.byteLength) :
    (s.nickRefused m).1.session.outbox =
      s.session.outbox.push (Command.nick (s.nickRefused m).1.actual) := by
  rw [nickRefused, ← Message.rejected, if_pos hlong, longNickRefused]
  dsimp only
  rw [hready, if_neg Bool.false_ne_true]
  rfl

lemma Refuses.hear_malformed (h : s.Refuses .erroneousNick line) (now : Time) :
    s.hear now line = (s.log (.ofParts .debug ["[In] ", Format.strip line])).nickRefused
      (Message.ofLine s.actual line) := by
  have hreply : (Message.ofLine s.actual line).replyCode = some .erroneousNick := h.reply
  rw [hear, show (s.log _).actual = s.actual from rfl, hreply]
  rfl

lemma Refuses.exit_of_taken (h : s.Refuses code line) (hcode : code.isNickConflict = true)
    (now : Time) : (s.hear now line).2 = none := by
  have hreply : (Message.ofLine s.actual line).replyCode = some code := h.reply
  rw [hear, show (s.log _).actual = s.actual from rfl, hreply]
  rw [ReplyCode.isNickConflict, Bool.or_eq_true, beq_iff_eq, beq_iff_eq] at hcode
  rcases hcode with rfl | rfl <;> rfl

/-- A session that is not registered gives up exactly if a nick is refused as malformed that cannot be
too long. -/
lemma Refuses.exit (h : s.Refuses code line) (hready : s.session.ready = false) (now : Time) :
    (s.hear now line).2 =
      if code = .erroneousNick ∧ s.actual.byteLength ≤ minMaxNick then some .fatal else none := by
  rcases h.kind with rfl | hcode
  · rw [h.hear_malformed, exit_nickRefused (by exact hready), h.rejected_eq]
    simp only [true_and]
    rfl
  · have hother : code ≠ .erroneousNick := by
      rintro rfl
      cases hcode
    rw [h.exit_of_taken hcode, if_neg fun hend => hother hend.1]

/-! ### Trials -/

/-- Nothing that happens in a trial but the refusals counts. -/
lemma Trial.trying (h : start.Trial codes s)
    (hready : start.session.ready = false) (hlimit : minMaxNick ≤ start.hub.limits.maxNick)
    (hfits : start.actual.byteLength ≤ start.hub.limits.maxNick)
    (hroom : start.session.nick.HasRoom) (hfew : codes.length < 10 ^ 6) :
    Standing.Trying start.hub.limits.maxNick start.session.nick.lastNumber
      start.session.nick.asked.card codes s.standing := by
  induction h with
  | start => exact ⟨hready, hlimit, hfits, (Nat.zero_add _).le, NickSearch.counts_self _⟩
  | beside h hsame ih =>
    rw [hsame]
    exact ih hfew
  | @refuse codes s h code line hline now hgoes ih =>
    rw [List.length_append, List.length_singleton] at hfew
    have hbefore := ih (Nat.lt_of_succ_lt hfew)
    rw [(s.stands_hear now line).standing]
    rcases hline.kind with rfl | hcode
    · -- a nick that cannot be too long would have ended the trial
      rw [hline.exit hbefore.ready] at hgoes
      refine hbefore.malformed hline (not_le.1 fun hshort => ?_)
      rw [if_pos ⟨rfl, hshort⟩] at hgoes
      cases hgoes
    · rw [NickSearch.HasRoom] at hroom
      exact hbefore.taken hline hcode (by omega)

/-- **Few refusals as malformed end a trial.**  Let a session that is not registered ask for a nick
that fits, and let the network refuse fewer than a million nicks in a row, each as the session asks
for it.  All attempts fit, and each refusal as malformed has cost the limit one byte or more.
When the network then refuses the next nick, the session gives up exactly if the reason is that it
is malformed and it has at most nine bytes, so that the session hears of at most eight malformed
nicks fewer than the limit had bytes at first.  After a longer one the limit is lower, and one line
asks for a shorter nick that fits it.
The search may have met refusals before, but not so many that its numbers get ten digits. -/
theorem Trial.malformed_le (h : start.Trial codes s)
    (hready : start.session.ready = false) (hlimit : minMaxNick ≤ start.hub.limits.maxNick)
    (hfits : start.actual.byteLength ≤ start.hub.limits.maxNick)
    (hroom : start.session.nick.HasRoom) (hfew : codes.length < 10 ^ 6) :
    s.actual.byteLength ≤ s.hub.limits.maxNick ∧
    codes.count .erroneousNick + s.hub.limits.maxNick ≤ start.hub.limits.maxNick ∧
    ∀ (now : Time) (code : ReplyCode) (line : Text), s.Refuses code line →
      let t := (s.hear now line).1
      (codes ++ [code]).count .erroneousNick ≤ start.hub.limits.maxNick - 8 ∧
      ((s.hear now line).2 =
        if code = .erroneousNick ∧ s.actual.byteLength ≤ 9 then some .fatal else none) ∧
      (code = .erroneousNick → 9 < s.actual.byteLength →
        t.hub.limits.maxNick < s.hub.limits.maxNick ∧
        t.session.outbox = s.session.outbox.push (Command.nick t.actual) ∧
        t.actual.byteLength < s.actual.byteLength ∧
        t.actual.byteLength ≤ t.hub.limits.maxNick) ∧
      (code.isNickConflict = true → t.hub.limits.maxNick = s.hub.limits.maxNick) := by
  have htrying := h.trying hready hlimit hfits hroom hfew
  refine ⟨htrying.fits, htrying.spent, fun now code line hline => ?_⟩
  have hstanding := (s.stands_hear now line).standing
  refine ⟨?_, hline.exit htrying.ready now, ?_, ?_⟩
  · have hspent := htrying.spent
    have hsound : 9 ≤ s.standing.maxNick := htrying.sound
    have hcount : [code].count .erroneousNick ≤ 1 := List.count_le_length
    rw [List.count_append]
    omega
  · rintro rfl hlong
    have hnext := htrying.malformed hline hlong
    rw [← hstanding] at hnext
    rw [hline.hear_long htrying.ready hlong] at hstanding
    have hlimit : (s.hear now line).1.standing.maxNick = s.actual.byteLength - 1 :=
      congrArg Standing.maxNick hstanding
    have hlower : (s.hear now line).1.standing.maxNick < s.actual.byteLength := by omega
    refine ⟨hlower.trans_le htrying.fits, ?_, hnext.fits.trans_lt hlower, hnext.fits⟩
    have hlogged := outbox_nickRefused (s := s.log (.ofParts .debug ["[In] ", Format.strip line]))
      htrying.ready (hlong.trans_eq (congrArg Text.byteLength hline.rejected_eq.symm))
    rwa [← hline.hear_malformed now] at hlogged
  · intro hcode
    rw [hline.hear_taken hcode] at hstanding
    have hmaxNick := congrArg Standing.maxNick hstanding
    split at hmaxNick
    · exact hmaxNick
    · exact hmaxNick

/-- An underscore is too much, and then a number in place of the last character is refused, too. -/
theorem Trial.malformed_le_mixed :
    let c : Config := { Config.default with nick := "LongServerBot" }
    let start : Seat := ⟨.fresh c 0 0, .fresh c⟩
    let first := (start.hear 0 ":irc.test 433 * LongServerBot :Nickname is already in use").1
    let second := (first.hear 1 ":irc.test 432 * LongServerBot_ :Erroneous nickname").1
    let third := (second.hear 2 ":irc.test 436 * LongServerBot :Nickname collision").1
    let line : Text := ":irc.test 432 * LongServerBo1 :Erroneous nickname"
    start.Trial [.nickInUse, .erroneousNick, .nickCollision] third ∧
      start.session.ready = false ∧ minMaxNick ≤ start.hub.limits.maxNick ∧
      start.actual.byteLength ≤ start.hub.limits.maxNick ∧
      start.session.nick.HasRoom ∧
      third.Refuses .erroneousNick line ∧ third.hub.limits.maxNick = 13 ∧
      (third.hear 3 line).2 = none ∧ (third.hear 3 line).1.hub.limits.maxNick < 13 ∧
      (third.hear 3 line).1.actual = "LongServerBo" := by
  intro c start first second third line
  have htrial : start.Trial [.nickInUse, .erroneousNick, .nickCollision] third := by
    refine .refuse (.refuse (.refuse .start ?_ 0 ?_) ?_ 1 ?_) ?_ 2 ?_
    · exact ⟨.inr rfl, by decide, by decide, by decide⟩
    · decide
    · exact ⟨.inl rfl, by decide, by decide, by decide⟩
    · decide
    · exact ⟨.inr rfl, by decide, by decide, by decide⟩
    · decide
  have hready : start.session.ready = false := rfl
  have hlimit : minMaxNick ≤ start.hub.limits.maxNick := by decide
  have hfits : start.actual.byteLength ≤ start.hub.limits.maxNick := by decide
  have hroom : start.session.nick.HasRoom := (NickSearch.met_ofNick _).hasRoom (by decide)
  have hline : third.Refuses .erroneousNick line := ⟨.inl rfl, by decide, by decide, by decide⟩
  have hmax : third.hub.limits.maxNick = 13 := by decide
  obtain ⟨-, -, hnext⟩ := htrial.malformed_le hready hlimit hfits hroom (by decide)
  obtain ⟨-, hexit, hshorter, -⟩ := hnext 3 _ line hline
  have hlong : 9 < third.actual.byteLength := by decide
  refine ⟨htrial, hready, hlimit, hfits, hroom, hline, hmax, ?_, ?_, by decide⟩
  · rw [hexit, if_neg fun hend => not_lt_of_ge hend.2 hlong]
  · rw [← hmax]
    exact (hshorter rfl hlong).1

/-- A search that has counted up to the last number of nine digits asks for a nick of ten bytes,
although nine are the limit.  And a session that the network calls by a name with a space reads a
refusal of that name as one of its first word: it gives up, although the name has more than nine
bytes. -/
theorem Trial.refused_without_room :
    let c : Config := { Config.default with nick := "Bot" }
    let late : Seat :=
      ⟨{ Session.fresh c 0 0 with nick := ⟨"Bot", "Bot", "999999999", 999999999, []⟩ },
        { Hub.fresh c with limits := ⟨9, 60⟩ }⟩
    let taken : Text := ":irc.test 433 * 999999999 :Nickname is already in use"
    let odd : Seat := (Seat.hear ⟨.fresh c 0 0, .fresh c⟩ 0 ":Bot!bot@host NICK :a bbbbbbbbbb").1
    let malformed : Text := ":irc.test 432 * a bbbbbbbbbb :Erroneous nickname"
    (c.validate = .ok c ∧ late.session.ready = false ∧ late.actual.byteLength ≤ 9 ∧
      late.Refuses .nickInUse taken ∧
      (late.hear 0 taken).1.hub.limits.maxNick = 9 ∧
      (late.hear 0 taken).1.actual = "1000000000") ∧
    odd.session.ready = false ∧ odd.actual = "a bbbbbbbbbb" ∧
      9 < odd.actual.byteLength ∧ odd.actual.byteLength ≤ odd.hub.limits.maxNick ∧
      (odd.hear 0 malformed).2 = some .fatal := by
  refine ⟨⟨rfl, rfl, by decide, ⟨.inr rfl, by decide, by decide, by decide⟩, by decide, ?_⟩,
    by decide, by decide, by decide, by decide, by decide⟩
  decide +kernel

end Seat
end ChatLink
