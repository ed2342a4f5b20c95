/-
# The length of the nicks asked for

Sessions learn how long a nick may be, and cut the nick they want to that when they register or when
the network refuses a nick as malformed.  An attempt at another nick is made to fit what is known at
that moment.  But a session that asks for the nick it wants once more asks for it as it was cut
before, even if the network has named a shorter limit since.  Main statement: `asked_fits`.
-/
import Mathlib
import ChatLink.Proofs.Session.Configured
import ChatLink.Proofs.Session.Changes
import ChatLink.Proofs.Session.Reachable

namespace ChatLink

/-- The session cuts the nick it wants to the limit learned. -/
def Deed.cuts : Deed → Bool
  | .register _ => true
  | .resetNick => true
  | .hear line => (Message.ofLine [] line).refusesLong
  | _ => false

lemma byteLength_cutNick_le {nick : Text} {maxLen : Nat} (h : minMaxNick ≤ maxLen) :
    (cutNick nick maxLen).byteLength ≤ maxLen := by
  have hchar : 4 ≤ minMaxNick := by decide
  cases nick with
  | nil => exact Nat.zero_le _
  | cons c t =>
    have hc : c.utf8Size ≤ 4 := Char.utf8Size_le_four c
    have ht := Text.byteLength_takeBytes_le (maxLen - c.utf8Size) t
    rw [cutNick, Text.byteLength_cons]
    omega

/-! ### One line -/

namespace Standing

variable {st : Standing} {m : Message} {code : ReplyCode} {d : Deed} {x : Text}

/-- No limit is believed that is below the least one. -/
def Sound (st : Standing) : Prop := minMaxNick ≤ st.maxNick

/-- A nick that is asked for is a new attempt, which fits unless its number alone is too long, or
the nick wanted once more. -/
def Asks (st : Standing) (x : Text) : Prop :=
  (st.nick.actual = x ∧ (x.byteLength ≤ st.maxNick ↔ st.nick.lastNumber < 10 ^ st.maxNick)) ∨
    (st.wants = true ∧ st.nick.desired = x)

/-- What becomes of the nick wanted, which is cut or stays, and what is asked for. -/
structure Pursues (st : Standing) (cut : Bool) (result : Standing × List Text) : Prop where
  sound : st.Sound → result.1.Sound
  configured : result.1.nick.configured = st.nick.configured
  desired : result.1.nick.desired =
    if cut then cutNick st.nick.configured result.1.maxNick else st.nick.desired
  asks : st.Sound → ∀ x ∈ result.2, result.1.Asks x

/-- The session does not go on looking for a nick. -/
lemma pursues_of_nil {st' : Standing} (hsound : st.Sound → st'.Sound)
    (hconfigured : st'.nick.configured = st.nick.configured)
    (hdesired : st'.nick.desired = st.nick.desired) : st.Pursues false (st', []) :=
  ⟨hsound, hconfigured, hdesired, fun _ _ hx => absurd hx List.not_mem_nil⟩

lemma pursues_refl (st : Standing) : st.Pursues false (st, []) := pursues_of_nil id rfl rfl

/-- A nick that the session goes back to fits. -/
lemma asks_reset (n : NickSearch) (ready : Bool) {maxNick : Nat} (h : minMaxNick ≤ maxNick) :
    Asks ⟨n.reset maxNick, ready, maxNick⟩ (n.reset maxNick).actual :=
  .inl ⟨rfl, iff_of_true (byteLength_cutNick_le h) (Nat.pow_pos (by decide))⟩

/-- Only a line that refuses a nick as too long has the nick wanted cut, and what the session asks for
on a line is a new attempt or the nick wanted. -/
lemma Change.pursues {result : Standing × List Text} (h : st.Change m result) :
    st.Pursues m.refusesLong result := by
  cases h with
  | welcomed hreply =>
    rw [Message.refusesLong_of_ne (by rw [hreply]; decide)]
    exact pursues_of_nil id rfl rfl
  | limited hreply =>
    rw [Message.refusesLong_of_ne (by rw [hreply]; decide)]
    exact pursues_of_nil (fun _ => le_max_right _ _) rfl rfl
  | passed hreply hcode hask =>
    rw [Message.refusesLong_of_isNickConflict hreply hcode]
    have hpos : 0 < minMaxNick := by decide
    obtain ⟨hconfigured, hdesired, hactual, -⟩ := NickSearch.afterRefusal_ask hask
    refine ⟨id, hconfigured, hdesired, fun hsound x hx => ?_⟩
    rw [List.mem_singleton] at hx
    subst hx
    exact .inl ⟨hactual, NickSearch.byteLength_le_iff_of_ask hask (hpos.trans_le hsound)⟩
  | cut hlong _ hmax =>
    rw [hlong]
    exact ⟨fun _ => hmax ▸ le_max_right _ _, rfl, rfl, fun _ _ hx => absurd hx List.not_mem_nil⟩
  | restarted hlong _ hmax =>
    rw [hlong]
    have hsound := hmax ▸ le_max_right _ minMaxNick
    refine ⟨fun _ => hsound, rfl, rfl, fun _ x hx => ?_⟩
    rw [List.mem_singleton] at hx
    subst hx
    exact asks_reset st.nick st.ready hsound
  | reclaimed hreply _ hwants =>
    rw [Message.refusesLong_of_ne (by simp [hreply])]
    exact ⟨id, rfl, rfl, fun _ x hx => .inr ⟨hwants, (List.mem_singleton.1 hx).symm⟩⟩
  | renamed hrenames =>
    rw [Message.refusesLong_of_ne (by simp [hrenames.1])]
    exact pursues_of_nil id rfl rfl
  | nothing _ hlong =>
    rw [hlong]
    exact pursues_refl st

/-- A deed cuts the nick wanted to the limit that is known after it, or leaves that nick. -/
lemma pursues_perform (st : Standing) (d : Deed) : st.Pursues d.cuts (st.perform d, []) := by
  have hnone : ∀ x ∈ ([] : List Text), (st.perform d).Asks x := fun _ hx => absurd hx List.not_mem_nil
  cases d with
  | hear line =>
    obtain ⟨hsound, hconfigured, hdesired, -⟩ :=
      (st.change_hear (Message.ofLine st.nick.actual line)).pursues
    exact ⟨hsound, hconfigured, hdesired, fun _ => hnone⟩
  | register wire => exact ⟨id, rfl, rfl, fun _ => hnone⟩
  | resetNick => exact ⟨id, rfl, rfl, fun _ => hnone⟩
  | _ => exact ⟨id, rfl, rfl, fun _ => hnone⟩

end Standing

/-! ### One deed -/

namespace Seat

variable {s t : Seat} {now : Time} {d : Deed} {x : Text} {nicks : List Text}

/-- The nicks that a session asks for on the way from one seat to another, in the lines behind those
that waited before. -/
def asked (s t : Seat) : List Text :=
  (t.session.outbox.lines.drop s.session.outbox.lines.length).filterMap Command.askedNick?

lemma Puts.asked_eq (h : s.Puts nicks t) : s.asked t = nicks := by
  obtain ⟨lines, hlines, rfl⟩ := h
  rw [asked, hlines, List.drop_left]

/-- Nothing is asked for by a session that only takes lines from its queue. -/
lemma asked_eq_nil (h : t.session.outbox.lines.length ≤ s.session.outbox.lines.length) :
    s.asked t = [] := by
  rw [asked, List.drop_eq_nil_of_le h, List.filterMap_nil]

lemma asks_askAgain (s : Seat) (now : Time) :
    ∀ x ∈ s.asked (s.askAgain now), (s.askAgain now).standing.Asks x := by
  obtain ⟨nicks, hstands, hnicks⟩ := s.stands_askAgain now
  intro x hx
  rw [hstands.puts.asked_eq] at hx
  rw [hstands.standing]
  rcases hnicks with rfl | ⟨hwants, rfl⟩
  · cases hx
  · exact .inr ⟨hwants, (List.mem_singleton.1 hx).symm⟩

lemma length_flushLines_le (s : Seat) (o : Outlet) (lines : List Text) :
    (s.flushLines o lines).1.session.outbox.lines.length ≤ lines.length := by
  obtain ⟨journal, rest, hsuffix, h⟩ := s.flushLines_eq o lines
  rw [h]
  exact hsuffix.length_le

lemma asks_sendOne (s : Seat) (o : Outlet) (now : Time) :
    ∀ x ∈ s.asked (s.sendOne o now).1, (s.sendOne o now).1.standing.Asks x := by
  intro x hx
  cases hdue : s.due? now with
  | some due =>
    -- a line that is sent leaves one of the queues, and none is put in
    obtain ⟨origin, line⟩ := due
    obtain ⟨hfront, hother⟩ := (sendOne_of_due hdue o).1
    have hlength : (s.sendOne o now).1.session.outbox.lines.length ≤
        s.session.outbox.lines.length := by
      cases origin with
      | own =>
        show ((s.sendOne o now).1.waiting .own).lines.length ≤ (s.waiting .own).lines.length
        rw [hfront]
        exact Nat.le_succ _
      | shared =>
        show ((s.sendOne o now).1.waiting .own).lines.length ≤ (s.waiting .own).lines.length
        rw [hother .own (by simp)]
    rw [asked_eq_nil hlength] at hx
    cases hx
  | none =>
    rw [sendOne_eq_of_not_due hdue] at hx ⊢
    dsimp only at hx ⊢
    split at hx
    · next hready =>
      rw [if_pos hready]
      exact asks_askAgain s now x hx
    · rw [asked_eq_nil le_rfl] at hx
      cases hx

/-- What a deed asks for is an attempt made just then, or the nick wanted. -/
lemma asks_perform (hsound : s.standing.Sound) (now : Time) (d : Deed)
    (hx : x ∈ s.asked (s.perform now d).1) : (s.perform now d).1.standing.Asks x := by
  have hnone : ∀ {t : Seat}, s.Puts [] t → x ∉ s.asked t := by
    intro t hputs
    rw [hputs.asked_eq]
    exact List.not_mem_nil
  cases d with
  | hear line =>
    have hstands := s.stands_hear now line
    rw [perform, hstands.puts.asked_eq] at hx
    rw [perform, hstands.standing]
    exact (Standing.change_hear _ _).pursues.asks hsound x hx
  | send wire =>
    rw [perform_send] at hx ⊢
    exact asks_sendOne s ⟨[], wire⟩ now x hx
  | flush wire =>
    rw [perform_flush, asked_eq_nil (s.length_flushLines_le ⟨[], wire⟩ _)] at hx
    cases hx
  | register wire =>
    rw [perform_register] at hx
    exact absurd hx (hnone (s.stands_register ⟨[], wire⟩ now).puts)
  | rejoin => exact absurd hx (hnone (s.rests_rejoinDue now).puts)
  | resetNick => exact absurd hx (hnone (.of_eq rfl))
  | disconnect => exact absurd hx (hnone (.of_eq rfl))
  | report state => exact absurd hx (hnone (.of_eq rfl))

end Seat

/-! ### A run -/

namespace Run

variable {r : Run} {i limit : Nat} {now : Time} {d : Deed} {e : Entry} {nick x : Text}
  {history : List Entry} {session : Session} {s : Seat} {c : Config} {hub : Hub}

/-- The nicks that a session asks for by a deed. -/
def asked (r : Run) (i : Nat) (now : Time) (d : Deed) : List Text :=
  match r.seat? i with
  | some s => s.asked (s.perform now d).1
  | none => []

/-- A session cuts the nick it wants. -/
def Entry.cuts (i : Nat) : Entry → Bool
  | .deed j _ d => j == i && d.cuts
  | .enqueue _ => false

/-- The limit that a session has last cut the nick it wants to; the first one is given. -/
def cutLimit (i : Nat) (r : Run) (limit : Nat) : List Entry → Nat
  | [] => limit
  | e :: history =>
    (r.advance e).cutLimit i (if e.cuts i then (r.advance e).hub.limits.maxNick else limit) history

/-- A session wants a nick, as much of it as the limit allows that it was last cut to. -/
structure Pursues (r : Run) (i : Nat) (nick : Text) (limit : Nat) : Prop where
  sound : minMaxNick ≤ r.hub.limits.maxNick
  least : minMaxNick ≤ limit
  wants : ∀ session, r.sessions[i]? = some session →
    session.nick.configured = nick ∧ session.nick.desired = cutNick nick limit

/-- No limit below the least one is ever learned. -/
lemma sound_act (h : minMaxNick ≤ r.hub.limits.maxNick) (j : Nat) (now : Time) (d : Deed) :
    minMaxNick ≤ (r.act j now d).1.hub.limits.maxNick := by
  cases hs : r.seat? j with
  | none => rwa [Run.act, hs]
  | some s =>
    have hsound := (s.standing.pursues_perform d).sound
    rw [← Seat.standing_perform s now d] at hsound
    rw [act_eq_settle hs]
    exact hsound (show minMaxNick ≤ s.hub.limits.maxNick by rwa [(seat?_eq_some_iff.1 hs).2])

lemma sound_after (h : minMaxNick ≤ r.hub.limits.maxNick) (history : List Entry) :
    minMaxNick ≤ (r.after history).hub.limits.maxNick := by
  refine keeps_after (P := fun r => minMaxNick ≤ r.hub.limits.maxNick) h fun r hr e _ => ?_
  cases e with
  | enqueue lines => exact hr
  | deed j now d => exact sound_act hr j now d

/-- A deed of one session cuts what that session wants, and leaves what the others want. -/
lemma Pursues.act (h : r.Pursues i nick limit) (j : Nat) (now : Time) (d : Deed) :
    (r.act j now d).1.Pursues i nick
      (if j == i && d.cuts then (r.act j now d).1.hub.limits.maxNick else limit) := by
  have hsound := sound_act h.sound j now d
  refine ⟨hsound, ?_, fun session hi => ?_⟩
  · split
    · exact hsound
    · exact h.least
  by_cases hji : j = i
  · subst hji
    rw [beq_self_eq_true, Bool.true_and]
    cases hs : r.seat? j with
    | none =>
      have hnone := seat?_eq_none_iff.1 hs
      rw [show (r.act j now d).1 = r by rw [Run.act, hs], List.getElem?_eq_none hnone] at hi
      cases hi
    | some s =>
      have hafter := seat?_act hs now d
      obtain ⟨hsession, hhub⟩ := seat?_eq_some_iff.1 hafter
      obtain rfl : (s.perform now d).1.session = session := Option.some.inj (hsession.symm.trans hi)
      obtain ⟨hconfigured, hdesired⟩ := h.wants s.session (seat?_eq_some_iff.1 hs).1
      have hpursues := s.standing.pursues_perform d
      rw [← Seat.standing_perform s now d] at hpursues
      refine ⟨hpursues.configured.trans hconfigured, hpursues.desired.trans ?_⟩
      rw [← hhub]
      split
      · exact congrArg (cutNick · _) hconfigured
      · exact hdesired
  · rw [sessions_act_of_ne r hji] at hi
    rw [beq_false_of_ne hji, Bool.false_and]
    exact h.wants session hi

lemma Pursues.advance (h : r.Pursues i nick limit) (e : Entry) :
    (r.advance e).Pursues i nick
      (if e.cuts i then (r.advance e).hub.limits.maxNick else limit) := by
  cases e with
  | enqueue lines => exact ⟨h.sound, h.least, h.wants⟩
  | deed j now d => exact h.act j now d

lemma Pursues.after (h : r.Pursues i nick limit) (history : List Entry) :
    (r.after history).Pursues i nick (r.cutLimit i limit history) := by
  induction history generalizing r limit with
  | nil => exact h
  | cons e history ih => exact ih (h.advance e)

/-- At first a session wants the nick of its configuration, which validation has found short
enough. -/
lemma pursues_begin (h : c.validate = .ok hub.config) (hlimit : minMaxNick ≤ hub.limits.maxNick)
    (start : Time) (i : Nat) :
    (begin hub start).Pursues i (hub.config.sessionNick i) defaultMaxNick := by
  refine ⟨hlimit, by decide, fun session hi => ?_⟩
  rw [begin, List.getElem?_map, Option.map_eq_some_iff] at hi
  obtain ⟨j, hj, rfl⟩ := hi
  obtain ⟨hlt, hj⟩ := List.getElem?_eq_some_iff.1 hj
  rw [List.length_range] at hlt
  rw [List.getElem_range] at hj
  subst hj
  have hfits := Config.byteLength_sessionNick_of_validate h hlt
  exact ⟨rfl, (cutNick_of_byteLength_le hfits).symm⟩

lemma exists_of_mem_asked (hsound : minMaxNick ≤ r.hub.limits.maxNick) (hx : x ∈ r.asked i now d) :
    ∃ session, (r.act i now d).1.sessions[i]? = some session ∧
      Standing.Asks ⟨session.nick, session.ready, (r.act i now d).1.hub.limits.maxNick⟩ x := by
  rw [asked] at hx
  cases hs : r.seat? i with
  | none =>
    rw [hs] at hx
    cases hx
  | some s =>
    rw [hs] at hx
    obtain ⟨hsession, hhub⟩ := seat?_eq_some_iff.1 hs
    have hlt : i < r.sessions.length := (List.getElem?_eq_some_iff.1 hsession).1
    have hseat : s.standing.Sound := by
      show minMaxNick ≤ s.hub.limits.maxNick
      rw [hhub]
      exact hsound
    rw [act_eq_settle hs]
    exact ⟨_, List.getElem?_set_self hlt, Seat.asks_perform hseat now d hx⟩

/-- **When the nicks asked for fit.**  Let a run begin with a valid configuration and go on in any
way, and let a session ask for a nick.  Either this is a new attempt, which it then goes by; it fits
the limit known then, unless its number alone has more digits than the limit allows bytes.  Or the
session is registered under another nick and asks for the one it wants once more, as it cut it last;
that fits if the limit has not gone down since. -/
theorem asked_fits (h : c.validate = .ok hub.config) (hlimit : minMaxNick ≤ hub.limits.maxNick)
    (start : Time) (history : List Entry) (i : Nat) (now : Time) (d : Deed)
    (hx : x ∈ ((begin hub start).after history).asked i now d) :
    let r' := (begin hub start).after (history ++ [.deed i now d])
    let limit := r'.hub.limits.maxNick
    let cut := (begin hub start).cutLimit i defaultMaxNick (history ++ [.deed i now d])
    minMaxNick ≤ limit ∧ ∃ session, r'.sessions[i]? = some session ∧
      ((session.nick.actual = x ∧ (x.byteLength ≤ limit ↔ session.nick.lastNumber < 10 ^ limit)) ∨
        (session.ready = true ∧ session.nick.hasDesired = false ∧
          x = cutNick (hub.config.sessionNick i) cut ∧ (cut ≤ limit → x.byteLength ≤ limit))) := by
  intro r' limit cut
  have hstart := pursues_begin h hlimit start i
  have hpursues := hstart.after (history ++ [.deed i now d])
  refine ⟨hpursues.sound, ?_⟩
  have hr' : r' = (((begin hub start).after history).act i now d).1 := after_append _ _ _
  obtain ⟨session, hsession, hasks⟩ := exists_of_mem_asked (hstart.after history).sound hx
  rw [← hr'] at hsession hasks
  refine ⟨session, hsession, ?_⟩
  rcases hasks with hnew | ⟨hwants, hdesired⟩
  · exact .inl hnew
  · rw [Standing.wants, Bool.and_eq_true, Bool.not_eq_true'] at hwants
    have hcut : x = cutNick (hub.config.sessionNick i) cut :=
      hdesired.symm.trans (hpursues.wants session hsession).2
    refine .inr ⟨hwants.1, hwants.2, hcut, fun hle => ?_⟩
    rw [hcut]
    exact (byteLength_cutNick_le hpursues.least).trans hle

/-- Two sessions: the network names the limit to the second one, and the first one heeds it when its
next attempt is refused. -/
theorem asked_fits_told_by_another :
    let c : Config := { Config.default with nick := "LongServerBotName", sessionCount := 2 }
    let history : List Entry := [
      .deed 0 0 (.hear ":irc.test 433 * LongServerBotName :Nickname is already in use"),
      .deed 1 1 (.hear ":irc.test 005 LongServerBotName2 NICKLEN=12 :are supported")]
    let d : Deed := .hear ":irc.test 433 * LongServerBotName_ :Nickname is already in use"
    c.validate = .ok c ∧ minMaxNick ≤ (Hub.fresh c).limits.maxNick ∧
      ((begin (.fresh c) 0).after history).asked 0 2 d = [("LongServerB1" : Text)] ∧
      ∃ session, ((begin (.fresh c) 0).after (history ++ [.deed 0 2 d])).sessions[0]? = some session ∧
        session.nick.actual = ("LongServerB1" : Text) := by
  intro c history d
  have hvalid : c.validate = .ok (Hub.fresh c).config := by decide
  have hlimit : minMaxNick ≤ (Hub.fresh c).limits.maxNick := by decide
  have hasked : ((begin (.fresh c) 0).after history).asked 0 2 d = [("LongServerB1" : Text)] := by decide
  obtain ⟨-, session, hsession, hnew | hwants⟩ := asked_fits hvalid hlimit 0 history 0 2 d
    (by rw [hasked]; exact List.mem_singleton_self _)
  · exact ⟨hvalid, hlimit, hasked, session, hsession, hnew.1⟩
  · -- the session is not registered
    have hready : session.ready = false := by
      have := congrArg (Option.map Session.ready) hsession
      exact (Option.some.inj this).symm
    rw [hready] at hwants
    cases hwants.1

/-- The network registers a session under as much of its nick as it allows, and names the limit only
then.  As soon as the session has nothing else to send, it asks for the whole nick again. -/
theorem asked_over_limit :
    let c : Config := { Config.default with nick := "LongServerBotName" }
    let r : Run := (begin (.fresh c) 0).after [
      .deed 0 0 (.hear ":irc.test 001 LongServe :Welcome"),
      .deed 0 0 (.hear ":irc.test 005 LongServe NICKLEN=9 :are supported"),
      .deed 0 0 (.send .free), .deed 0 750 (.send .free)]
    c.validate = .ok c ∧ r.asked 0 31500 (.send .free) = [("LongServerBotName" : Text)] ∧
      (r.act 0 31500 (.send .free)).1.hub.limits.maxNick = 9 ∧
      Text.byteLength "LongServerBotName" = 17 :=
  ⟨rfl, by decide, by decide, by decide⟩

end Run
end ChatLink
