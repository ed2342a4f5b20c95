/-
# Asking for the wanted nick again

A session under another nick than it wants asks for the wanted one when it has nothing else to do.
It also asks for it when the holder of the nick leaves, and a welcome gives it a new start; all three
are noted as one time.  So an idle session asks only if the delay is over since each of them, and of
all else that it keeps, asking changes its own queue only.  Main statement: `idle_request`.
-/
import Mathlib
import ChatLink.Proofs.Message.Traffic
import ChatLink.Proofs.Session.Spacing
import ChatLink.Proofs.Session.Timing

namespace ChatLink.Seat

variable {s u : Seat} {now t : Time} {wire : Wire} {e : Turn} {turns early later : List Turn}

/-! ### Idle requests -/

/-- A session that is asked to send puts a line into its own queue instead. -/
def AsksIdle (u : Seat) (now : Time) (wire : Wire) : Prop :=
  ∃ line, (u.perform now (.send wire)).1.session.outbox.lines =
    u.session.outbox.lines ++ [line]

lemma perform_of_idles (h : u.idles now = true) (wire : Wire) :
    u.perform now (.send wire) = (u.ask now, ⟨[], none, some (.ok false)⟩) := by
  rw [perform_send, sendOne_of_idles h]

/-- That is when it asks for its nick, and at no other time. -/
lemma asksIdle_iff : u.AsksIdle now wire ↔ u.idles now = true := by
  refine ⟨fun ⟨line, hline⟩ => ?_, fun h => ⟨Command.nick u.desired, by rw [perform_of_idles h]; rfl⟩⟩
  by_contra hnot
  have hlength := congrArg List.length hline
  rw [perform_send, List.length_append, List.length_singleton] at hlength
  rcases sendOne_of_not_idles (Bool.eq_false_iff.2 hnot) ⟨[], wire⟩ with
    ⟨origin, line', hdue⟩ | hnothing
  · -- a line is taken, and none comes in its place
    obtain ⟨journal, hsend⟩ := sendOne_eq_of_due hdue ⟨[], wire⟩
    rw [hsend] at hlength
    cases origin with
    | own =>
      have htail : u.session.outbox.lines.tail.length = u.session.outbox.lines.length + 1 := hlength
      rw [List.length_tail] at htail
      omega
    | shared => exact absurd hlength (Nat.ne_of_lt (Nat.lt_succ_self _))
  · rw [hnothing] at hlength
    exact absurd hlength (Nat.ne_of_lt (Nat.lt_succ_self _))

/-! ### What is noted -/

/-- What a session counts the delay from: it asks for its nick while it is idle, it is welcome, or it
asks for its nick because someone leaves the network. -/
inductive Marks (u : Seat) (t : Time) : Turn → Prop where
  | idle (wire : Wire) : u.AsksIdle t wire → Marks u t (.deed t (.send wire))
  | welcome (line : Text) : (Message.ofLine u.actual line).replyCode = some .welcome →
      Marks u t (.deed t (.hear line))
  | quit (line : Text) : (Message.ofLine u.actual line).kind = .quit →
      (u.perform t (.hear line)).1.session.outbox.lines =
        u.session.outbox.lines ++ [Command.nick u.desired] →
      Marks u t (.deed t (.hear line))

/-- When a turn takes place. -/
def Turn.time? : Turn → Option Time
  | .deed now _ => some now
  | .beside _ _ => none

/-- Someone leaves, and the session asks for its nick: it wants the nick, and that was the holder. -/
lemma marks_of_quit {line : Text} (hkind : (Message.ofLine u.actual line).kind = .quit)
    (hlines : (u.hear now line).1.session.outbox.lines =
      u.session.outbox.lines ++ [Command.nick u.desired]) :
    u.standing.marks (Message.ofLine u.actual line) = true := by
  have hreply : (Message.ofLine u.actual line).replyCode = none :=
    Message.replyCode_of_isTraffic (by rw [hkind]; rfl)
  obtain ⟨lines, hputs, hnicks⟩ := (u.stands_hear now line).puts
  rw [hlines, List.append_cancel_left_eq] at hputs
  subst hputs
  rw [Standing.hear, hreply, hkind] at hnicks
  rw [Standing.marks, hreply, hkind]
  cases hnick : (Message.ofLine u.actual line).nick with
  | none =>
    rw [hnick] at hnicks
    cases hnicks
  | some nick =>
    rw [hnick] at hnicks
    have hquit : [u.desired] = u.standing.hearQuit nick := hnicks
    rw [Standing.hearQuit] at hquit
    split at hquit
    · next hwants => exact hwants
    · cases hquit

/-- The time is noted. -/
lemma Marks.noted (h : u.Marks t e) :
    e.time? = some t ∧ (u.turn e).session.lastNickRetry = t := by
  cases h with
  | idle wire hasks =>
    refine ⟨rfl, (congrArg Timing.lastNickRetry (u.timing_perform t (.send wire))).trans ?_⟩
    dsimp only
    rw [if_pos (asksIdle_iff.1 hasks)]
  | welcome line hwelcome =>
    refine ⟨rfl, (congrArg Timing.lastNickRetry (u.timing_perform t (.hear line))).trans ?_⟩
    have hmarks : u.standing.marks (Message.ofLine u.actual line) = true := by
      rw [Standing.marks, hwelcome]
      rfl
    exact if_pos hmarks
  | quit line hkind hlines =>
    refine ⟨rfl, (congrArg Timing.lastNickRetry (u.timing_perform t (.hear line))).trans ?_⟩
    exact if_pos (marks_of_quit hkind hlines)

/-- A turn leaves what was noted, or notes its own time. -/
lemma lastNickRetry_turn (u : Seat) (e : Turn) :
    (u.turn e).session.lastNickRetry = u.session.lastNickRetry ∨
      e.time? = some (u.turn e).session.lastNickRetry := by
  cases e with
  | beside hub outbox => exact .inl rfl
  | deed now d =>
    have htiming : (u.turn (.deed now d)).session.lastNickRetry = _ :=
      congrArg Timing.lastNickRetry (u.timing_perform now d)
    rw [htiming]
    cases d with
    | hear line =>
      dsimp only [timingAfter]
      split
      · exact .inr rfl
      · exact .inl rfl
    | send wire =>
      dsimp only
      split
      · exact .inr rfl
      · exact .inl rfl
    | register | flush | rejoin | resetNick | disconnect | report => exact .inl rfl

/-- What is noted does not go back before a time, as long as the clock does not. -/
lemma le_lastNickRetry_after (h : t ≤ s.session.lastNickRetry)
    (hclock : ∀ t' ∈ later.filterMap Turn.time?, t ≤ t') :
    t ≤ (s.after later).session.lastNickRetry := by
  refine keeps_after (P := fun u => t ≤ u.session.lastNickRetry) h fun u hu e he => ?_
  rcases u.lastNickRetry_turn e with hsame | hnoted
  · rwa [hsame]
  · exact hclock _ (List.mem_filterMap.2 ⟨e, he, hnoted⟩)

/-- **When an idle session asks for its nick.**  In any run whose clock does not go back, let a session
be asked to send and put a line into its own queue instead.  Then it is registered under another nick
than it wants, nothing waits to be sent, and the limiter would let a line through.  The delay is over
since each time before at which it asked idly, was welcome, or asked because the holder of the nick
left.  The line asks for the wanted nick; nothing is written, and what all sessions share and the
limiter stay as they are. -/
theorem idle_request (hclock : (turns.filterMap Turn.time? ++ [now]).Pairwise (· ≤ ·))
    (hasks : (s.after turns).AsksIdle now wire) :
    let u := s.after turns
    let v := (u.perform now (.send wire)).1
    (u.session.ready = true ∧ Text.sameName u.actual u.desired = false ∧
      u.session.outbox.lines = [] ∧ u.hub.queue.lines = [] ∧
      u.session.limiter.ready now = true) ∧
    (∀ (early later : List Turn) (e : Turn) (t : Time), turns = early ++ e :: later →
      (s.after early).Marks t e → t + u.hub.config.nickRetryDelay ≤ now) ∧
    v.session.outbox.lines = [Command.nick u.desired] ∧
    (u.perform now (.send wire)).2 = ⟨[], none, some (.ok false)⟩ ∧
    v.session.limiter = u.session.limiter ∧ v.hub = u.hub := by
  intro u v
  have hidles : u.idles now = true := asksIdle_iff.1 hasks
  have hask : u.perform now (.send wire) = (u.ask now, ⟨[], none, some (.ok false)⟩) :=
    perform_of_idles hidles wire
  simp only [idles, Bool.and_eq_true, List.isEmpty_iff, decide_eq_true_eq] at hidles
  obtain ⟨⟨⟨⟨hwants, hlimiter⟩, houtbox⟩, hqueue⟩, hdelay⟩ := hidles
  rw [Standing.wants, Bool.and_eq_true, Bool.not_eq_true'] at hwants
  refine ⟨⟨hwants.1, hwants.2, houtbox, hqueue, hlimiter⟩, ?_, ?_, by rw [hask], ?_, ?_⟩
  · rintro early later e t rfl hmarks
    obtain ⟨htime, hnoted⟩ := hmarks.noted
    -- the clock does not go back behind the time that was noted
    have hlater : ∀ t' ∈ later.filterMap Turn.time? ++ [now], t ≤ t' := by
      rw [List.filterMap_append, List.filterMap_cons_some htime, List.append_assoc,
        List.cons_append, List.pairwise_append] at hclock
      exact (List.pairwise_cons.1 hclock.2.1).1
    have hlast : t ≤ u.session.lastNickRetry := by
      rw [show u = _ from s.after_append early (e :: later), after_cons]
      exact le_lastNickRetry_after hnoted.ge fun t' ht' => hlater t' (List.mem_append_left _ ht')
    have hnow : t ≤ now := hlater now (List.mem_append_right _ (List.mem_singleton_self now))
    rcases Nat.eq_zero_or_pos u.hub.config.nickRetryDelay with hzero | hpos
    · rwa [hzero, Nat.add_zero]
    · have hpast : u.session.lastNickRetry < now := Nat.lt_of_sub_pos (hpos.trans_le hdelay)
      exact (Nat.add_le_add_right hlast _).trans (Nat.add_le_of_le_sub' hpast.le hdelay)
  · show (u.perform now (.send wire)).1.session.outbox.lines = _
    rw [hask]
    show u.session.outbox.lines ++ [Command.nick u.desired] = _
    rw [houtbox, List.nil_append]
  · show (u.perform now (.send wire)).1.session.limiter = _
    rw [hask]
    rfl
  · show (u.perform now (.send wire)).1.hub = _
    rw [hask]
    rfl

/-- A session that was welcome under another nick than it wants has sent all that waits, and asks for
its nick as soon as the delay is over since the welcome. -/
theorem idle_request_welcome :
    let turns : List Turn := [.deed 0 (.hear ":irc.test 001 Other :Welcome"),
      .deed 1000 (.send .free), .deed 2000 (.send .free), .deed 3000 (.send .free)]
    let s : Seat := ⟨.fresh .default 0 0, .fresh .default⟩
    (turns.filterMap Turn.time? ++ [30000]).Pairwise (· ≤ ·) ∧
      (s.after turns).AsksIdle 30000 .free ∧
      ((s.after turns).perform 30000 (.send .free)).1.session.outbox.lines =
        [("NICK ServerBot" : Text)] ∧
      ¬ (s.after turns).AsksIdle 29999 .free := by
  intro turns s
  have hclock : ∀ now, 3000 ≤ now → (turns.filterMap Turn.time? ++ [now]).Pairwise (· ≤ ·) := by
    intro now hnow
    show ([0, 1000, 2000, 3000, now] : List Nat).Pairwise (· ≤ ·)
    have hlater : ∀ t ≤ 3000, t ≤ now := fun t ht => ht.trans hnow
    simp [hlater]
  have hasks : (s.after turns).AsksIdle 30000 .free := asksIdle_iff.2 (by decide +kernel)
  obtain ⟨-, -, hlines, -⟩ := idle_request (hclock 30000 (by decide)) hasks
  refine ⟨hclock 30000 (by decide), hasks, ?_, fun hearly => ?_⟩
  · rw [hlines]
    decide +kernel
  · obtain ⟨-, hdelay, -⟩ := idle_request (hclock 29999 (by decide)) hearly
    have hwelcome := hdelay [] turns.tail _ 0 rfl (.welcome ":irc.test 001 Other :Welcome" (by decide))
    exact absurd hwelcome (by decide +kernel)

end ChatLink.Seat
