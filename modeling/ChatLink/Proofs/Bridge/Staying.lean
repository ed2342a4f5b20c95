/-
# Nothing but a stop makes a session leave

Whatever the network sends and whatever is said in the game, the lines that come into the queues are
commands of a connection that goes on.  So as long as a bridge is not asked to stop, no line by
which a session would leave the network waits anywhere, and no session gives up its connection as
one does that has left.  Main statement: `never_leaves`.
-/
import Mathlib
import ChatLink.Proofs.Bridge.Lifecycle
import ChatLink.Proofs.Session.Attempts

namespace ChatLink

namespace Seat

variable {s t : Seat} {now : Time}

/-- Nothing that waits for the session to send it leaves the network. -/
structure Ongoing (s : Seat) : Prop where
  own : ∀ line ∈ s.session.outbox.lines, Command.IsOngoing line
  shared : ∀ line ∈ s.hub.queue.lines, Command.IsOngoing line

lemma Ongoing.acts (h : s.Ongoing) (hact : s.Acts t) : t.Ongoing where
  own := by
    obtain ⟨lines, hlines, heq⟩ := hact.outbox_eq
    rw [heq]
    exact List.forall_mem_append.2 ⟨h.own, hlines⟩
  shared := by
    rw [hact.queue_eq]
    exact h.shared

lemma Ongoing.waiting (h : s.Ongoing) (origin : Origin) :
    ∀ line ∈ (s.waiting origin).lines, Command.IsOngoing line := by
  cases origin with
  | own => exact h.own
  | shared => exact h.shared

lemma Ongoing.sendOne (h : s.Ongoing) (o : Outlet) (now : Time) : (s.sendOne o now).1.Ongoing := by
  cases hdue : s.due? now with
  | none => exact h.acts (sendOne_of_not_due hdue o).1
  | some due =>
    obtain ⟨origin, line⟩ := due
    obtain ⟨journal, heq⟩ := sendOne_eq_of_due hdue o
    rw [heq]
    cases origin with
    | own => exact ⟨fun line hline => h.own line (List.mem_of_mem_tail hline), h.shared⟩
    | shared => exact ⟨h.own, fun line hline => h.shared line (List.mem_of_mem_tail hline)⟩

/-- Whatever a session does, it puts nothing into a queue by which it would leave. -/
lemma Ongoing.perform (h : s.Ongoing) (now : Time) (d : Deed) : (s.perform now d).1.Ongoing := by
  cases d with
  | register wire =>
    obtain ⟨journal, limiter, -, heq⟩ := s.register_eq ⟨[], wire⟩ now
    rw [perform_register, heq]
    exact ⟨h.own, h.shared⟩
  | hear line => exact h.acts (Acts.refl.hear now line)
  | send wire =>
    rw [perform_send]
    exact h.sendOne ⟨[], wire⟩ now
  | flush wire =>
    obtain ⟨journal, rest, hsuffix, heq⟩ := s.flushLines_eq ⟨[], wire⟩ s.session.outbox.lines
    rw [perform_flush, heq]
    exact ⟨fun line hline => h.own line (hsuffix.subset hline), h.shared⟩
  | rejoin => exact h.acts (Acts.refl.rejoinDue now)
  | resetNick | disconnect | report => exact ⟨h.own, h.shared⟩

lemma Ongoing.goes (h : s.Ongoing) (hgo : s.Goes t) : t.Ongoing := by
  induction hgo with
  | refl => exact h
  | deed now _ _ ih => exact ih.perform now _
  | beside _ _ _ ih => exact ⟨ih.own, ih.shared⟩

/-- A session that sends what waits does not leave. -/
lemma Ongoing.sendOne_ne_leaving (h : s.Ongoing) (o : Outlet) (now : Time) :
    (s.sendOne o now).2.2 ≠ .ok true := by
  cases hdue : s.due? now with
  | none =>
    rw [(sendOne_of_not_due hdue o).2]
    simp
  | some due =>
    obtain ⟨origin, line⟩ := due
    have hline : line ∈ (s.waiting origin).lines := by
      rw [(lines_of_due hdue).1]
      exact List.mem_cons_self
    rw [(sendOne_of_due hdue o).2, (h.waiting origin line hline).isQuit_eq_false]
    cases written (o.send line).2 <;> simp [Except.map]

/-! ### Exits -/

lemma nickRefused_ne_shutdown (s : Seat) (m : Message) : (s.nickRefused m).2 ≠ some .shutdown := by
  rw [nickRefused]
  split
  · simp
  split
  · simp
  · simp

lemma userKilled_ne_shutdown (s : Seat) (m : Message) : (s.userKilled m).2 ≠ some .shutdown := by
  rw [userKilled]
  split
  · split
    · simp
    · simp
  · simp

/-- No line makes a session give up its connection as one that has left. -/
lemma hear_ne_shutdown (s : Seat) (now : Time) (line : Text) :
    (s.hear now line).2 ≠ some .shutdown := by
  rw [hear]
  split
  · rw [hearReply]
    split_ifs
    · simp
    · simp
    · simp
    · simp
    · exact nickRefused_ne_shutdown _ _
    · simp
    · simp
  · rw [hearMessage]
    split
    case h_3 => exact userKilled_ne_shutdown _ _
    all_goals simp

/-- A worker of a bridge that is not stopping ends no attempt as one that has left. -/
lemma Ongoing.ending?_ne_shutdown (h : s.Ongoing) (now : Time) (a : Activity) (e : Stimulus) :
    s.ending? false now a e ≠ some (.exit .shutdown) := by
  have hhear : ∀ line, (s.hear now line).2.map Ending.exit ≠ some (.exit .shutdown) := by
    intro line heq
    obtain ⟨why, hwhy, hexit⟩ := Option.map_eq_some_iff.1 heq
    cases hexit
    exact s.hear_ne_shutdown now line hwhy
  rw [ending?.eq_def]
  split
  · split
    · next hstopping => cases hstopping
    · split <;> simp
  · simp
  · next wire =>
    have hrejoin : (s.rejoinDue now).Ongoing := h.acts (Acts.refl.rejoinDue now)
    split
    · next hstopping => cases hstopping
    · split
      · simp
      · next hleaving => exact absurd hleaving (hrejoin.sendOne_ne_leaving _ now)
      · simp
  · exact hhear _
  · simp
  · split
    · exact hhear _
    · simp
  · simp

end Seat

namespace Bridge

variable {b b' : Bridge} {m : Move} {i : Nat} {w : Worker} {x : Step}

/-- No line that waits anywhere leaves the network, and the workers of a bridge that does not run do
not even begin. -/
structure Stays (b : Bridge) : Prop where
  running : ∀ w ∈ b.workers, b.running = true ∨ w.activity = .starting ∨ w.activity = .stopped
  own : ∀ w ∈ b.workers, ∀ line ∈ w.session.outbox.lines, Command.IsOngoing line
  shared : ∀ line ∈ b.hub.queue.lines, Command.IsOngoing line

lemma Stays.ongoing (h : b.Stays) (hw : w ∈ b.workers) : (w.seat b.hub).Ongoing :=
  ⟨h.own w hw, h.shared⟩

lemma Stays.settle (h : b.Stays) (hw : b.workers[i]? = some w) (hgo : (w.seat b.hub).Goes x.seat)
    (hx : b.running = true ∨ x.activity = .starting ∨ x.activity = .stopped) :
    (b.settle i x).1.Stays := by
  have hmem : w ∈ b.workers := List.mem_of_getElem? hw
  have hongoing : x.seat.Ongoing := (h.ongoing hmem).goes hgo
  refine ⟨fun v hv => ?_, fun v hv => ?_, hongoing.shared⟩
  · rcases List.mem_or_eq_of_mem_set hv with hv | rfl
    · exact h.running v hv
    · exact hx
  · rcases List.mem_or_eq_of_mem_set hv with hv | rfl
    · exact h.own v hv
    · exact hongoing.own

/-- A worker that is told to stop before it begins does nothing else. -/
lemma activity_step_of_idle {s : Seat} {a : Activity} (ha : a = .starting ∨ a = .stopped)
    (now : Time) (e : Stimulus) :
    (s.step true now a e).activity = .starting ∨ (s.step true now a e).activity = .stopped := by
  rcases ha with rfl | rfl <;> cases e <;> simp [Seat.step, Seat.begin, Seat.stop]

lemma Stays.step (h : b.Stays) (i : Nat) (now : Time) (e : Stimulus) :
    (b.step i now e).1.Stays := by
  rw [Bridge.step]
  split
  · next w hw =>
    refine h.settle hw (Seat.goes_step _ _ now w.activity e) ?_
    rcases hrunning : b.running
    · have hidle := (h.running w (List.mem_of_getElem? hw)).resolve_left (by simp [hrunning])
      exact .inr (activity_step_of_idle hidle now e)
    · exact .inl rfl
  · exact h

lemma Stays.windDown (h : b.Stays) (i : Nat) : (b.windDown i).1.Stays := by
  rw [Bridge.windDown]
  split
  · next w hw =>
    refine h.settle hw (Seat.goes_windDown _ w.activity) (.inr (.inr ?_))
    cases w.activity <;> rfl
  · exact h

lemma Stays.speak (h : b.Stays) (hlines : b.Says b') : b'.Stays := by
  obtain ⟨lines, journal, rfl, hlines, -⟩ := hlines
  exact ⟨h.running, h.own, List.forall_mem_append.2 ⟨h.shared, hlines⟩⟩

lemma stays_fresh {hub : Hub} {c : Config} {now : Time} {count : Nat} (running : Bool)
    (h : ∀ line ∈ hub.queue.lines, Command.IsOngoing line) :
    Stays ⟨hub, running, freshWorkers c now count⟩ := by
  refine ⟨fun w hw => .inr (.inl ?_), fun w hw line hline => ?_, h⟩
  · obtain ⟨i, -, rfl⟩ := List.mem_map.1 hw
    rfl
  · rw [outbox_of_mem_freshWorkers hw] at hline
    cases hline

/-- No move but a stop brings a line into a queue by which a session would leave. -/
lemma Stays.turn (h : b.Stays) (hstop : ∀ reason, m ≠ .stop reason) : (b.turn m).1.Stays := by
  by_cases hm : m.isSaying = true
  · exact h.speak (b.says_turn hm).1
  cases m with
  | message | action | chat | announce => exact absurd rfl hm
  | start now shortage =>
    have hstart := b.starting now shortage
    rw [Bridge.turn]
    generalize (b.start now shortage).1 = b', (b.start now shortage).2 = answer at hstart ⊢
    cases hstart with
    | disabled | already => exact h
    | short | begun => exact stays_fresh _ h.shared
  | stop reason => exact absurd rfl (hstop reason)
  | step i now e => exact h.step i now e
  | windDown i =>
    show (if b.running then b else (b.windDown i).1).Stays
    split
    · exact h
    · exact h.windDown i

lemma Stays.after {moves : List Move} (h : b.Stays) (hstop : ∀ reason, .stop reason ∉ moves) :
    (b.after moves).Stays :=
  keeps_after h fun _ hb _ hm => hb.turn fun reason heq => hstop reason (heq ▸ hm)

lemma stays_ofConfig {c : Config} (h : ofConfig c = .ok b) : b.Stays := by
  rw [ofConfig] at h
  split at h
  · cases h
    exact ⟨by simp, by simp, by simp [Hub.fresh]⟩
  · cases h

/-- **Nothing but a stop makes a session leave.**  Let anything happen to a bridge but that it is
asked to stop: any lines from the network, any failures, any texts from the game.  Then no line by
which a session would leave the network waits in the queue that all share or in a queue of a
session's own; no session that sends a line answers that it has left; and none of its next steps
ends the connection as one that has been left. -/
theorem never_leaves {c : Config} {b₀ : Bridge} {moves : List Move} (h : ofConfig c = .ok b₀)
    (hstop : ∀ reason, .stop reason ∉ moves) :
    let b := b₀.after moves
    (∀ line ∈ b.hub.queue.lines, Command.isQuit line = false) ∧
    ∀ w ∈ b.workers, (∀ line ∈ w.session.outbox.lines, Command.isQuit line = false) ∧
      (∀ o now, ((w.seat b.hub).sendOne o now).2.2 ≠ .ok true) ∧
      ∀ now e, (w.seat b.hub).ending? (!b.running) now w.activity e ≠ some (.exit .shutdown) := by
  intro b
  have hstays : b.Stays := (stays_ofConfig h).after hstop
  refine ⟨fun line hline => (hstays.shared line hline).isQuit_eq_false, fun w hw => ?_⟩
  have hongoing := hstays.ongoing hw
  refine ⟨fun line hline => (hstays.own w hw line hline).isQuit_eq_false,
    hongoing.sendOne_ne_leaving, fun now e => ?_⟩
  rcases hstays.running w hw with hrunning | ha | ha
  · rw [hrunning]
    exact hongoing.ending?_ne_shutdown now w.activity e
  · rw [ha]
    cases e <;> simp [Seat.ending?]
  · rw [ha]
    cases e <;> simp [Seat.ending?]

/-- The network asks for an answer that reads like leaving and refuses a nick so, and a player says
such a thing twice in one text: no line of it leaves the network. -/
theorem never_leaves_provoked :
    let moves : List Move := [
      .start 0 none, .step 0 0 .proceed, .step 0 1 (.connected .free), .step 0 2 .proceed,
      .step 0 3 (.heard (.ok (some "PING :QUIT"))), .step 0 4 .proceed,
      .step 0 5 (.heard (.ok (some ":irc.test 433 * ServerBot :QUIT"))), .step 0 6 .proceed,
      .chat .everyone "QUIT :" "QUIT :bye&nQUIT"]
    ∃ b₀, ofConfig .default = .ok b₀ ∧ (∀ reason, .stop reason ∉ moves) ∧
      ∃ w ∈ (b₀.after moves).workers,
        w.session.outbox.lines = [("PONG :QUIT" : Text), ("NICK ServerBot_" : Text)] ∧
        ((w.seat (b₀.after moves).hub).sendOne ⟨[], .free⟩ 750).2.2 ≠ .ok true := by
  intro moves
  have hconfig : ofConfig .default = .ok ⟨.fresh .default, false, []⟩ := by decide
  have hstop : ∀ reason, .stop reason ∉ moves := by simp [moves]
  obtain ⟨-, hworkers⟩ := never_leaves hconfig hstop
  have hlines : ∀ w ∈ ((⟨.fresh .default, false, []⟩ : Bridge).after moves).workers,
      w.session.outbox.lines = [("PONG :QUIT" : Text), ("NICK ServerBot_" : Text)] := by
    decide
  have hsome : ((⟨.fresh .default, false, []⟩ : Bridge).after moves).workers ≠ [] := by decide
  obtain ⟨w, hw⟩ := List.exists_mem_of_ne_nil _ hsome
  exact ⟨_, hconfig, hstop, w, hw, hlines w hw, (hworkers w hw).2.1 _ _⟩

end Bridge
end ChatLink
