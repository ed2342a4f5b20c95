/-
# The end of a session's writing

A session leaves the network with a line of its queue: when the bridge is stopped it sends the queue
at once, up to that line, and otherwise the line comes to its turn like any other.  Either way its
worker has stopped then.  A worker that has stopped does not write again, whatever happens around it,
until the bridge is started and begins with new workers.  Main statement: `last_writes`.
-/
import Mathlib
import ChatLink.Proofs.Bridge.Lifecycle
import ChatLink.Proofs.Session.Flushing

namespace ChatLink

namespace Seat

variable {s : Seat} {now : Time} {wire : Wire}

lemma step_stopped (s : Seat) (stopping : Bool) (now : Time) (e : Stimulus) :
    s.step stopping now .stopped e = ⟨s, .stopped, []⟩ := by
  cases e <;> rfl

/-- A session that flushes its queue is done. -/
lemma send_stopping (s : Seat) (wire : Wire) (now : Time) :
    (s.send true wire now).written = (s.flush ⟨[], wire⟩).2.sent ∧
      (s.send true wire now).activity = .stopped := by
  rw [send, if_pos rfl]
  exact ⟨List.append_nil _, rfl⟩

/-- So is a session that sends a line by which it leaves the network. -/
lemma send_quit (h : ((s.rejoinDue now).sendOne ⟨[], wire⟩ now).2.2 = .ok true) :
    (s.send false wire now).written =
        ((s.rejoinDue now).sendOne ⟨[], wire⟩ now).2.1.sent ∧
      (s.send false wire now).activity = .stopped := by
  rw [send, if_neg Bool.false_ne_true]
  generalize (s.rejoinDue now).sendOne ⟨[], wire⟩ now = next at h
  obtain ⟨t, o, answer⟩ := next
  dsimp only at h
  subst h
  exact ⟨List.append_nil _, rfl⟩

end Seat

namespace Bridge

variable {b b' : Bridge} {i : Nat} {w : Worker} {m : Move} {x : Step} {later : List Move}

/-! ### A worker that has stopped -/

/-- The worker has stopped. -/
def Stopped (b : Bridge) (i : Nat) : Prop :=
  ∃ w, b.workers[i]? = some w ∧ w.activity = .stopped

lemma stopped_settle (hw : b.workers[i]? = some w) (hx : x.activity = .stopped) :
    (b.settle i x).1.Stopped i :=
  ⟨.ofStep x, List.getElem?_set_self (List.getElem?_eq_some_iff.1 hw).1, hx⟩

namespace Stopped

/-- A worker that has stopped takes no step any more. -/
lemma step (h : b.Stopped i) (now : Time) (e : Stimulus) :
    (b.step i now e).2 = [] ∧ (b.step i now e).1.Stopped i := by
  obtain ⟨w, hw, ha⟩ := h
  rw [step_eq hw, ha, Seat.step_stopped]
  exact ⟨rfl, stopped_settle hw rfl⟩

lemma windDown (h : b.Stopped i) : (b.windDown i).2 = [] ∧ (b.windDown i).1.Stopped i := by
  obtain ⟨w, hw, ha⟩ := h
  rw [windDown_eq hw, ha]
  exact ⟨rfl, stopped_settle hw rfl⟩

/-- What another worker does leaves it as it is. -/
lemma settle_of_ne (h : b.Stopped i) {j : Nat} (hne : j ≠ i) (x : Step) :
    (b.settle j x).1.Stopped i := by
  obtain ⟨w, hw, ha⟩ := h
  exact ⟨w, (List.getElem?_set_ne hne).trans hw, ha⟩

lemma step_of_ne (h : b.Stopped i) {j : Nat} (hne : j ≠ i) (now : Time) (e : Stimulus) :
    (b.step j now e).1.Stopped i := by
  rw [Bridge.step]
  split
  · exact h.settle_of_ne hne _
  · exact h

lemma windDown_of_ne (h : b.Stopped i) {j : Nat} (hne : j ≠ i) :
    (b.windDown j).1.Stopped i := by
  rw [Bridge.windDown]
  split
  · exact h.settle_of_ne hne _
  · exact h

/-- Only a start puts another worker in its place. -/
lemma turn (h : b.Stopped i) (hstart : ∀ now shortage, m ≠ .start now shortage) :
    (b.turn m).1.Stopped i := by
  by_cases hm : m.isSaying = true
  · obtain ⟨⟨lines, journal, heq, -⟩, -⟩ := b.says_turn hm
    rw [heq]
    exact h
  cases m with
  | message | action | chat | announce => exact absurd rfl hm
  | start now shortage => exact absurd rfl (hstart now shortage)
  | stop reason =>
    rw [Bridge.turn]
    rcases b.stop_cases reason with ⟨-, heq⟩ | ⟨-, journal, heq⟩
    · rwa [heq]
    · obtain ⟨w, hw, ha⟩ := h
      rw [heq]
      exact ⟨dismiss w reason, by rw [List.getElem?_map, hw]; rfl, ha⟩
  | step j now e =>
    by_cases hj : j = i
    · exact hj ▸ (h.step now e).2
    · exact h.step_of_ne hj now e
  | windDown j =>
    show (if b.running then b else (b.windDown j).1).Stopped i
    split
    · exact h
    · by_cases hj : j = i
      · exact hj ▸ h.windDown.2
      · exact h.windDown_of_ne hj

lemma after (h : b.Stopped i) (hstart : ∀ now shortage, .start now shortage ∉ later) :
    (b.after later).Stopped i :=
  keeps_after (P := (Stopped · i)) h fun _ hb _ hm =>
    hb.turn fun now shortage heq => hstart now shortage (heq ▸ hm)

end Stopped

/-! ### The last that is written -/

/-- The worker has stopped, and nothing that it could be asked to do writes anything. -/
structure Silent (b : Bridge) (i : Nat) : Prop where
  stopped : b.Stopped i
  step : ∀ now e, (b.step i now e).2 = []
  windDown : (b.windDown i).2 = []

/-- A worker writes this, and nothing after it until the bridge is started again. -/
structure LastWrites (i : Nat) (after : Bridge × Bytes) (sent : Bytes) : Prop where
  written : after.2 = sent
  silent : ∀ later : List Move, (∀ now shortage, .start now shortage ∉ later) →
    (after.1.after later).Silent i

lemma lastWrites_settle {sent : Bytes} (hw : b.workers[i]? = some w)
    (h : x.written = sent ∧ x.activity = .stopped) : LastWrites i (b.settle i x) sent where
  written := h.1
  silent := fun later hlater => by
    have hstopped := (stopped_settle hw h.2).after hlater
    exact ⟨hstopped, fun now e => (hstopped.step now e).1, hstopped.windDown.1⟩

lemma lastWrites_windDown {wire : Wire} (hw : b.workers[i]? = some w)
    (ha : w.activity = .sending wire ∨ w.activity = .receiving wire) :
    LastWrites i (b.windDown i) ((w.seat b.hub).flush ⟨[], wire⟩).2.sent := by
  rw [windDown_eq hw]
  refine lastWrites_settle hw ?_
  rcases ha with ha | ha
  · rw [ha]
    exact Seat.send_stopping _ wire 0
  · rw [ha]
    exact Seat.send_stopping _ wire 0

/-- **What a session writes at its end.**  Whatever waits in its queue, and whatever the connection
does, a session that flushes takes lines from the front of its queue up to and including the first that
leaves the network or whose writing is an error, and all of them if there is none.  A line goes out with
its end, or is refused and leaves no trace, or the connection fails and a beginning of it goes out.  Of
the lines before the last this happens only where the failure passes for a line that is refused.  The
rest of the queue stays, and so does all else but the journal.  A worker that flushes its queue, or whose
turn came to send a line that leaves the network, has written its last with that. -/
theorem last_writes :
    (∀ (s : Seat) (o : Outlet), ∃ taken rest journal, (s.flush o).1 =
        ⟨{ s.session with outbox := ⟨rest⟩ }, { s.hub with journal }⟩ ∧
      Flushes o s.session.outbox.lines taken rest (s.flush o).2.sent ∧
      (o.wire.isCandid = true →
        ∀ x ∈ (o.outcomes taken).dropLast, x.part = Utf8.encode (frame x.line))) ∧
    ∀ (b : Bridge) (i : Nat) (w : Worker) (wire : Wire) (now : Time),
      b.workers[i]? = some w → w.activity = .sending wire →
      let s := w.seat b.hub
      let o : Outlet := ⟨[], wire⟩
      let next := (s.rejoinDue now).sendOne o now
      (b.running = false → LastWrites i (b.step i now .proceed) (s.flush o).2.sent ∧
        LastWrites i (b.windDown i) (s.flush o).2.sent) ∧
      (b.running = true → next.2.2 = .ok true →
        LastWrites i (b.step i now .proceed) next.2.1.sent) := by
  refine ⟨fun s o => ?_, ?_⟩
  · obtain ⟨taken, rest, journal, hseat, hflushes⟩ := s.flushLines_flushes o s.session.outbox.lines
    exact ⟨taken, rest, journal, hseat, hflushes, hflushes.part_eq_frame⟩
  intro b i w wire now hw ha s o next
  have hstep : b.step i now .proceed = b.settle i (s.send (!b.running) wire now) := by
    rw [step_eq hw, ha]
    rfl
  refine ⟨fun hstopped => ⟨?_, lastWrites_windDown hw (.inl ha)⟩, fun hrunning hquit => ?_⟩
  · rw [hstep, hstopped]
    exact lastWrites_settle hw (s.send_stopping wire now)
  · rw [hstep, hrunning]
    exact lastWrites_settle hw (Seat.send_quit hquit)

/-- A bridge that was stopped, a line that cannot be sent, and a connection that takes a few bytes at a
time and fails in the line that leaves the network. -/
theorem last_writes_broken :
    let lines : List Text := ["PONG :a", "a\nb", "QUIT :bye", "JOIN #never"]
    let session : Session := { Session.fresh .default 0 0 with outbox := ⟨lines⟩ }
    let wire : Wire := ⟨[.takes 4, .fails ⟨.interrupted, "interrupted"⟩, .takes 512, .takes 512,
      .takes 6, .fails ⟨.brokenPipe, "broken pipe"⟩], []⟩
    let b : Bridge := ⟨.fresh .default, false, [⟨session, .sending wire⟩]⟩
    LastWrites 0 (b.step 0 0 .proceed) (Utf8.encode "PONG :a\r\nQUIT :") ∧
      (b.step 0 0 .proceed).1.workers.map (·.session.outbox.lines) = [[("JOIN #never" : Text)]] := by
  intro lines session wire b
  have hlast := (last_writes.2 b 0 ⟨session, .sending wire⟩ wire 0 rfl rfl).1 rfl
  have hsent : ((Worker.seat ⟨session, .sending wire⟩ b.hub).flush ⟨[], wire⟩).2.sent =
      Utf8.encode "PONG :a\r\nQUIT :" := by decide
  rw [hsent] at hlast
  exact ⟨hlast.1, by decide⟩

/-- A flush does not end at every line that could not be written.  The connection fails at the first of
these lines as if the line were not valid: nothing of it goes out, though it can be sent, and the lines
behind it are taken all the same.  Nor does it end at a line that leaves the network with a source in front
of its command. -/
theorem flush_past_failure :
    let session : Session :=
      { Session.fresh .default 0 0 with outbox := ⟨["PONG :a", ":ServerBot QUIT :bye", "PONG :b"]⟩ }
    let s : Seat := ⟨session, .fresh .default⟩
    let o : Outlet := ⟨[], ⟨[.fails ⟨.invalidInput, "invalid argument"⟩], []⟩⟩
    refusal? "PONG :a" = none ∧
      (o.send "PONG :a").2 = .error (.failed ⟨.invalidInput, "invalid argument"⟩) ∧
      Kind.ofLine "ServerBot" ":ServerBot QUIT :bye" = .quit ∧
      (s.flush o).1.session.outbox.lines = [] ∧
      (s.flush o).2.sent = Utf8.encode ":ServerBot QUIT :bye\r\nPONG :b\r\n" := by
  decide

end Bridge
end ChatLink
