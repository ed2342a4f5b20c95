/-
# What a session sends

A session that may send takes the oldest line of its own queue or, if it is ready and has none of
its own, the oldest line of the queue that all sessions share.  The line leaves its queue before it
goes over the connection, and it does not come back if that fails.  Nothing else that a session does
takes a line from the shared queue.
-/
import Mathlib
import ChatLink.Proofs.Session.Acts
import ChatLink.Proofs.Session.Writing
import ChatLink.Proofs.Wire.Frames

namespace ChatLink

namespace Outlet

variable {o : Outlet} {line : Text}

/-- Over a connection that never fails writing a line is no error. -/
lemma written_of_isReliable (h : o.wire.isReliable = true) (line : Text) :
    ∃ wire, wire.isReliable = true ∧
      (o.send line).1 = ⟨o.sent ++ Utf8.encode (frame line), wire⟩ ∧
        Seat.written (o.send line).2 = .ok () := by
  obtain ⟨wire, hreliable, hsend⟩ := send_of_isReliable h line
  refine ⟨wire, hreliable, by rw [hsend], ?_⟩
  rw [hsend]
  cases refusal? line with
  | some why => rfl
  | none => rfl

end Outlet

namespace Seat

variable {s t : Seat} {o : Outlet} {now : Time} {line : Text} {origin : Origin}

/-- Writing a line over a connection that never fails. -/
lemma write_of_isReliable (h : o.wire.isReliable = true) (s : Seat) (line : Text)
    (origin : Origin) : ∃ journal wire, wire.isReliable = true ∧ s.write o line origin =
      ({ s with hub := { s.hub with journal } },
        ⟨o.sent ++ Utf8.encode (frame line), wire⟩, .ok ()) := by
  obtain ⟨journal, hwrite⟩ := s.write_eq o line origin
  obtain ⟨wire, hreliable, hsent, hwritten⟩ := Outlet.written_of_isReliable h line
  exact ⟨journal, wire, hreliable, by rw [hwrite, hsent, hwritten]⟩

/-- Registration writes two lines past the queues. -/
lemma queue_register (s : Seat) (o : Outlet) (now : Time) :
    (s.register o now).1.hub.queue = s.hub.queue := by
  obtain ⟨journal, limiter, -, h⟩ := s.register_eq o now
  rw [h]
  rfl

/-- What is sent at the end of a run comes from the session's own queue. -/
lemma queue_flushLines (s : Seat) (o : Outlet) (lines : List Text) :
    (s.flushLines o lines).1.hub.queue = s.hub.queue := by
  obtain ⟨journal, rest, -, h⟩ := s.flushLines_eq o lines
  rw [h]

/-- A line leaves the front of its queue, and the other queue stays. -/
structure Takes (s : Seat) (origin : Origin) (line : Text) (t : Seat) : Prop where
  front : (s.waiting origin).lines = line :: (t.waiting origin).lines
  other : ∀ other, other ≠ origin → t.waiting other = s.waiting other

/-- **A line that is due leaves its queue** before it goes over the connection, whatever becomes of
it there. -/
lemma sendOne_of_due (h : s.due? now = some (origin, line)) (o : Outlet) :
    s.Takes origin line (s.sendOne o now).1 ∧
      (s.sendOne o now).2 = ((o.send line).1,
        (written (o.send line).2).map fun () => Command.isQuit line) := by
  have hfront := (lines_of_due h).1
  obtain ⟨journal, hsend⟩ := sendOne_eq_of_due h o
  rw [hsend]
  refine ⟨?_, rfl⟩
  cases origin with
  | own =>
    refine ⟨hfront, fun other hne => ?_⟩
    cases other with
    | own => exact absurd rfl hne
    | shared => rfl
  | shared =>
    refine ⟨hfront, fun other hne => ?_⟩
    cases other with
    | own => rfl
    | shared => exact absurd rfl hne

/-- Where no line is due, none leaves a queue and nothing is written. -/
lemma sendOne_of_not_due (h : s.due? now = none) (o : Outlet) :
    s.Acts (s.sendOne o now).1 ∧ (s.sendOne o now).2 = (o, .ok false) := by
  rw [sendOne_eq_of_not_due h o]
  refine ⟨?_, rfl⟩
  split
  · exact Acts.refl.askAgain now
  · exact .refl

end Seat
end ChatLink
