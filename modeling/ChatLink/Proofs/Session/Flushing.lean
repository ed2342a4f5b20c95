/-
# Sending a queue at once

At the end of a run a session sends its own queue without regard to the limiter.  It takes one line
after the other, and stops behind the first that leaves the network or whose writing is an error.  A
line that is refused is taken like any other and leaves no trace on the wire.  So is a line at which
the connection fails as if it refused the line; of that one a beginning may go out.  Main statement:
`flushLines_flushes`.
-/
import Mathlib
import ChatLink.Proofs.Session.Sending

namespace ChatLink

variable {o : Outlet} {line : Text} {taken rest : List Text}

/-! ### What comes of lines -/

/-- A line that was written, what went out of it, and the answer. -/
structure Outcome where
  line : Text
  /-- What went out. -/
  part : Bytes
  answer : Except SendError Unit

/-- No other line is sent behind this one: it leaves the network, or writing it is an error. -/
def Outcome.Ends (x : Outcome) : Prop :=
  Command.isQuit x.line = true ∨ Seat.written x.answer ≠ .ok ()

lemma Outcome.not_ends_iff {x : Outcome} :
    ¬ x.Ends ↔ Command.isQuit x.line = false ∧ Seat.written x.answer = .ok () := by
  rw [Ends, not_or, Bool.not_eq_true, not_not]

/-- Where writing a line is no error its frame went out, unless a failure passes for a line that is
refused. -/
lemma Wire.Allows.part_eq_frame {w : Wire} {part : Bytes} {answer : Except SendError Unit}
    (h : w.Allows line part answer) (hcandid : w.isCandid = true)
    (hwritten : Seat.written answer = .ok ()) : part = Utf8.encode (frame line) := by
  rw [frame]
  rcases answer with (why | f) | _
  · obtain ⟨hrefused, rfl⟩ := h
    rw [hrefused]
    rfl
  · rw [Seat.written_failed_of_ne (Wire.kind_ne_of_isCandid hcandid h.2.1)] at hwritten
    cases hwritten
  · obtain ⟨haccepted, rfl⟩ := h
    rw [haccepted]

namespace Outlet

/-- What comes of a line. -/
def outcome (o : Outlet) (line : Text) : Outcome :=
  ⟨line, (o.send line).1.sent.drop o.sent.length, (o.send line).2⟩

/-- What comes of lines that are written one after the other. -/
def outcomes (o : Outlet) : List Text → List Outcome
  | [] => []
  | line :: lines => o.outcome line :: (o.send line).1.outcomes lines

lemma send_eq (o : Outlet) (line : Text) : ∃ w, w.IsLater o.wire ∧
    o.send line = (⟨o.sent ++ (o.outcome line).part, w⟩, (o.outcome line).answer) ∧
      o.wire.Allows line (o.outcome line).part (o.outcome line).answer := by
  obtain ⟨part, w, answer, hlater, hsend, hallows⟩ := o.send_cases line
  refine ⟨w, hlater, ?_⟩
  rw [outcome, hsend]
  dsimp only
  rw [List.drop_left]
  exact ⟨rfl, hallows⟩

end Outlet

/-! ### What a flush takes -/

/-- Lines are flushed over a connection: these are taken, and those stay.  What was sent is then what
went out of the lines that were taken. -/
structure Flushes (o : Outlet) (lines taken rest : List Text) (sent : Bytes) : Prop where
  /-- The lines are taken from the front. -/
  split : lines = taken ++ rest
  /-- No line is left before one ends the flush. -/
  goesOn : ∀ x ∈ (o.outcomes taken).dropLast, ¬ x.Ends
  /-- Lines stay only behind one that ends the flush. -/
  ends : rest ≠ [] → ∃ x ∈ (o.outcomes taken).getLast?, x.Ends
  sent_eq : sent = o.sent ++ (o.outcomes taken).flatMap Outcome.part
  /-- A line goes out whole, or is refused, or the connection fails at it. -/
  allows : ∀ x ∈ o.outcomes taken, o.wire.Allows x.line x.part x.answer

namespace Flushes

lemma nil (o : Outlet) : Flushes o [] [] [] o.sent where
  split := rfl
  goesOn := fun _ hx => absurd hx List.not_mem_nil
  ends := fun h => absurd rfl h
  sent_eq := (List.append_nil _).symm
  allows := fun _ hx => absurd hx List.not_mem_nil

/-- The first line ends the flush. -/
lemma last (hends : (o.outcome line).Ends) (rest : List Text) :
    Flushes o (line :: rest) [line] rest (o.send line).1.sent where
  split := rfl
  goesOn := fun _ hx => absurd hx List.not_mem_nil
  ends := fun _ => ⟨o.outcome line, rfl, hends⟩
  sent_eq := by
    obtain ⟨w, -, hsend, -⟩ := o.send_eq line
    rw [hsend, Outlet.outcomes, Outlet.outcomes, List.flatMap_singleton]
  allows := by
    obtain ⟨w, -, -, hallows⟩ := o.send_eq line
    intro x hx
    obtain rfl := List.mem_singleton.1 hx
    exact hallows

/-- The first line ends nothing. -/
lemma cons {lines : List Text} {sent : Bytes} (hgoes : ¬ (o.outcome line).Ends)
    (h : Flushes (o.send line).1 lines taken rest sent) :
    Flushes o (line :: lines) (line :: taken) rest sent where
  split := congrArg (line :: ·) h.split
  goesOn := by
    intro x hx
    rw [Outlet.outcomes] at hx
    cases houtcomes : (o.send line).1.outcomes taken with
    | nil =>
      rw [houtcomes] at hx
      exact absurd hx List.not_mem_nil
    | cons y ys =>
      rw [houtcomes, List.dropLast_cons_cons] at hx
      rcases List.mem_cons.1 hx with rfl | hx
      · exact hgoes
      · exact h.goesOn x (houtcomes ▸ hx)
  ends := by
    intro hrest
    obtain ⟨x, hx, hends⟩ := h.ends hrest
    refine ⟨x, ?_, hends⟩
    rw [Outlet.outcomes, List.getLast?_cons, Option.mem_def.1 hx]
    rfl
  sent_eq := by
    obtain ⟨w, -, hsend, -⟩ := o.send_eq line
    rw [h.sent_eq, Outlet.outcomes, List.flatMap_cons, ← List.append_assoc, hsend]
  allows := by
    obtain ⟨w, hlater, hsend, hallows⟩ := o.send_eq line
    intro x hx
    rcases List.mem_cons.1 hx with rfl | hx
    · exact hallows
    · refine (h.allows x hx).of_isLater ?_
      rw [hsend]
      exact hlater

/-- Over a connection of which no failure passes for a line that is refused, all lines but the last go out
whole or are refused. -/
lemma part_eq_frame {lines : List Text} {sent : Bytes} (h : Flushes o lines taken rest sent)
    (hcandid : o.wire.isCandid = true) :
    ∀ x ∈ (o.outcomes taken).dropLast, x.part = Utf8.encode (frame x.line) := fun x hx =>
  (h.allows x (List.dropLast_subset _ hx)).part_eq_frame hcandid
    (Outcome.not_ends_iff.1 (h.goesOn x hx)).2

end Flushes

namespace Seat

variable {s : Seat}

/-- **What a session sends at once.**  The lines leave the front of its queue, up to and including the
first that leaves the network or whose writing is an error, and the connection carries what it can of
them.  The rest of the queue stays, and so does all else but the journal. -/
lemma flushLines_flushes (s : Seat) (o : Outlet) (lines : List Text) :
    ∃ taken rest journal, (s.flushLines o lines).1 =
        ⟨{ s.session with outbox := ⟨rest⟩ }, { s.hub with journal }⟩ ∧
      Flushes o lines taken rest (s.flushLines o lines).2.sent := by
  induction lines generalizing s o with
  | nil => exact ⟨[], [], s.hub.journal, rfl, .nil o⟩
  | cons line lines ih =>
    obtain ⟨journal, hwrite⟩ := s.write_eq o line .own
    rw [flushLines, hwrite]
    cases hwritten : written (o.send line).2 with
    | error e =>
      have hends : (o.outcome line).Ends := .inr fun hok => by
        rw [show written (o.outcome line).answer = .error e from hwritten] at hok
        cases hok
      exact ⟨[line], lines, journal, rfl, .last hends lines⟩
    | ok =>
      dsimp only
      by_cases hquit : Command.isQuit line = true
      · rw [if_pos hquit]
        exact ⟨[line], lines, journal, rfl, .last (.inl hquit) lines⟩
      · rw [if_neg hquit]
        obtain ⟨taken, rest, journal', hseat, hflushes⟩ :=
          ih { s with hub := { s.hub with journal } } (o.send line).1
        have hgoes : ¬ (o.outcome line).Ends :=
          Outcome.not_ends_iff.2 ⟨Bool.eq_false_iff.2 hquit, hwritten⟩
        exact ⟨line :: taken, rest, journal', hseat, hflushes.cons hgoes⟩

end Seat
end ChatLink
