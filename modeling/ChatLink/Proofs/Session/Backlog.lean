/-
# What a session has not sent when its connection is lost

The lines of a session's own queue leave it in the order in which they came, each to be written over
the connection that the session has then.  A session that loses its connection forgets the channels
it was to enter again, but the lines in its queue stay.  So what it sends is of the connection over
which it goes exactly as long as no line waits when a connection is lost, or none leaves the queue
any more. Main statement: `departures_prefix_iff`.
-/
import Mathlib
import ChatLink.Proofs.Session.Ledger

namespace ChatLink

namespace Seat

/-- The lines of the session's own queue that a deed takes from it. -/
def departing (s : Seat) (now : Time) (d : Deed) : List Text :=
  match d with
  | .send _ =>
    match s.due? now with
    | some (.own, line) => [line]
    | _ => []
  | .flush _ =>
    let waiting := s.session.outbox.lines
    waiting.take (waiting.length - (s.perform now d).1.session.outbox.lines.length)
  | .register _ | .hear _ | .rejoin | .resetNick | .disconnect | .report _ => []

/-- The lines that a deed puts into the session's own queue, behind those that it leaves there. -/
def arriving (s : Seat) (now : Time) (d : Deed) : List Text :=
  (s.perform now d).1.session.outbox.lines.drop
    (s.session.outbox.lines.length - (s.departing now d).length)

/-- A deed takes lines from the front of the session's own queue and puts lines behind the others.
-/
lemma exists_rest_perform (s : Seat) (now : Time) (d : Deed) :
    ∃ rest put, s.session.outbox.lines = s.departing now d ++ rest ∧
      (s.perform now d).1.session.outbox.lines = rest ++ put := by
  have hacts : ∀ t, s.Acts t → ∃ rest put, s.session.outbox.lines = [] ++ rest ∧
      t.session.outbox.lines = rest ++ put := by
    intro t hact
    obtain ⟨put, -, heq⟩ := hact.outbox_eq
    exact ⟨_, put, rfl, heq⟩
  cases d with
  | register wire =>
    obtain ⟨journal, limiter, -, heq⟩ := s.register_eq ⟨[], wire⟩ now
    refine ⟨_, [], rfl, ?_⟩
    rw [perform_register, heq, List.append_nil]
    rfl
  | hear line => exact hacts _ (Acts.refl.hear now line)
  | send wire =>
    rw [departing, perform_send]
    cases hdue : s.due? now with
    | none => exact hacts _ (sendOne_of_not_due hdue _).1
    | some due =>
      obtain ⟨origin, line⟩ := due
      obtain ⟨htakes, -⟩ := sendOne_of_due hdue ⟨[], wire⟩
      cases origin with
      | own => exact ⟨_, [], htakes.front, (List.append_nil _).symm⟩
      | shared =>
        have hown := congrArg Queue.lines (htakes.other .own (by decide))
        exact ⟨_, [], rfl, hown.trans (List.append_nil _).symm⟩
  | flush wire =>
    obtain ⟨journal, rest, ⟨taken, htaken⟩, heq⟩ :=
      s.flushLines_eq ⟨[], wire⟩ s.session.outbox.lines
    have hrest : (s.perform now (.flush wire)).1.session.outbox.lines = rest := by
      rw [perform_flush, heq]
    refine ⟨rest, [], ?_, by rw [hrest, List.append_nil]⟩
    rw [departing, hrest, ← htaken]
    simp
  | rejoin => exact hacts _ (Acts.refl.rejoinDue now)
  | resetNick | disconnect | report => exact ⟨_, [], rfl, (List.append_nil _).symm⟩

/-- What waited and what arrives is what departs and what waits then. -/
lemma outbox_perform (s : Seat) (now : Time) (d : Deed) :
    s.session.outbox.lines ++ s.arriving now d =
      s.departing now d ++ (s.perform now d).1.session.outbox.lines := by
  obtain ⟨rest, put, hold, hnew⟩ := s.exists_rest_perform now d
  have hput : s.arriving now d = put := by
    rw [arriving, hnew, hold, List.length_append, Nat.add_sub_cancel_left, List.drop_left]
  rw [hput, hnew, ← List.append_assoc, ← hold]

end Seat

/-- An entry in which a session loses its connection. -/
def Run.Entry.loses (i : Nat) : Run.Entry → Bool
  | .deed j _ .disconnect => j == i
  | _ => false

namespace Run

variable {r r' : Run} {i n : Nat} {now : Time} {e : Entry} {history : List Entry}

/-- The lines that wait in a session's own queue. -/
def own (r : Run) (i : Nat) : List Text := (r.sessions[i]?.map fun s => s.outbox.lines).getD []

/-- What a deed of a session does, by what it does at the session's seat. -/
def atSeat (lines : Seat → Time → Deed → List Text) (r : Run) (i : Nat) : Entry → List Text
  | .deed j now d => if j = i then ((r.seat? i).map (lines · now d)).getD [] else []
  | .enqueue _ => []

/-- Lines of a history, each with the number of connections that the session had lost by then. -/
def dated (lines : Seat → Time → Deed → List Text) (r : Run) (i n : Nat) :
    List Entry → List (Text × Nat)
  | [] => []
  | e :: history => (atSeat lines r i e).map (·, n) ++
      dated lines (r.advance e) i (if e.loses i then n + 1 else n) history

/-- The lines that are put into a session's own queue. -/
def arrivals (r : Run) (i n : Nat) (history : List Entry) : List (Text × Nat) :=
  dated Seat.arriving r i n history

/-- The lines that leave a session's own queue. -/
def departures (r : Run) (i n : Nat) (history : List Entry) : List (Text × Nat) :=
  dated Seat.departing r i n history

/-! ### One entry -/

lemma own_of_seat? {s : Seat} (hs : r.seat? i = some s) : r.own i = s.session.outbox.lines := by
  rw [own, (seat?_eq_some_iff.1 hs).1]
  rfl

/-- In one entry, what waited in a session's own queue and what arrives there is what departs and
what waits then. -/
lemma own_advance (r : Run) (i : Nat) (e : Entry) :
    r.own i ++ atSeat Seat.arriving r i e = atSeat Seat.departing r i e ++ (r.advance e).own i := by
  cases e with
  | enqueue lines => exact List.append_nil _
  | deed j now d =>
    rw [atSeat, atSeat, advance, act]
    by_cases hj : j = i
    · subst hj
      rw [if_pos rfl, if_pos rfl]
      cases hs : r.seat? j with
      | none => exact List.append_nil _
      | some s =>
        have hafter : (r.settle j (s.perform now d).1).own j =
            (s.perform now d).1.session.outbox.lines := own_of_seat? (seat?_settle hs _)
        show r.own j ++ s.arriving now d =
          s.departing now d ++ (r.settle j (s.perform now d).1).own j
        rw [own_of_seat? hs, hafter]
        exact s.outbox_perform now d
    · rw [if_neg hj, if_neg hj, List.append_nil, List.nil_append]
      show r.own i = (r.act j now d).1.own i
      rw [own, own, sessions_act_of_ne r hj]

/-! ### Histories -/

@[simp] lemma dated_nil (lines : Seat → Time → Deed → List Text) (r : Run) (i n : Nat) :
    dated lines r i n [] = [] := rfl

lemma dated_cons (lines : Seat → Time → Deed → List Text) (r : Run) (i n : Nat) (e : Entry)
    (history : List Entry) :
    dated lines r i n (e :: history) = (atSeat lines r i e).map (·, n) ++
      dated lines (r.advance e) i (if e.loses i then n + 1 else n) history := rfl

/-- **Lines leave in the order in which they came**: what waited and what arrives is what departs
and what waits in the end. -/
lemma own_after (r : Run) (i n : Nat) (history : List Entry) :
    r.own i ++ (r.arrivals i n history).map Prod.fst =
      (r.departures i n history).map Prod.fst ++ (r.after history).own i := by
  induction history generalizing r n with
  | nil => exact List.append_nil _
  | cons e history ih =>
    have hnumber : ∀ lines : List Text, (lines.map (·, n)).map Prod.fst = lines := by
      intro lines
      rw [List.map_map]
      exact List.map_id lines
    rw [arrivals, departures, dated_cons, dated_cons, List.map_append, List.map_append, hnumber,
      hnumber, ← List.append_assoc, own_advance, List.append_assoc, List.append_assoc, after_cons]
    exact congrArg _ (ih (r.advance e) _)

/-- No line leaves before the history begins. -/
lemma le_of_mem_departures (r : Run) (i n : Nat) (history : List Entry) :
    ∀ x ∈ r.departures i n history, n ≤ x.2 := by
  induction history generalizing r n with
  | nil => simp [departures]
  | cons e history ih =>
    intro x hx
    rw [departures, dated_cons, List.mem_append] at hx
    rcases hx with hx | hx
    · obtain ⟨line, -, rfl⟩ := List.mem_map.1 hx
      exact le_rfl
    · refine le_trans ?_ (ih _ _ x hx)
      split
      · exact Nat.le_succ n
      · exact le_rfl

/-- How many connections were lost before does not matter for whether a line leaves. -/
lemma departures_eq_nil_iff (r : Run) (i n m : Nat) (history : List Entry) :
    r.departures i n history = [] ↔ r.departures i m history = [] := by
  induction history generalizing r n m with
  | nil => exact Iff.rfl
  | cons e history ih =>
    simp only [departures, dated_cons, List.append_eq_nil_iff, List.map_eq_nil_iff]
    exact and_congr_right fun _ => ih _ _ _

lemma departures_append (r : Run) (i n : Nat) (early late : List Entry) :
    ∃ m, r.departures i n (early ++ late) =
      r.departures i n early ++ (r.after early).departures i m late := by
  induction early generalizing r n with
  | nil => exact ⟨n, rfl⟩
  | cons e early ih =>
    obtain ⟨m, heq⟩ := ih (r.advance e) (if e.loses i then n + 1 else n)
    refine ⟨m, ?_⟩
    rw [List.cons_append, departures, dated_cons, departures, dated_cons, List.append_assoc]
    exact congrArg _ heq

/-- Whenever the session loses its connection no line of its own waits, or none leaves any more. -/
def LosesNothing (r : Run) (i : Nat) (history : List Entry) : Prop :=
  ∀ early now late, history = early ++ .deed i now .disconnect :: late →
    (r.after early).own i = [] ∨
      (r.after (early ++ [.deed i now .disconnect])).departures i 0 late = []

lemma losesNothing_cons :
    r.LosesNothing i (e :: history) ↔
      (∀ now, e = .deed i now .disconnect →
        r.own i = [] ∨ (r.advance e).departures i 0 history = []) ∧
      (r.advance e).LosesNothing i history := by
  constructor
  · intro h
    refine ⟨fun now he => ?_, fun early now late heq => ?_⟩
    · rw [he]
      exact h [] now history (by rw [he]; rfl)
    · exact h (e :: early) now late (by rw [heq]; rfl)
  · rintro ⟨hfirst, hrest⟩ early now late heq
    cases early with
    | nil =>
      obtain ⟨rfl, rfl⟩ := List.cons.inj heq
      exact hfirst now rfl
    | cons first early =>
      obtain ⟨rfl, htail⟩ := List.cons.inj heq
      exact hrest early now late htail

/-- A session that sends nothing of its own loses nothing either. -/
lemma losesNothing_of_departures_eq_nil (h : r.departures i n history = []) :
    r.LosesNothing i history := by
  rintro early now late rfl
  right
  obtain ⟨m, heq⟩ := r.departures_append i n (early ++ [.deed i now .disconnect]) late
  rw [List.append_assoc, List.singleton_append, h] at heq
  exact (departures_eq_nil_iff _ i m 0 late).1 (List.append_eq_nil_iff.1 heq.symm).2

lemma eq_of_loses (h : e.loses i = true) : ∃ now, e = .deed i now .disconnect := by
  rw [Entry.loses.eq_def] at h
  split at h
  · next j now => exact ⟨now, by rw [beq_iff_eq.1 h]⟩
  · cases h

/-- A session that loses its connection keeps the lines that wait in its own queue. -/
lemma own_disconnect (r : Run) (i : Nat) (now : Time) :
    atSeat Seat.departing r i (.deed i now .disconnect) = [] ∧
      atSeat Seat.arriving r i (.deed i now .disconnect) = [] ∧
      (r.advance (.deed i now .disconnect)).own i = r.own i := by
  have hdeparting : atSeat Seat.departing r i (.deed i now .disconnect) = [] := by
    rw [atSeat, if_pos rfl]
    cases r.seat? i <;> rfl
  have harriving : atSeat Seat.arriving r i (.deed i now .disconnect) = [] := by
    rw [atSeat, if_pos rfl]
    cases r.seat? i with
    | none => rfl
    | some s => exact List.drop_length
  have hadvance := r.own_advance i (.deed i now .disconnect)
  rw [hdeparting, harriving, List.append_nil, List.nil_append] at hadvance
  exact ⟨hdeparting, harriving, hadvance.symm⟩

/-- Where a line waits that came for a connection that is lost, what leaves is what came for the
connection only if nothing leaves: that line would be the first to do so. -/
lemma departures_prefix_stale_iff (hwaiting : r'.own i ≠ []) :
    r.departures i (n + 1) history <+: (r'.own i).map (·, n) ++ r.arrivals i (n + 1) history ↔
      r.departures i (n + 1) history = [] := by
  refine ⟨fun hprefix => ?_, fun hnil => by rw [hnil]; exact List.nil_prefix⟩
  obtain ⟨line, waiting, hline⟩ := List.exists_cons_of_ne_nil hwaiting
  have hlate := r.le_of_mem_departures i (n + 1) history
  rw [hline, List.map_cons, List.cons_append] at hprefix
  cases hleft : r.departures i (n + 1) history with
  | nil => rfl
  | cons x left =>
    rw [hleft] at hprefix hlate
    have hx : n + 1 ≤ x.2 := hlate x List.mem_cons_self
    rw [(List.cons_prefix_cons.1 hprefix).1] at hx
    omega

/-- What leaves is the first of what waited and of what arrives, each over the connection for which
it came, exactly if the session loses nothing. -/
lemma departures_prefix_waiting_iff (r : Run) (i n : Nat) (history : List Entry) :
    r.departures i n history <+: (r.own i).map (·, n) ++ r.arrivals i n history ↔
      r.LosesNothing i history := by
  induction history generalizing r n with
  | nil =>
    refine iff_of_true List.nil_prefix fun early now late heq => ?_
    cases early <;> cases heq
  | cons e history ih =>
    rw [losesNothing_cons, departures, arrivals, dated_cons, dated_cons]
    cases hloses : e.loses i with
    | false =>
      -- what waited and arrives is what departs and waits then, all over the same connection
      have hnone : ∀ now, e ≠ .deed i now .disconnect := by
        rintro now rfl
        simp [Entry.loses] at hloses
      have hwaiting : (r.own i).map (·, n) ++ (atSeat Seat.arriving r i e).map (·, n) =
          (atSeat Seat.departing r i e).map (·, n) ++ ((r.advance e).own i).map (·, n) := by
        rw [← List.map_append, own_advance, List.map_append]
      rw [← List.append_assoc, hwaiting, List.append_assoc, List.prefix_append_right_inj,
        and_iff_right fun now he => absurd he (hnone now)]
      exact ih (r.advance e) n
    | true =>
      obtain ⟨now, rfl⟩ := eq_of_loses hloses
      obtain ⟨hdeparting, harriving, hown⟩ := r.own_disconnect i now
      rw [hdeparting, harriving]
      show (r.advance _).departures i (n + 1) history <+:
          (r.own i).map (·, n) ++ (r.advance _).arrivals i (n + 1) history ↔ _
      by_cases hempty : r.own i = []
      · have hrest := ih (r.advance (.deed i now .disconnect)) (n + 1)
        rw [hown, hempty] at hrest
        rw [hempty, and_iff_right fun _ _ => .inl rfl]
        exact hrest
      · rw [departures_prefix_stale_iff hempty]
        constructor
        · intro hnil
          exact ⟨fun _ _ => .inr ((departures_eq_nil_iff _ i _ 0 history).1 hnil),
            losesNothing_of_departures_eq_nil hnil⟩
        · rintro ⟨hfirst, -⟩
          exact (departures_eq_nil_iff _ i 0 _ history).1 ((hfirst now rfl).resolve_left hempty)

/-- **What a session sends is of the connection over which it goes, unless lines wait when a
connection is lost.**  In any run the lines of a session's own queue leave it in the order in which
they came. Each leaves over the connection for which it came exactly if, whenever the session loses
its connection, no line waits in its own queue or none leaves that queue any more. -/
theorem departures_prefix_iff (hub : Hub) (start : Time) (i : Nat) (history : List Entry) :
    let r := begin hub start
    (r.arrivals i 0 history).map Prod.fst =
        (r.departures i 0 history).map Prod.fst ++ (r.after history).own i ∧
      (r.departures i 0 history <+: r.arrivals i 0 history ↔
        ∀ early now late, history = early ++ .deed i now .disconnect :: late →
          (r.after early).own i = [] ∨
            (r.after (early ++ [.deed i now .disconnect])).departures i 0 late = []) := by
  intro r
  have hown : r.own i = [] := by
    show (((List.map _ (List.range _))[i]?).map _).getD [] = []
    rw [List.getElem?_map, Option.map_map]
    cases (List.range hub.config.sessionCount)[i]? <;> rfl
  have hfifo := r.own_after i 0 history
  have hfresh := r.departures_prefix_waiting_iff i 0 history
  rw [hown] at hfifo hfresh
  exact ⟨hfifo, hfresh⟩

/-- A session asks for another nick, loses its connection before it may send that, and sends it in
the midst of the next registration, after it has asked for the wanted nick again. -/
theorem stale_line_sent :
    let r := begin (.fresh .default) 0
    let lost : List Entry := [
      .deed 0 0 (.register .free),
      .deed 0 1 (.hear ":irc.test 433 * ServerBot :Nickname is already in use"),
      .deed 0 2 .disconnect]
    let again : List Entry := [.deed 0 15002 (.register .free), .deed 0 15752 (.send .free)]
    r.arrivals 0 0 (lost ++ again) = [(("NICK ServerBot_" : Text), 0)] ∧
      r.departures 0 0 (lost ++ again) = [(("NICK ServerBot_" : Text), 1)] ∧
      ¬ r.departures 0 0 (lost ++ again) <+: r.arrivals 0 0 (lost ++ again) ∧
      (((r.after lost).act 0 15002 (.register .free)).1.act 0 15752 (.send .free)).2.written =
        Utf8.encode "NICK ServerBot_\r\n" ∧
      (r.after (lost ++ again)).actual? 0 = some ("ServerBot" : Text) := by
  decide

end Run
end ChatLink
