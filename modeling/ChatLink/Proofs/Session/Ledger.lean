/-
# What becomes of every line

The ledger of a history names every line that was sent, with the session that sent it, the queue it
came from, and what came of it.  The lines that all sessions share are taken in the order in which
they were put in, each by one session, and the others still wait.  Over connections that do not fail
a line that was taken is on the wire or was refused; where a connection fails before the line is out,
the line is gone.
-/
import Mathlib
import ChatLink.Proofs.Session.Reachable
import ChatLink.Proofs.Session.Sending

namespace ChatLink

/-- A deed that writes nothing past the queues and to no connection that may fail. -/
def Deed.isSteady : Deed → Bool
  | .send wire => wire.isReliable
  | .register _ | .flush _ => false
  | .hear _ | .rejoin | .resetNick | .disconnect | .report _ => true

namespace Run

/-- A line that a session sent. -/
structure Sending where
  session : Nat
  /-- The queue that the line came from. -/
  origin : Origin
  line : Text
  /-- The connection that it was sent over. -/
  wire : Wire
  /-- What came of it. -/
  effect : Effect

namespace Sending

/-- The line went out whole and with its end. -/
def Written (x : Sending) : Prop := x.effect.written = Utf8.encode (x.line ++ lineEnd)

/-- The line is one that cannot be sent at all, and nothing went out. -/
def Dropped (x : Sending) : Prop := (refusal? x.line).isSome = true ∧ x.effect.written = []

/-- The line could be sent, and something of it or of its end did not go out. -/
def Cut (x : Sending) : Prop :=
  refusal? x.line = none ∧ x.effect.written <+: Utf8.encode (x.line ++ lineEnd) ∧
    x.effect.written ≠ Utf8.encode (x.line ++ lineEnd)

/-- Sending the line was an error. -/
def Failed (x : Sending) : Prop := ∃ e, x.effect.sent = some (.error e)

end Sending

/-- Lines that an entry of a history puts into the shared queue. -/
def Entry.lines : Entry → List Text
  | .enqueue lines => lines
  | .deed _ _ _ => []

/-- What is sent in one entry. -/
def sending? (r : Run) : Entry → Option Sending
  | .deed i now (.send wire) =>
    ((r.seat? i).bind (·.due? now)).map fun due =>
      ⟨i, due.1, due.2, wire, (r.act i now (.send wire)).2⟩
  | _ => none

/-- Everything that is sent in a history, in order. -/
def sendings (r : Run) : List Entry → List Sending
  | [] => []
  | e :: history => (r.sending? e).toList ++ (r.advance e).sendings history

/-- The shared lines that are taken in a history, in order. -/
def taken (r : Run) (history : List Entry) : List Sending :=
  (r.sendings history).filter (·.origin = .shared)

/-- The lines that are put into the shared queue in a history, in order. -/
def pushed (history : List Entry) : List Text := history.flatMap Entry.lines

/-- What a session writes in one entry. -/
def written (r : Run) (i : Nat) : Entry → Bytes
  | .deed j now d => if j = i then (r.act j now d).2.written else []
  | .enqueue _ => []

/-- What a session writes in a history. -/
def wire (r : Run) (i : Nat) : List Entry → Bytes
  | [] => []
  | e :: history => r.written i e ++ (r.advance e).wire i history

variable {r : Run} {i : Nat} {now : Time} {d : Deed} {s : Seat} {x : Sending}
  {history : List Entry} {e : Entry}

/-! ### One entry -/

/-- A deed other than sending takes no shared line. -/
lemma queue_perform (s : Seat) (now : Time) (hd : ∀ wire, d ≠ .send wire) :
    (s.perform now d).1.hub.queue = s.hub.queue := by
  cases d with
  | register wire =>
    rw [Seat.perform_register]
    exact s.queue_register ⟨[], wire⟩ now
  | hear line => exact (Seat.Acts.refl.hear now line).queue_eq
  | send wire => exact absurd rfl (hd wire)
  | flush wire =>
    rw [Seat.perform_flush]
    exact s.queue_flushLines ⟨[], wire⟩ _
  | rejoin => exact (Seat.Acts.refl.rejoinDue now).queue_eq
  | resetNick => rfl
  | disconnect => rfl
  | report state => rfl

/-- A session that sends takes what is due from the front of its queue. -/
lemma takes_of_sending? (h : r.sending? e = some x) :
    ∃ now s t, e = .deed x.session now (.send x.wire) ∧ r.seat? x.session = some s ∧
      s.due? now = some (x.origin, x.line) ∧ s.Takes x.origin x.line t ∧
      r.advance e = r.settle x.session t := by
  rw [sending?.eq_def] at h
  split at h
  · next i now wire =>
    obtain ⟨due, hdue, rfl⟩ := Option.map_eq_some_iff.1 h
    obtain ⟨s, hs, hdue⟩ := Option.bind_eq_some_iff.1 hdue
    refine ⟨now, s, _, rfl, hs, hdue, (Seat.sendOne_of_due hdue ⟨[], wire⟩).1, ?_⟩
    rw [advance, act, hs]
    rfl
  · cases h

/-- Where nothing is sent, the shared lines stay, and what is put in comes behind them. -/
lemma queue_advance_of_not_sending (h : r.sending? e = none) :
    (r.advance e).hub.queue.lines = r.hub.queue.lines ++ e.lines := by
  cases e with
  | enqueue lines => rfl
  | deed i now d =>
    rw [advance, act, Entry.lines, List.append_nil]
    cases hs : r.seat? i with
    | none => rfl
    | some s =>
      have hhub : s.hub = r.hub := (seat?_eq_some_iff.1 hs).2
      show (s.perform now d).1.hub.queue.lines = _
      rw [← hhub]
      by_cases hsend : ∃ wire, d = .send wire
      · obtain ⟨wire, rfl⟩ := hsend
        have hdue : s.due? now = none := by simpa [sending?, hs] using h
        exact congrArg Queue.lines (Seat.sendOne_of_not_due hdue ⟨[], wire⟩).1.queue_eq
      · rw [queue_perform s now fun wire hd => hsend ⟨wire, hd⟩]

/-- **One entry keeps account of the shared lines**: what waited and what is put in is what is taken
and what waits then. -/
lemma queue_advance (r : Run) (e : Entry) :
    r.hub.queue.lines ++ e.lines =
      ((r.sending? e).toList.filter (·.origin = .shared)).map Sending.line ++
        (r.advance e).hub.queue.lines := by
  cases hx : r.sending? e with
  | none =>
    rw [queue_advance_of_not_sending hx]
    rfl
  | some x =>
    obtain ⟨now, s, t, rfl, hs, -, htakes, hadvance⟩ := takes_of_sending? hx
    have hhub : s.hub = r.hub := (seat?_eq_some_iff.1 hs).2
    rw [hadvance, ← hhub, Entry.lines, List.append_nil, Option.toList_some]
    cases horigin : x.origin with
    | own =>
      have hother := htakes.other .shared (by rw [horigin]; simp)
      rw [List.filter_cons_of_neg (by simp [horigin])]
      exact congrArg Queue.lines hother.symm
    | shared =>
      have hfront := htakes.front
      rw [horigin] at hfront
      rw [List.filter_cons_of_pos (by simp [horigin])]
      exact hfront

/-- A shared line is for a session that is ready and has none of its own. -/
lemma ready_of_sending? (h : r.sending? e = some x) (hshared : x.origin = .shared) :
    ∃ session, r.sessions[x.session]? = some session ∧ session.ready = true ∧
      session.outbox = .empty := by
  obtain ⟨now, s, t, -, hs, hdue, -, -⟩ := takes_of_sending? h
  rw [hshared] at hdue
  exact ⟨s.session, (seat?_eq_some_iff.1 hs).1, (Seat.lines_of_due hdue).2 rfl⟩

/-- What comes of a line is what comes of it over the connection. -/
lemma effect_of_sending? (h : r.sending? e = some x) :
    ∃ now, e = .deed x.session now (.send x.wire) ∧
      x.effect = (r.act x.session now (.send x.wire)).2 ∧
      x.effect.written = ((⟨[], x.wire⟩ : Outlet).send x.line).1.sent ∧
      x.effect.sent = some ((Seat.written ((⟨[], x.wire⟩ : Outlet).send x.line).2).map
        fun () => Command.isQuit x.line) := by
  rw [sending?.eq_def] at h
  split at h
  · next i now wire =>
    obtain ⟨due, hdue, rfl⟩ := Option.map_eq_some_iff.1 h
    obtain ⟨s, hs, hdue⟩ := Option.bind_eq_some_iff.1 hdue
    have hsent := (Seat.sendOne_of_due hdue ⟨[], wire⟩).2
    refine ⟨now, rfl, rfl, ?_, ?_⟩
    · rw [act, hs]
      exact congrArg (fun p => p.1.sent) hsent
    · rw [act, hs]
      exact congrArg (fun p => some p.2) hsent
  · cases h

/-- What came of a line that was sent is something that its connection can make of it. -/
lemma allows_of_sending? (h : r.sending? e = some x) :
    ∃ answer, x.wire.Allows x.line x.effect.written answer ∧
      x.effect.sent = some ((Seat.written answer).map fun () => Command.isQuit x.line) := by
  obtain ⟨now, -, -, hwritten, hsent⟩ := effect_of_sending? h
  obtain ⟨part, w, answer, -, hsend, hallows⟩ := Outlet.send_cases ⟨[], x.wire⟩ x.line
  rw [hsend] at hwritten hsent
  exact ⟨answer, hwritten ▸ hallows, hsent⟩

/-- A line that was sent is written whole or dropped, unless something of it did not go out. -/
lemma written_or_dropped_iff (h : r.sending? e = some x) :
    x.Written ∨ x.Dropped ↔ ¬ x.Cut := by
  obtain ⟨answer, hallows, -⟩ := allows_of_sending? h
  rw [Sending.Written, Sending.Dropped, Sending.Cut]
  rcases answer with (why | f) | _
  · obtain ⟨hrefused, hnothing⟩ := hallows
    exact iff_of_true (.inr ⟨by rw [hrefused]; rfl, hnothing⟩) (by simp [hrefused])
  · obtain ⟨haccepted, -, hpart, -⟩ := hallows
    simp only [haccepted, hpart, Option.isSome_none, Bool.false_eq_true, false_and, or_false,
      true_and, not_not]
  · obtain ⟨-, hwhole⟩ := hallows
    exact iff_of_true (.inl hwhole) fun hcut => hcut.2.2 hwhole

/-- Where something of a line did not go out its connection failed. -/
lemma exists_failure_of_cut (h : r.sending? e = some x) (hcut : x.Cut) :
    ∃ f ∈ x.wire.failures, x.effect.sent =
      some ((Seat.written (.error (.failed f))).map fun () => Command.isQuit x.line) := by
  obtain ⟨answer, hallows, hsent⟩ := allows_of_sending? h
  obtain ⟨haccepted, -, hless⟩ := hcut
  rcases answer with (why | f) | _
  · have hrefused : refusal? x.line = some why := hallows.1
    rw [haccepted] at hrefused
    cases hrefused
  · exact ⟨f, hallows.2.1, hsent⟩
  · exact absurd hallows.2 hless

/-- And so it is told, unless the failure passes for a line that is refused. -/
lemma failed_of_cut (h : r.sending? e = some x) (hcandid : x.wire.isCandid = true) (hcut : x.Cut) :
    x.Failed := by
  obtain ⟨f, hf, hsent⟩ := exists_failure_of_cut h hcut
  have hkind := Wire.kind_ne_of_isCandid hcandid hf
  exact ⟨.failed f, by rw [hsent, Seat.written_failed_of_ne hkind]; rfl⟩

/-- Where sending is an error something of the line did not go out, unless the connection failed to pass
on what it took. -/
lemma cut_of_failed (h : r.sending? e = some x) (hflushes : ∀ answer ∈ x.wire.flushes, answer = none)
    (hfailed : x.Failed) : x.Cut := by
  obtain ⟨answer, hallows, hsent⟩ := allows_of_sending? h
  obtain ⟨error, herror⟩ := hfailed
  rw [hsent] at herror
  rcases answer with (why | f) | _
  · cases herror
  · obtain ⟨haccepted, -, hpart, hwhole⟩ := hallows
    refine ⟨haccepted, hpart, fun hall => ?_⟩
    cases hflushes _ (hwhole hall)
  · cases herror

/-! ### A history -/

/-- The shared lines of a history: what waited and what was put in is what was taken and what waits
in the end, in this order. -/
lemma queue_after (r : Run) (history : List Entry) :
    r.hub.queue.lines ++ pushed history =
      (r.taken history).map Sending.line ++ (r.after history).hub.queue.lines := by
  induction history generalizing r with
  | nil => simp [pushed, taken, sendings]
  | cons e history ih =>
    calc r.hub.queue.lines ++ pushed (e :: history)
        = (r.hub.queue.lines ++ e.lines) ++ pushed history := by
          rw [pushed, List.flatMap_cons, List.append_assoc, pushed]
      _ = ((r.sending? e).toList.filter (·.origin = .shared)).map Sending.line ++
            ((r.advance e).hub.queue.lines ++ pushed history) := by
          rw [queue_advance, List.append_assoc]
      _ = ((r.sending? e).toList.filter (·.origin = .shared)).map Sending.line ++
            (((r.advance e).taken history).map Sending.line ++
              (r.after (e :: history)).hub.queue.lines) := by
          rw [ih, after_cons]
      _ = (r.taken (e :: history)).map Sending.line ++
            (r.after (e :: history)).hub.queue.lines := by
          rw [taken, taken, sendings, List.filter_append, List.map_append, List.append_assoc]

/-- Every sending of a history is one of an entry. -/
lemma exists_of_mem_sendings (h : x ∈ r.sendings history) :
    ∃ before e after, history = before ++ e :: after ∧ (r.after before).sending? e = some x := by
  induction history generalizing r with
  | nil => cases h
  | cons e history ih =>
    rw [sendings, List.mem_append, Option.mem_toList] at h
    rcases h with h | h
    · exact ⟨[], e, history, rfl, h⟩
    · obtain ⟨before, e', after, rfl, hx⟩ := ih h
      exact ⟨e :: before, e', after, rfl, hx⟩

/-! ### Connections that do not fail -/

/-- Lines come from the game, or a session does something steady. -/
def Entry.isSteady : Entry → Bool
  | .enqueue _ => true
  | .deed _ _ d => d.isSteady

/-- A session writes nothing but the lines that it sends. -/
lemma written_eq (he : e.isSteady = true) (i : Nat) :
    r.written i e =
      Utf8.encode (((r.sending? e).toList.filter (·.session = i)).flatMap (frame ·.line)) := by
  cases e with
  | enqueue lines => rfl
  | deed j now d =>
    cases hx : r.sending? (.deed j now d) with
    | none =>
      -- only sending writes, and where no line is due that writes nothing either
      have hnone : (r.act j now d).2.written = [] := by
        rw [act]
        cases hs : r.seat? j with
        | none => rfl
        | some s =>
          cases d with
          | send wire =>
            have hdue : s.due? now = none := by simpa [sending?, hs] using hx
            exact congrArg (fun p => p.1.sent) (Seat.sendOne_of_not_due hdue ⟨[], wire⟩).2
          | register wire => cases he
          | flush wire => cases he
          | hear line => rfl
          | rejoin => rfl
          | resetNick => rfl
          | disconnect => rfl
          | report state => rfl
      rw [written, hnone, ite_self]
      rfl
    | some x =>
      obtain ⟨now', heq, heffect, hwritten, -⟩ := effect_of_sending? hx
      obtain ⟨rfl, rfl, rfl⟩ := Entry.deed.inj heq
      obtain ⟨w, -, hsent, -⟩ := Outlet.written_of_isReliable (o := ⟨[], x.wire⟩) he x.line
      rw [heffect, hsent] at hwritten
      rw [written, Option.toList_some]
      by_cases hi : x.session = i
      · rw [if_pos hi, List.filter_cons_of_pos (by simpa using hi), hwritten]
        simp
      · rw [if_neg hi, List.filter_cons_of_neg (by simpa using hi)]
        rfl

/-- A session's wire holds the frames of the lines that it sent, in order. -/
lemma wire_eq (hsteady : ∀ e ∈ history, e.isSteady = true) (i : Nat) :
    r.wire i history =
      Utf8.encode (((r.sendings history).filter (·.session = i)).flatMap (frame ·.line)) := by
  induction history generalizing r with
  | nil => rfl
  | cons e history ih =>
    rw [wire, written_eq (hsteady e List.mem_cons_self) i,
      ih fun e' he' => hsteady e' (List.mem_cons_of_mem e he'), sendings, List.filter_append,
      List.flatMap_append, Utf8.encode_append]

/-- Over a connection that never fails a line goes out whole, unless it cannot be sent at all. -/
lemma written_or_dropped (he : e.isSteady = true) (h : r.sending? e = some x) :
    x.Written ∨ x.Dropped := by
  obtain ⟨now, rfl, -, -, -⟩ := effect_of_sending? h
  refine (written_or_dropped_iff h).2 fun hcut => ?_
  obtain ⟨f, hf, -⟩ := exists_failure_of_cut h hcut
  rw [Wire.failures_eq_nil he] at hf
  cases hf

/-- **No shared line is lost or sent twice over connections that do not fail.**  However lines come
from the game and sessions hear and send, the lines that waited and came are, in their order, first
those that were taken, each by one session, and then those that still wait; lines that came together
stay together.  A line that was taken went out whole, unless it is one that cannot be sent at all;
and the wire of a session holds the frames of the lines that it sent, in order.  Whoever took a
shared line was ready and had none of its own. -/
theorem shared_lines_conserved (r : Run) (hsteady : ∀ e ∈ history, e.isSteady = true) :
    r.hub.queue.lines ++ pushed history =
      (r.taken history).map Sending.line ++ (r.after history).hub.queue.lines ∧
    (∀ before lines after, history = before ++ .enqueue lines :: after →
      (r.taken history).map Sending.line ++ (r.after history).hub.queue.lines =
        (r.hub.queue.lines ++ pushed before) ++ lines ++ pushed after) ∧
    (∀ x ∈ r.taken history, x.Written ∨ x.Dropped) ∧
    (∀ i, r.wire i history =
      Utf8.encode (((r.sendings history).filter (·.session = i)).flatMap (frame ·.line))) ∧
    ∀ before e after x, history = before ++ e :: after →
      (r.after before).sending? e = some x → x.origin = .shared →
      ∃ session, (r.after before).sessions[x.session]? = some session ∧ session.ready = true ∧
        session.outbox = .empty := by
  refine ⟨queue_after r history, ?_, ?_, wire_eq hsteady, ?_⟩
  · rintro before lines after rfl
    rw [← queue_after]
    simp [pushed, Entry.lines]
  · intro x hx
    obtain ⟨before, e, after, rfl, hsending⟩ := exists_of_mem_sendings (List.mem_of_mem_filter hx)
    exact written_or_dropped (hsteady e (by simp)) hsending
  · intro before e after x _ hx hshared
    exact ready_of_sending? hx hshared

/-- Two sessions share three lines, of which the second holds a line break and cannot be sent. -/
theorem shared_lines_conserved_two :
    let config : Config := { Config.default with sessionCount := 2, sendDelay := 0 }
    let r : Run := begin (.fresh config) 0
    let history : List Entry := [
      .deed 0 0 (.hear ":irc.test 001 ServerBot :Welcome"),
      .deed 1 0 (.hear ":irc.test 001 ServerBot2 :Welcome"),
      .deed 0 1 (.send .free), .deed 1 1 (.send .free),
      .enqueue ["PRIVMSG #changeme :one", "PRIVMSG #changeme :two\nQUIT"],
      .deed 1 2 (.send .free), .deed 0 2 (.send .free), .deed 1 3 (.send .free),
      .enqueue ["PRIVMSG #changeme :three"], .deed 0 3 (.send .free)]
    (∀ e ∈ history, e.isSteady = true) ∧
      (r.taken history).map Sending.session = [1, 0] ∧
      (r.taken history).map Sending.line ++ (r.after history).hub.queue.lines =
        ["PRIVMSG #changeme :one", "PRIVMSG #changeme :two\nQUIT", "PRIVMSG #changeme :three"] ∧
      r.wire 1 history = Utf8.encode
        "JOIN #changeme\r\nUSERHOST ServerBot2\r\nPRIVMSG #changeme :one\r\n" ∧
      r.wire 0 history = Utf8.encode "JOIN #changeme\r\nUSERHOST ServerBot\r\n" := by
  intro config r history
  have hsteady : ∀ e ∈ history, e.isSteady = true := by decide
  obtain ⟨hqueue, -, -, hwire, -⟩ := shared_lines_conserved r hsteady
  refine ⟨hsteady, by decide, hqueue.symm.trans (by decide), ?_, ?_⟩
  · rw [hwire]
    decide
  · rw [hwire]
    decide

/-! ### Connections that fail -/

/-- An error of sending is a failure of the connection, met by the line that was due.  The line has left
its queue, and a beginning of its frame went out. -/
lemma sendOne_of_error {s : Seat} {o : Outlet} {error : SendError}
    (h : (s.sendOne o now).2.2 = .error error) :
    ∃ origin line f part, s.due? now = some (origin, line) ∧
      s.Takes origin line (s.sendOne o now).1 ∧ refusal? line = none ∧
      error = .failed f ∧ f ∈ o.wire.failures ∧ f.kind ≠ .invalidInput ∧
      part <+: Utf8.encode (line ++ lineEnd) ∧
      (part = Utf8.encode (line ++ lineEnd) → some f ∈ o.wire.flushes) ∧
      (s.sendOne o now).2.1.sent = o.sent ++ part := by
  cases hdue : s.due? now with
  | none =>
    rw [(Seat.sendOne_of_not_due hdue o).2] at h
    cases h
  | some due =>
    obtain ⟨htakes, hsent⟩ := Seat.sendOne_of_due hdue o
    obtain ⟨part, w, answer, -, hsend, hallows⟩ := o.send_cases due.2
    rw [hsent, hsend] at h
    -- of all that can come of a line, only a connection that fails is an error
    rcases answer with (why | f) | _
    · cases h
    · obtain ⟨haccepted, hf, hpart, hwhole⟩ := hallows
      by_cases hkind : f.kind = .invalidInput
      · rw [Seat.written_failed_of_eq hkind] at h
        cases h
      · rw [Seat.written_failed_of_ne hkind] at h
        cases h
        exact ⟨due.1, due.2, f, part, rfl, htakes, haccepted, rfl, hf, hkind, hpart, hwhole,
          by rw [hsent, hsend]⟩
    · cases h

/-- **A line is gone exactly if its connection fails before it is out.**  Sending that is an error has
taken the line from the front of the queue that it came from, and a beginning of its frame went out.
In every history, whatever connections do, the lines that waited and came are, in their order, those
that were taken and those that still wait.  A line that was taken went out whole on the wire of the
session that took it, or was refused, unless something of it did not go out.  That is then an error,
unless the connection's failure passes for a line that is refused; and an error means that something
did not go out, unless the connection failed to pass on what it took. -/
theorem written_or_dropped_iff_not_failed (s : Seat) (o : Outlet) (now : Time) (r : Run)
    (history : List Entry) :
    (∀ e, (s.sendOne o now).2.2 = .error e →
      ∃ origin line f part, s.due? now = some (origin, line) ∧
        s.Takes origin line (s.sendOne o now).1 ∧ refusal? line = none ∧
        e = .failed f ∧ f ∈ o.wire.failures ∧ f.kind ≠ .invalidInput ∧
        part <+: Utf8.encode (line ++ lineEnd) ∧
        (part = Utf8.encode (line ++ lineEnd) → some f ∈ o.wire.flushes) ∧
        (s.sendOne o now).2.1.sent = o.sent ++ part) ∧
    r.hub.queue.lines ++ pushed history =
      (r.taken history).map Sending.line ++ (r.after history).hub.queue.lines ∧
    ∀ x ∈ r.taken history, (x.Written ∨ x.Dropped ↔ ¬ x.Cut) ∧
      (x.wire.isCandid = true → x.Cut → x.Failed) ∧
      ((∀ answer ∈ x.wire.flushes, answer = none) → x.Failed → x.Cut) := by
  refine ⟨fun e => sendOne_of_error, queue_after r history, fun x hx => ?_⟩
  obtain ⟨before, e, after, -, hsending⟩ := exists_of_mem_sendings (List.mem_of_mem_filter hx)
  exact ⟨written_or_dropped_iff hsending, failed_of_cut hsending, cut_of_failed hsending⟩

/-- A connection that takes nothing more costs a shared line: no queue holds it, and it is on no
wire. -/
theorem shared_line_lost_on_failure :
    let r : Run := (begin (.fresh .default) 0).after [
      .deed 0 0 (.hear ":irc.test 001 ServerBot :Welcome"), .deed 0 0 (.send .free),
      .deed 0 750 (.send .free), .enqueue ["PRIVMSG #changeme :hi"]]
    let r' : Run := (r.act 0 1500 (.send .broken)).1
    r.Reachable ∧ r.hub.queue.lines = ["PRIVMSG #changeme :hi"] ∧
      (r.act 0 1500 (.send .broken)).2.sent =
        some (.error (.failed ⟨.brokenPipe, "broken pipe"⟩)) ∧
      (r.act 0 1500 (.send .broken)).2.written = [] ∧
      r'.hub.queue.lines = [] ∧ ∀ session ∈ r'.sessions, session.outbox = .empty := by
  intro r r'
  have hregistered := Reachable.act 0 0 (d := .hear ":irc.test 001 ServerBot :Welcome")
    (.begin (.fresh .default) 0) (by decide)
  have hjoined := Reachable.act 0 0 (d := .send .free) hregistered (by decide)
  have hasked := Reachable.act 0 750 (d := .send .free) hjoined (by decide)
  exact ⟨.beside hasked ⟨rfl, rfl, rfl⟩, by decide, by decide, by decide, by decide, by decide⟩

end Run
end ChatLink
