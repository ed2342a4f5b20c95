/-
# What writing changes

A session writes when it registers, when it sends the line that is due, and when it sends its own
queue at the end of a run.  What goes over the connection is told by the connection alone, and of
the seat writing itself changes nothing but the journal.  So each of these functions is given here
by what it makes of the session and of the hub, whatever the connection does.
-/
import Mathlib
import ChatLink.Session.Run

namespace ChatLink.Seat

variable {s : Seat} {now : Time} {line : Text} {origin : Origin}

/-- What writing answers: a line that was refused is no error, and nothing that passes for that is. -/
def written : Except SendError Unit → Except SendError Unit
  | .error e => if e.kind = .invalidInput then .ok () else .error e
  | .ok () => .ok ()

lemma written_failed_of_eq {f : Failure} (h : f.kind = .invalidInput) :
    written (.error (.failed f)) = .ok () := if_pos h

lemma written_failed_of_ne {f : Failure} (h : f.kind ≠ .invalidInput) :
    written (.error (.failed f)) = .error (.failed f) := if_neg h

/-- Writing changes the journal and the connection only. -/
lemma write_eq (s : Seat) (o : Outlet) (line : Text) (origin : Origin) :
    ∃ journal, s.write o line origin =
      ({ s with hub := { s.hub with journal } }, (o.send line).1, written (o.send line).2) := by
  rw [write]
  rcases o.send line with ⟨o', e | _⟩
  · dsimp only [written]
    split
    · exact ⟨_, rfl⟩
    · exact ⟨_, rfl⟩
  · exact ⟨_, rfl⟩

/-- Registration goes back to the wanted nick and publishes it; its two lines go past the queues, and
the limiter notes them once both are written. -/
lemma register_eq (s : Seat) (o : Outlet) (now : Time) :
    ∃ journal limiter, (limiter = s.session.limiter ∨ limiter = s.session.limiter.record now) ∧
      (s.register o now).1 =
      ⟨{ (s.setState .registering).resetNick.publishNick.session with limiter },
        { (s.setState .registering).resetNick.publishNick.hub with journal }⟩ := by
  rw [register]
  rw [show s.session.limiter = (s.setState .registering).resetNick.publishNick.session.limiter from rfl]
  generalize (s.setState .registering).resetNick.publishNick = t
  obtain ⟨early, hnick⟩ := t.write_eq o (Command.nick t.actual) .own
  rw [hnick]
  cases written (o.send (Command.nick t.actual)).2 with
  | error e => exact ⟨early, t.session.limiter, .inl rfl, rfl⟩
  | ok =>
    dsimp only
    obtain ⟨journal, huser⟩ := write_eq { t with hub := { t.hub with journal := early } }
      (o.send (Command.nick t.actual)).1 (Command.user t.desired userMode t.hub.config.realName) .own
    rw [show desired { t with hub := { t.hub with journal := early } } = t.desired from rfl, huser]
    split
    · next h =>
      rw [← (Prod.mk.inj h).1]
      exact ⟨journal, t.session.limiter, .inl rfl, rfl⟩
    · next h =>
      rw [← (Prod.mk.inj h).1]
      exact ⟨journal, t.session.limiter.record now, .inr rfl, rfl⟩

/-- At the end of a run lines leave the front of the session's own queue. -/
lemma flushLines_eq (s : Seat) (o : Outlet) (lines : List Text) :
    ∃ journal rest, rest <:+ lines ∧ (s.flushLines o lines).1 =
      ⟨{ s.session with outbox := ⟨rest⟩ }, { s.hub with journal }⟩ := by
  induction lines generalizing s o with
  | nil => exact ⟨s.hub.journal, [], List.suffix_rfl, rfl⟩
  | cons line rest ih =>
    obtain ⟨journal, hwrite⟩ := s.write_eq o line .own
    rw [flushLines, hwrite]
    cases written (o.send line).2 with
    | error e => exact ⟨journal, rest, List.suffix_cons line rest, rfl⟩
    | ok =>
      dsimp only
      split
      · exact ⟨journal, rest, List.suffix_cons line rest, rfl⟩
      · obtain ⟨journal', rest', hsuffix, heq⟩ :=
          ih { s with hub := { s.hub with journal } } (o.send line).1
        exact ⟨journal', rest', hsuffix.trans (List.suffix_cons line rest), heq⟩

/-! ### The line that is due -/

/-- The line that a session sends if it is asked to send at a time, and where that line waits.  Its
own queue comes first, and only a ready session has a part in the lines that all share. -/
def due? (s : Seat) (now : Time) : Option (Origin × Text) :=
  if s.session.limiter.ready now then
    match s.session.outbox.lines with
    | line :: _ => some (.own, line)
    | [] =>
      if s.session.ready then s.hub.queue.lines.head?.map fun line => (.shared, line) else none
  else none

/-- The queue in which lines of an origin wait. -/
def waiting (s : Seat) : Origin → Queue
  | .own => s.session.outbox
  | .shared => s.hub.queue

/-- The seat without the oldest line of an origin. -/
def drop (s : Seat) : Origin → Seat
  | .own => s.update fun session => { session with outbox := ⟨session.outbox.lines.tail⟩ }
  | .shared => { s with hub := { s.hub with queue := ⟨s.hub.queue.lines.tail⟩ } }

/-- What is due is the oldest line of its origin, and a shared line is due only to a ready session
with nothing of its own to send. -/
lemma lines_of_due (h : s.due? now = some (origin, line)) :
    (s.waiting origin).lines = line :: ((s.drop origin).waiting origin).lines ∧
      (origin = .shared → s.session.ready = true ∧ s.session.outbox = .empty) := by
  rw [due?] at h
  split at h
  · split at h
    · next first rest hlines =>
      cases h
      refine ⟨?_, fun hshared => by cases hshared⟩
      show s.session.outbox.lines = line :: s.session.outbox.lines.tail
      rw [hlines, List.tail_cons]
    · next hlines =>
      split at h
      · next hready =>
        obtain ⟨first, hhead, heq⟩ := Option.map_eq_some_iff.1 h
        cases heq
        obtain ⟨rest, hqueue⟩ := List.head?_eq_some_iff.1 hhead
        refine ⟨?_, fun _ => ⟨hready, congrArg Queue.mk hlines⟩⟩
        show s.hub.queue.lines = line :: s.hub.queue.lines.tail
        rw [hqueue, List.tail_cons]
      · cases h
  · cases h

/-- What is taken is what is due. -/
lemma takeLine?_of_due (h : s.due? now = some (origin, line)) :
    s.session.limiter.ready now = true ∧ s.takeLine? = some (line, origin, s.drop origin) := by
  obtain ⟨hfront, hshared⟩ := lines_of_due h
  refine ⟨?_, ?_⟩
  · by_contra hlimiter
    rw [due?, if_neg hlimiter] at h
    cases h
  · rw [takeLine?]
    cases origin with
    | own =>
      have hpop : s.session.outbox.pop? = some (line, ⟨s.session.outbox.lines.tail⟩) :=
        Queue.pop?_eq_some_iff.2 hfront
      rw [hpop]
      rfl
    | shared =>
      obtain ⟨hready, hempty⟩ := hshared rfl
      have hpop : s.hub.queue.pop? = some (line, ⟨s.hub.queue.lines.tail⟩) :=
        Queue.pop?_eq_some_iff.2 hfront
      rw [hempty, show Queue.empty.pop? = none from rfl, if_pos hready, hpop]
      rfl

lemma takeLine?_of_not_due (h : s.due? now = none) (hlimiter : s.session.limiter.ready now = true) :
    s.takeLine? = none := by
  rw [due?, if_pos hlimiter] at h
  split at h
  · cases h
  · next hlines =>
    rw [takeLine?, Queue.pop?_eq_none_iff.2 hlines]
    dsimp only
    split at h
    · next hready =>
      have hempty : s.hub.queue.lines = [] := by simpa using h
      rw [if_pos hready, Queue.pop?_eq_none_iff.2 hempty]
    · next hready => rw [if_neg hready]

/-- A line that is due leaves its queue, and the limiter notes it, before it goes over the connection,
whatever becomes of it there. -/
lemma sendOne_eq_of_due (h : s.due? now = some (origin, line)) (o : Outlet) :
    ∃ journal, s.sendOne o now =
      (⟨{ (s.drop origin).session with limiter := (s.drop origin).session.limiter.record now },
          { (s.drop origin).hub with journal }⟩,
        (o.send line).1, (written (o.send line).2).map fun () => Command.isQuit line) := by
  obtain ⟨hlimiter, htake⟩ := takeLine?_of_due h
  rw [sendOne, if_pos hlimiter, htake]
  dsimp only
  obtain ⟨journal, hwrite⟩ := write_eq ((s.drop origin).update fun session =>
    { session with limiter := session.limiter.record now }) o line origin
  rw [hwrite]
  cases written (o.send line).2 with
  | error e => exact ⟨journal, rfl⟩
  | ok => exact ⟨journal, rfl⟩

/-- Where no line is due, a session that may send looks whether it should ask for its nick. -/
lemma sendOne_eq_of_not_due (h : s.due? now = none) (o : Outlet) :
    s.sendOne o now = (if s.session.limiter.ready now then s.askAgain now else s, o, .ok false) := by
  rw [sendOne]
  split
  · next hlimiter => rw [takeLine?_of_not_due h hlimiter]
  · rfl

/-! ### Deeds that write -/

lemma perform_register (s : Seat) (now : Time) (wire : Wire) :
    s.perform now (.register wire) = ((s.register ⟨[], wire⟩ now).1,
      ⟨(s.register ⟨[], wire⟩ now).2.1.sent, none,
        some ((s.register ⟨[], wire⟩ now).2.2.map fun () => false)⟩) := by
  rw [perform]

lemma perform_send (s : Seat) (now : Time) (wire : Wire) :
    s.perform now (.send wire) = ((s.sendOne ⟨[], wire⟩ now).1,
      ⟨(s.sendOne ⟨[], wire⟩ now).2.1.sent, none,
        some (s.sendOne ⟨[], wire⟩ now).2.2⟩) := by
  rw [perform]

lemma perform_flush (s : Seat) (now : Time) (wire : Wire) :
    s.perform now (.flush wire) =
      ((s.flushLines ⟨[], wire⟩ s.session.outbox.lines).1,
        { Effect.none with
          written := (s.flushLines ⟨[], wire⟩ s.session.outbox.lines).2.sent }) := by
  rw [perform, flush]

end ChatLink.Seat
