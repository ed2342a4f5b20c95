/-
# Attempts at a connection

Of each attempt that a worker makes at a connection the roster is told that the session connects,
that it registers once there is a connection, and as often as the network welcomes it that it is
ready.  Of an attempt that is followed by another it is told in the end that the session is
disconnected.  A step of a worker goes on with its attempt or ends it, and so does a crash.  Main
statements: `Seat.Stage.step`, `Seat.Stage.crash`.
-/
import Mathlib
import ChatLink.Proofs.Roster.Election
import ChatLink.Proofs.Session.Acts
import ChatLink.Proofs.Session.Writing
import ChatLink.Session.Worker

namespace ChatLink

variable {i : Nat} {s t u : Seat} {a : Activity} {now : Time} {current more : List SessionState}

/-! ### Attempts -/

/-- How an attempt at a connection ended. -/
inductive Ending where
  /-- The session gave it up. -/
  | exit (why : Exit)
  /-- No connection was made, or the connection failed. -/
  | failed
  /-- The session crashed. -/
  | crashed
deriving DecidableEq, Repr

/-- Another attempt follows. -/
def Ending.retries : Ending → Bool
  | exit .reconnect | failed | crashed => true
  | exit .fatal | exit .shutdown => false

/-- What is told of an attempt when it has ended. -/
def Ending.closing (ending : Ending) : List SessionState :=
  if ending.retries then [.disconnected] else []

/-- An attempt at a connection. -/
structure Attempt where
  /-- How often the network welcomed the session; no number if it did not get to register. -/
  welcomes? : Option Nat
  ending : Ending

namespace Attempt

/-- What is told of an attempt while it lasts. -/
def opening : Option Nat → List SessionState
  | none => [.connecting]
  | some welcomes => .connecting :: .registering :: List.replicate welcomes .ready

/-- What is told of an attempt. -/
def states (x : Attempt) : List SessionState := opening x.welcomes? ++ x.ending.closing

lemma opening_append_ready (welcomes more : Nat) :
    opening (some welcomes) ++ List.replicate more .ready = opening (some (welcomes + more)) := by
  rw [opening, opening, List.cons_append, List.cons_append, List.replicate_append_replicate]

lemma stopped_not_mem_opening (welcomes? : Option Nat) : .stopped ∉ opening welcomes? := by
  cases welcomes? with
  | none => simp [opening]
  | some welcomes => simp [opening, List.mem_replicate]

lemma stopped_not_mem_states (x : Attempt) : .stopped ∉ x.states := by
  rw [states, List.mem_append, not_or, Ending.closing]
  refine ⟨stopped_not_mem_opening _, ?_⟩
  split <;> simp

end Attempt

namespace Activity

/-- The worker relays: it has registered and its connection lasts. -/
def isRelaying : Activity → Bool
  | sending _ | receiving _ => true
  | starting | connecting | pausing | stopped => false

/-- What was told since the last attempt ended by a worker that is about to do something. -/
inductive Amid : Activity → List SessionState → Prop where
  | starting : Amid .starting []
  | connecting : Amid .connecting (Attempt.opening none)
  | sending (wire : Wire) (welcomes : Nat) :
      Amid (.sending wire) (Attempt.opening (some welcomes))
  | receiving (wire : Wire) (welcomes : Nat) :
      Amid (.receiving wire) (Attempt.opening (some welcomes))
  | pausing : Amid .pausing []
  | stopped : Amid .stopped [.stopped]

lemma Amid.exists_opening (h : a.Amid current) (ha : a.isRelaying = true) :
    ∃ welcomes, current = Attempt.opening (some welcomes) := by
  cases h with
  | starting | connecting | pausing | stopped => cases ha
  | sending wire welcomes | receiving wire welcomes => exact ⟨welcomes, rfl⟩

lemma Amid.count_stopped (h : a.Amid current) :
    current.count .stopped = if a = .stopped then 1 else 0 := by
  cases h with
  | starting | pausing | stopped => rfl
  | connecting => exact List.count_eq_zero.2 (Attempt.stopped_not_mem_opening _)
  | sending wire welcomes | receiving wire welcomes =>
    exact List.count_eq_zero.2 (Attempt.stopped_not_mem_opening _)

end Activity

namespace Seat

/-- How a step of a worker ends an attempt, if it does. -/
def ending? (s : Seat) (stopping : Bool) (now : Time) : Activity → Stimulus → Option Ending
  | .connecting, .connected wire =>
    if stopping then some (.exit .shutdown)
    else
      match (s.register ⟨[], wire⟩ now).2.2 with
      | .ok () => none
      | .error _ => some .failed
  | .connecting, .refused _ => some .failed
  | .sending wire, .proceed =>
    if stopping then some (.exit .shutdown)
    else
      match ((s.rejoinDue now).sendOne ⟨[], wire⟩ now).2.2 with
      | .ok false => none
      | .ok true => some (.exit .shutdown)
      | .error _ => some .failed
  | .receiving _, .heard (.ok (some line)) => (s.hear now line).2.map .exit
  | .receiving _, .heard (.error _) => some .failed
  | .receiving _, .heardFailing line _ =>
    if (s.hear now line).1.hub.delivered = s.hub.delivered then (s.hear now line).2.map .exit
    else some .crashed
  | _, _ => none

/-- What a session told the roster on the way from one seat to another. -/
def reported (s t : Seat) : List (Nat × SessionState) := t.hub.reports.drop s.hub.reports.length

/-- How far a session may have got in an attempt when it crashes: it waits for a connection, it
registers, or it relays and does something then or has sent a line besides. -/
inductive Underway (s : Seat) : Activity → Seat → Prop where
  | connecting : Underway s .connecting s
  | registering (o : Outlet) (now : Time) : Underway s .connecting (s.register o now).1
  | relaying {a : Activity} {t : Seat} (relaying : a.isRelaying = true) (acts : s.Acts t) :
      Underway s a t
  | sending {a : Activity} {t : Seat} (relaying : a.isRelaying = true) (acts : s.Acts t)
      (o : Outlet) (now : Time) : Underway s a (t.sendOne o now).1

/-! ### What is told on the way from one seat to another -/

/-- On the way from `s` to `t` the session told more of an attempt of which some was told before.
The roster has what was told last, and the session is ready if it was told that it is. -/
structure Reports (i : Nat) (s : Seat) (current : List SessionState) (t : Seat)
    (more : List SessionState) : Prop where
  index : t.session.index = i
  reports : t.hub.reports = s.hub.reports ++ more.map (i, ·)
  slot : (t.hub.roster.state? i).isSome = true
  state : ∀ state ∈ (current ++ more).getLast?, t.hub.roster.state? i = some state
  ready : t.session.ready = true ↔ .ready ∈ current ++ more

namespace Reports

lemma reported_eq (h : Reports i s current t more) : s.reported t = more.map (i, ·) := by
  rw [reported, h.reports, List.drop_left]

/-- What was told on the way so far is told. -/
lemma settled (h : Reports i s current t more) : Reports i t (current ++ more) t [] where
  index := h.index
  reports := by simp
  slot := h.slot
  state := by simpa using h.state
  ready := by simpa using h.ready

/-- Nothing is told. -/
lemma of_eq (h : Reports i s current t more) (index : u.session.index = t.session.index)
    (reports : u.hub.reports = t.hub.reports)
    (state : u.hub.roster.state? i = t.hub.roster.state? i)
    (ready : u.session.ready = t.session.ready) : Reports i s current u more where
  index := index.trans h.index
  reports := reports.trans h.reports
  slot := by rw [state]; exact h.slot
  state := by rw [state]; exact h.state
  ready := by rw [ready]; exact h.ready

/-- One more state is told. -/
lemma report (h : Reports i s current t more) {state : SessionState}
    (index : u.session.index = t.session.index) (hub : u.hub = t.hub.setState i state)
    (ready : u.session.ready = true ↔ t.session.ready = true ∨ state = .ready) :
    Reports i s current u (more ++ [state]) where
  index := index.trans h.index
  reports := by
    rw [hub, List.map_append, ← List.append_assoc, ← h.reports]
    rfl
  slot := by
    show (u.hub.roster.state? i).isSome = true
    rw [hub, Hub.setState, Roster.state?_setState, if_pos rfl, Option.isSome_map]
    exact h.slot
  state last hlast := by
    rw [← List.append_assoc, List.getLast?_concat, Option.mem_some_iff] at hlast
    obtain ⟨old, hold⟩ := Option.isSome_iff_exists.1 h.slot
    rw [hub, Hub.setState, Roster.state?_setState, if_pos rfl, hold, ← hlast]
    rfl
  ready := by
    rw [ready, h.ready, ← List.append_assoc, List.mem_append (t := [state]), List.mem_singleton,
      eq_comm (a := state)]

lemma setState (h : Reports i s current t more) {state : SessionState} (hstate : state ≠ .ready) :
    Reports i s current (t.setState state) (more ++ [state]) :=
  h.report rfl (by rw [← h.index]; rfl) (by simp [hstate, Seat.setState])

/-- What a session does besides sending tells at most that it is ready, as often as it is
welcome. -/
lemma acts (h : Reports i s current t more) (hact : t.Acts u) :
    ∃ welcomes, Reports i s current u (more ++ List.replicate welcomes .ready) := by
  induction hact with
  | refl => exact ⟨0, by simpa using h⟩
  | log _ _ ih | push _ _ ih | deliver _ _ ih | learn _ _ ih =>
    obtain ⟨welcomes, ih⟩ := ih
    exact ⟨welcomes, ih.of_eq rfl rfl rfl rfl⟩
  | publishNick _ ih =>
    obtain ⟨welcomes, ih⟩ := ih
    exact ⟨welcomes, ih.of_eq rfl rfl (Roster.state?_setNick _ _ _ _) rfl⟩
  | @update t _ f index _ _ ready ih =>
    obtain ⟨welcomes, ih⟩ := ih
    exact ⟨welcomes, ih.of_eq (index t.session) rfl rfl (ready t.session)⟩
  | @welcome t _ now ih =>
    obtain ⟨welcomes, ih⟩ := ih
    refine ⟨welcomes + 1, ?_⟩
    rw [List.replicate_succ', ← List.append_assoc]
    refine ih.report rfl ?_ (iff_of_true rfl (.inr rfl))
    rw [← ih.index]
    rfl

/-- While a session relays, what it does besides sending goes on with what is told then. -/
lemma acts_relaying {welcomes : Nat} (h : Reports i s current s [])
    (hcurrent : current = Attempt.opening (some welcomes)) (hact : s.Acts t) :
    ∃ welcomes' more, current ++ more = Attempt.opening (some welcomes') ∧
      Reports i s current t more := by
  obtain ⟨again, hmore⟩ := h.acts hact
  exact ⟨welcomes + again, _, by rw [hcurrent]; exact Attempt.opening_append_ready _ _, hmore⟩

lemma register (h : Reports i s current s []) (o : Outlet) (now : Time) :
    Reports i s current (s.register o now).1 [.registering] := by
  obtain ⟨journal, limiter, -, heq⟩ := register_eq s o now
  rw [heq]
  have hstate : Reports i s current (s.setState .registering) [.registering] :=
    h.setState (by decide)
  exact hstate.of_eq rfl rfl (Roster.state?_setNick _ _ _ _) rfl

/-- A session that sends a line or lets it be tells nothing but what follows from what it does
besides. -/
lemma sendOne {welcomes : Nat} (h : Reports i s current s [])
    (hcurrent : current = Attempt.opening (some welcomes)) (hact : s.Acts t) (o : Outlet)
    (now : Time) :
    ∃ welcomes' more, current ++ more = Attempt.opening (some welcomes') ∧
      Reports i s current (t.sendOne o now).1 more := by
  cases hdue : t.due? now with
  | some due =>
    obtain ⟨origin, line⟩ := due
    obtain ⟨journal, heq⟩ := sendOne_eq_of_due hdue o
    obtain ⟨welcomes', more, hopening, hmore⟩ := h.acts_relaying hcurrent hact
    refine ⟨welcomes', more, hopening, ?_⟩
    rw [heq]
    cases origin with
    | own => exact hmore.of_eq rfl rfl rfl rfl
    | shared => exact hmore.of_eq rfl rfl rfl rfl
  | none =>
    rw [sendOne_eq_of_not_due hdue]
    dsimp only
    split
    · exact h.acts_relaying hcurrent (hact.askAgain now)
    · exact h.acts_relaying hcurrent hact

lemma flush (h : Reports i s current s []) (o : Outlet) : Reports i s current (s.flush o).1 [] := by
  obtain ⟨journal, rest, -, heq⟩ := flushLines_eq s o s.session.outbox.lines
  rw [Seat.flush, heq]
  exact h.of_eq rfl rfl rfl rfl

end Reports

/-! ### Steps -/

/-- A worker that is about to do something, and what it told of the attempt it is in. -/
structure Stage (i : Nat) (s : Seat) (a : Activity) (current : List SessionState) : Prop
    extends Reports i s current s [] where
  amid : a.Amid current

/-- While a worker relays, its session is ready exactly when the roster has it so. -/
lemma Stage.ready_iff (h : Stage i s a current) (ha : a.isRelaying = true) :
    s.session.ready = true ↔ s.hub.roster.state? i = some .ready := by
  obtain ⟨welcomes, rfl⟩ := h.amid.exists_opening ha
  have hready := h.ready
  have hstate := h.state
  rw [List.append_nil] at hready hstate
  cases welcomes with
  | zero =>
    rw [hready, hstate .registering rfl]
    simp [Attempt.opening]
  | succ welcomes =>
    have hlast : (Attempt.opening (some (welcomes + 1))).getLast? = some .ready := by
      rw [← Attempt.opening_append_ready welcomes 1]
      exact List.getLast?_concat
    rw [hready, hstate .ready hlast]
    simp [Attempt.opening]

/-- How a worker goes on: the attempt it is in lasts, or it has ended. -/
inductive Advances (i : Nat) (s : Seat) (current : List SessionState) (x : Step) :
    Option Ending → Prop where
  | onward {more : List SessionState} (told : s.reported x.seat = more.map (i, ·))
      (stage : Stage i x.seat x.activity (current ++ more)) : Advances i s current x none
  | ended {ending : Ending} {welcomes? : Option Nat} {more rest : List SessionState}
      (opening : current ++ more = Attempt.opening welcomes?)
      (told : s.reported x.seat = (more ++ ending.closing ++ rest).map (i, ·))
      (stage : Stage i x.seat x.activity rest)
      (stopped : ending.retries = false → x.activity = .stopped) :
      Advances i s current x (some ending)

lemma Reports.onward {x : Step} (h : Reports i s current x.seat more)
    (amid : x.activity.Amid (current ++ more)) : Advances i s current x none :=
  .onward h.reported_eq { h.settled with amid }

/-- A session that lost its connection has been told nothing of another attempt yet. -/
lemma Reports.disconnect (h : Reports i s current t more) :
    Reports i t.disconnect [] t.disconnect [] where
  index := h.index
  reports := by simp
  slot := h.slot
  state := by simp
  ready := by simp [Seat.disconnect, Seat.update, Session.disconnect]

lemma Reports.stop (h : Reports i s current t more) :
    Reports i s current t.stop.seat (more ++ [.stopped]) :=
  (h.setState (by decide)).of_eq rfl rfl rfl rfl

/-- What a session tells once its connection is gone comes behind what it told before. -/
lemma Reports.reported_disconnect {rest : List SessionState} (h : Reports i s current t more)
    (h' : Reports i t.disconnect [] u rest) : s.reported u = (more ++ rest).map (i, ·) := by
  have hreports : t.disconnect.hub.reports = s.hub.reports ++ more.map (i, ·) := h.reports
  rw [reported, h'.reports, hreports, List.append_assoc, List.drop_left, List.map_append]

/-- A connection that is over ends the attempt. -/
lemma Reports.conclude {ending : Ending} (h : Reports i s current t more)
    (hopening : ∃ welcomes?, current ++ more = Attempt.opening welcomes?) (why : Exit)
    (hretries : ending.retries = (Ending.exit why).retries) :
    Advances i s current (t.conclude why) (some ending) := by
  obtain ⟨welcomes?, opening⟩ := hopening
  have hstop : ending.retries = false → Advances i s current t.disconnect.stop (some ending) := by
    intro hno
    have hreports : Reports i t.disconnect [] t.disconnect.stop.seat [.stopped] := h.disconnect.stop
    refine .ended opening ?_ { hreports.settled with amid := .stopped } fun _ => rfl
    rw [Ending.closing, hno, h.reported_disconnect hreports]
    simp
  cases why with
  | reconnect =>
    have hreports :
        Reports i t.disconnect [] (t.disconnect.setState .disconnected) [.disconnected] :=
      h.disconnect.setState (by decide)
    have hgone : Reports i (t.disconnect.setState .disconnected) []
        (t.disconnect.setState .disconnected) [] :=
      ⟨hreports.index, by simp, hreports.slot, by simp, by rw [hreports.ready]; decide⟩
    refine .ended opening ?_ { hgone with amid := .pausing } fun hno => ?_
    · show s.reported (t.disconnect.setState .disconnected) = _
      rw [Ending.closing, hretries, h.reported_disconnect hreports]
      simp [Ending.retries]
    · rw [hretries] at hno
      cases hno
  | fatal => exact hstop hretries
  | shutdown => exact hstop hretries

lemma Reports.lose (h : Reports i s current t more)
    (hopening : ∃ welcomes?, current ++ more = Attempt.opening welcomes?) (why : Text) :
    Advances i s current (t.lose why) (some .failed) := by
  have hreports : Reports i s current (t.logAs .warn ["connection lost: ", why]) more :=
    h.of_eq rfl rfl rfl rfl
  exact hreports.conclude hopening .reconnect rfl

lemma Reports.crash (h : Reports i s current t more)
    (hopening : ∃ welcomes?, current ++ more = Attempt.opening welcomes?) (why : Text) :
    Advances i s current (t.crash why) (some .crashed) := by
  have hreports : Reports i s current (t.logAs .error ["session crashed: ", why]) more :=
    h.of_eq rfl rfl rfl rfl
  exact hreports.conclude hopening .reconnect rfl

lemma Advances.after {x : Step} {ending? : Option Ending} (h : Advances i s current x ending?)
    (written : Bytes) : Advances i s current (x.after written) ending? := by
  cases h with
  | onward told stage => exact .onward told stage
  | ended opening told stage stopped => exact .ended opening told stage stopped

namespace Stage

lemma idle (h : Stage i s a current) : Advances i s current ⟨s, a, []⟩ none :=
  h.toReports.onward (by simpa using h.amid)

lemma stop (h : Stage i s a []) : Advances i s [] s.stop none :=
  h.toReports.stop.onward .stopped

lemma begin (h : Stage i s .starting current) (stopping : Bool) :
    Advances i s current (s.begin stopping) none := by
  have hreports := h.toReports
  cases h.amid
  rw [Seat.begin]
  split
  · exact h.stop
  · have hstate : Reports i s [] (s.setState .connecting) [.connecting] :=
      hreports.setState (by decide)
    exact Reports.onward (hstate.of_eq rfl rfl rfl rfl) .connecting

lemma connect (h : Stage i s .connecting current) (stopping : Bool) (now : Time)
    (wire : Wire) :
    Advances i s current (s.connect stopping wire now)
      (s.ending? stopping now .connecting (.connected wire)) := by
  have hreports := h.toReports
  cases h.amid
  have hregister := hreports.register ⟨[], wire⟩ now
  rw [Seat.connect, Seat.ending?]
  split
  · exact hreports.conclude ⟨none, rfl⟩ .shutdown rfl
  · split
    · next t o heq =>
      rw [heq] at hregister ⊢
      exact hregister.onward (.sending _ 0)
    · next t o e heq =>
      rw [heq] at hregister ⊢
      exact (hregister.lose ⟨some 0, rfl⟩ _).after _

lemma send {wire : Wire} (h : Stage i s (.sending wire) current) (stopping : Bool)
    (now : Time) :
    Advances i s current (s.send stopping wire now)
      (s.ending? stopping now (.sending wire) .proceed) := by
  have hreports := h.toReports
  cases h.amid with
  | sending _ welcomes =>
  rw [Seat.send, Seat.ending?]
  split
  · exact ((hreports.flush ⟨[], wire⟩).conclude ⟨some welcomes, by simp⟩ .shutdown rfl).after _
  · obtain ⟨welcomes', more, hopening, hsend⟩ :=
      hreports.sendOne rfl (Acts.refl.rejoinDue now) ⟨[], wire⟩ now
    split
    · next t o e heq =>
      rw [heq] at hsend ⊢
      exact (hsend.lose ⟨_, hopening⟩ _).after _
    · next t o heq =>
      rw [heq] at hsend ⊢
      exact (hsend.conclude ⟨_, hopening⟩ .shutdown rfl).after _
    · next t o heq =>
      rw [heq] at hsend ⊢
      exact hsend.onward (by rw [hopening]; exact .receiving _ _)

lemma receive {wire : Wire} (h : Stage i s (.receiving wire) current)
    (stopping : Bool) (now : Time) (result : Except ReadError (Option Text)) :
    Advances i s current (s.receive wire now result)
      (s.ending? stopping now (.receiving wire) (.heard result)) := by
  have hreports := h.toReports
  cases h.amid with
  | receiving _ welcomes =>
  match result with
  | .error e => exact hreports.lose ⟨some welcomes, by simp⟩ e.message
  | .ok none => exact hreports.onward (by simpa using .sending _ _)
  | .ok (some line) =>
    obtain ⟨welcomes', more, hopening, hhear⟩ :=
      hreports.acts_relaying rfl (Acts.refl.hear now line)
    rw [Seat.receive, Seat.ending?]
    split
    · next t why heq =>
      rw [heq] at hhear ⊢
      exact hhear.conclude ⟨_, hopening⟩ why rfl
    · next t heq =>
      rw [heq] at hhear ⊢
      exact hhear.onward (by rw [hopening]; exact .sending _ _)

lemma receiveFailing {wire : Wire} (h : Stage i s (.receiving wire) current)
    (stopping : Bool) (now : Time) (line why : Text) :
    Advances i s current (s.receiveFailing wire now line why)
      (s.ending? stopping now (.receiving wire) (.heardFailing line why)) := by
  have hreports := h.toReports
  rw [Seat.receiveFailing, Seat.ending?]
  dsimp only
  split
  · exact h.receive stopping now (.ok (some line))
  · cases h.amid with
    | receiving _ welcomes =>
    obtain ⟨welcomes', more, hopening, hhear⟩ :=
      hreports.acts_relaying rfl (Acts.refl.hear now line)
    refine Reports.crash ?_ ⟨_, hopening⟩ why
    exact hhear.of_eq rfl rfl rfl rfl

lemma wake (h : Stage i s .pausing current) (stopping : Bool) :
    Advances i s current (s.wake stopping) none := by
  have hreports := h.toReports
  cases h.amid
  rw [Seat.wake]
  split
  · exact h.stop
  · exact Reports.onward (hreports.of_eq rfl rfl rfl rfl) .starting

/-- A worker that takes a step goes on with the attempt it is in, or ends it. -/
lemma step (h : Stage i s a current) (stopping : Bool) (now : Time) (e : Stimulus) :
    Advances i s current (s.step stopping now a e) (s.ending? stopping now a e) := by
  cases a with
  | starting =>
    cases e with
    | proceed => exact h.begin stopping
    | connected | refused | heard | heardFailing | awake => exact h.idle
  | connecting =>
    cases e with
    | connected wire => exact h.connect stopping now wire
    | refused why =>
      have hreports := h.toReports
      cases h.amid
      exact hreports.lose ⟨none, rfl⟩ why
    | proceed | heard | heardFailing | awake => exact h.idle
  | sending wire =>
    cases e with
    | proceed => exact h.send stopping now
    | connected | refused | heard | heardFailing | awake => exact h.idle
  | receiving wire =>
    cases e with
    | heard result => exact h.receive stopping now result
    | heardFailing line why => exact h.receiveFailing stopping now line why
    | proceed | connected | refused | awake => exact h.idle
  | pausing =>
    cases e with
    | awake => exact h.wake stopping
    | proceed | connected | refused | heard | heardFailing => exact h.idle
  | stopped => exact h.idle

/-- A crash ends the attempt, however far the session got. -/
lemma crash (h : Stage i s a current) (hunderway : s.Underway a t) (why : Text) :
    Advances i s current (t.crash why) (some .crashed) := by
  have hreports := h.toReports
  cases hunderway with
  | connecting =>
    cases h.amid
    exact hreports.crash ⟨none, rfl⟩ why
  | registering o now =>
    cases h.amid
    exact (hreports.register o now).crash ⟨some 0, rfl⟩ why
  | relaying ha hact =>
    obtain ⟨welcomes, hcurrent⟩ := h.amid.exists_opening ha
    obtain ⟨welcomes', more, hopening, hmore⟩ := hreports.acts_relaying hcurrent hact
    exact hmore.crash ⟨_, hopening⟩ why
  | sending ha hact o now =>
    obtain ⟨welcomes, hcurrent⟩ := h.amid.exists_opening ha
    obtain ⟨welcomes', more, hopening, hmore⟩ := hreports.sendOne hcurrent hact o now
    exact hmore.crash ⟨_, hopening⟩ why

end Stage
end Seat

end ChatLink
