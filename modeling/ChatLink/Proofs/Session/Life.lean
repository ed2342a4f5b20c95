/-
# What the roster is told of a worker

A worker attempts one connection after another until one ends for good or the bridge stops.  The
roster is told of one attempt after the other, and the last thing it is told of a worker is that it
has stopped.  `Life.Reachable` says what a worker may go through, whatever comes from outside and
whatever others do to the hub meanwhile.  Main statement: `Life.told_attempts`.
-/
import Mathlib
import ChatLink.Proofs.Session.Attempts

namespace ChatLink

variable {i : Nat} {current : List SessionState}

/-- A worker at a moment of its life, and what came before it. -/
structure Life where
  seat : Seat
  activity : Activity
  /-- What the session told the roster, the oldest first. -/
  told : List (Nat × SessionState)
  /-- How the attempts that are over ended, the oldest first. -/
  endings : List Ending

namespace Life

/-- A new worker. -/
def begin (hub : Hub) (i : Nat) (now : Time) : Life :=
  ⟨⟨.fresh hub.config i now, hub⟩, .starting, [], []⟩

/-- The worker goes on. -/
def advance (l : Life) (x : Step) (ending? : Option Ending) : Life where
  seat := x.seat
  activity := x.activity
  told := l.told ++ l.seat.reported x.seat
  endings := l.endings ++ ending?.toList

/-- The worker takes a step. -/
def step (l : Life) (stopping : Bool) (now : Time) (e : Stimulus) : Life :=
  l.advance (l.seat.step stopping now l.activity e) (l.seat.ending? stopping now l.activity e)

/-- The session crashes, at a seat that it got to. -/
def crash (l : Life) (t : Seat) (why : Text) : Life := l.advance (t.crash why) (some .crashed)

/-- Others do something: they change the hub, and the queue of the session. -/
def beside (l : Life) (hub : Hub) (outbox : Queue) : Life :=
  { l with seat := ⟨{ l.seat.session with outbox }, hub⟩ }

/-- The lives that can come about at a place of the roster.  Whatever others do, they leave that
place in the state it is in. -/
inductive Reachable (i : Nat) : Life → Prop where
  | begin (hub : Hub) (now : Time) (slot : (hub.roster.state? i).isSome = true) :
      Reachable i (begin hub i now)
  | step {l : Life} (stopping : Bool) (now : Time) (e : Stimulus) :
      Reachable i l → Reachable i (l.step stopping now e)
  | crash {l : Life} {t : Seat} (why : Text) :
      Reachable i l → l.seat.Underway l.activity t → Reachable i (l.crash t why)
  | beside {l : Life} (hub : Hub) (outbox : Queue) :
      Reachable i l → hub.roster.state? i = l.seat.hub.roster.state? i →
        Reachable i (l.beside hub outbox)

/-- What was told in a life: of attempts that another one followed, of one that none followed if the
worker has stopped, and of what came then. -/
structure Chronicle (i : Nat) (l : Life) (retried : List Attempt) (last? : Option Attempt)
    (current : List SessionState) : Prop where
  told : l.told = ((retried ++ last?.toList).flatMap Attempt.states ++ current).map (i, ·)
  endings : (retried ++ last?.toList).map Attempt.ending = l.endings
  retries : ∀ x ∈ retried, x.ending.retries = true
  last : ∀ x ∈ last?, x.ending.retries = false ∧ l.activity = .stopped
  stage : l.seat.Stage i l.activity current

variable {l : Life} {retried : List Attempt} {last? : Option Attempt}

/-- A new session has told nothing. -/
lemma chronicle_begin (hub : Hub) (now : Time) (slot : (hub.roster.state? i).isSome = true) :
    (begin hub i now).Chronicle i [] none [] where
  told := rfl
  endings := rfl
  retries := by simp
  last := by simp
  stage := ⟨⟨rfl, by simp [begin], slot, by simp, by simp [begin, Session.fresh]⟩, .starting⟩

/-- A worker that has not stopped goes on with its last attempt, or that attempt is the next of
those that are over. -/
lemma Chronicle.advance {x : Step} {ending? : Option Ending}
    (h : l.Chronicle i retried last? current) (ha : l.activity ≠ .stopped)
    (hstep : l.seat.Advances i current x ending?) :
    ∃ retried last? current, (l.advance x ending?).Chronicle i retried last? current := by
  obtain ⟨htold, hendings, hretries, hlast, -⟩ := h
  obtain rfl : last? = none := Option.eq_none_iff_forall_not_mem.2 fun y hy => ha (hlast y hy).2
  rw [Option.toList_none, List.append_nil] at htold hendings
  cases hstep with
  | @onward more hmore hstage =>
    refine ⟨retried, none, current ++ more, ?_, ?_, hretries, by simp, hstage⟩
    · rw [Life.advance, htold, hmore]
      simp
    · simpa [Life.advance] using hendings
  | @ended ending welcomes? more rest hopening hmore hstage hstopped =>
    -- what was told of this attempt, before the step and in it
    obtain ⟨y, rfl, hstates⟩ : ∃ y : Attempt, y.ending = ending ∧
        current ++ (more ++ ending.closing) = y.states :=
      ⟨⟨welcomes?, ending⟩, rfl, by rw [← List.append_assoc, hopening, Attempt.states]⟩
    have htold' : l.told ++ l.seat.reported x.seat =
        ((retried ++ [y]).flatMap Attempt.states ++ rest).map (i, ·) := by
      rw [htold, hmore, List.flatMap_append, List.flatMap_singleton, ← hstates]
      simp
    have hendings' : (retried ++ [y]).map Attempt.ending = l.endings ++ [y.ending] := by
      rw [List.map_append, hendings]
      rfl
    cases hretry : y.ending.retries with
    | true =>
      refine ⟨retried ++ [y], none, rest, ?_, ?_, ?_, by simp, hstage⟩
      · rw [Option.toList_none, List.append_nil]
        exact htold'
      · rw [Option.toList_none, List.append_nil]
        exact hendings'
      · exact List.forall_mem_append.2 ⟨hretries, by simpa using hretry⟩
    | false =>
      refine ⟨retried, some y, rest, htold', hendings', hretries, ?_, hstage⟩
      rintro _ ⟨rfl⟩
      exact ⟨hretry, hstopped hretry⟩

lemma Reachable.chronicle (h : l.Reachable i) :
    ∃ retried last? current, l.Chronicle i retried last? current := by
  induction h with
  | begin hub now slot => exact ⟨[], none, [], chronicle_begin hub now slot⟩
  | @step l stopping now e _ ih =>
    obtain ⟨retried, last?, current, h⟩ := ih
    by_cases ha : l.activity = .stopped
    · -- nothing comes of the step
      have hsame : l.step stopping now e = l := by
        obtain ⟨seat, activity, told, endings⟩ := l
        cases ha
        simp [Life.step, Life.advance, Seat.step, Seat.ending?, Seat.reported]
      rw [hsame]
      exact ⟨retried, last?, current, h⟩
    · exact h.advance ha (h.stage.step stopping now e)
  | @crash l t why _ hunderway ih =>
    obtain ⟨retried, last?, current, h⟩ := ih
    have ha : l.activity ≠ .stopped := by
      intro ha
      rw [ha] at hunderway
      cases hunderway with
      | relaying ha _ => cases ha
      | sending ha _ _ _ => cases ha
    exact h.advance ha (h.stage.crash hunderway why)
  | @beside l hub outbox _ hstate ih =>
    obtain ⟨retried, last?, current, h⟩ := ih
    refine ⟨retried, last?, current, h.told, h.endings, h.retries, h.last, ?_⟩
    exact ⟨⟨h.stage.index, by simp, by rw [Life.beside, hstate]; exact h.stage.slot,
      by rw [Life.beside, hstate]; exact h.stage.state, h.stage.ready⟩, h.stage.amid⟩

/-- **What the roster is told of a worker is one attempt after the other.**  Of each attempt it is
told that the session connects, perhaps that it registers and then any number of times that it is
ready, and that it is disconnected if the attempt ended in a way after which the worker tries again.
An attempt that ended otherwise is the last one, and the worker has stopped.  What was told since is
the beginning of an attempt, or nothing, or that the session has stopped, which is told once and as
the last.  Wherever the worker stands while it relays, its session is ready exactly when the roster
has it so. -/
theorem told_attempts (h : l.Reachable i) :
    ∃ (retried : List Attempt) (last? : Option Attempt) (current : List SessionState),
      l.told = ((retried ++ last?.toList).flatMap Attempt.states ++ current).map (i, ·) ∧
      (retried ++ last?.toList).map Attempt.ending = l.endings ∧
      (∀ x ∈ retried, x.ending.retries = true) ∧
      (∀ x ∈ last?, x.ending.retries = false ∧ l.activity = .stopped) ∧
      l.activity.Amid current ∧
      l.told.count (i, .stopped) = (if l.activity = .stopped then 1 else 0) ∧
      (l.activity.isRelaying = true →
        (l.seat.session.ready = true ↔ l.seat.hub.roster.state? i = some .ready)) := by
  obtain ⟨retried, last?, current, h⟩ := h.chronicle
  refine ⟨retried, last?, current, h.told, h.endings, h.retries, h.last, h.stage.amid, ?_,
    h.stage.ready_iff⟩
  have hinjective : Function.Injective fun state : SessionState => (i, state) :=
    fun _ _ heq => (Prod.mk.inj heq).2
  have hattempts : ((retried ++ last?.toList).flatMap Attempt.states).count .stopped = 0 := by
    refine List.count_eq_zero.2 fun hmem => ?_
    obtain ⟨x, -, hx⟩ := List.mem_flatMap.1 hmem
    exact x.stopped_not_mem_states hx
  rw [h.told, List.count_map_of_injective _ _ hinjective, List.count_append, hattempts,
    Nat.zero_add]
  exact h.stage.amid.count_stopped

/-- A worker whose connection is closed once it is ready, which is then refused a connection,
crashes while it waits for the next, and is banned from a channel in the end. -/
theorem told_attempts_banned :
    let registered := (((begin (.fresh .default) 0 0).step false 0 .proceed).step false 1
      (.connected .free)).step false 2 .proceed
    let ready := (registered.step false 3
      (.heard (.ok (some ":irc.test 001 ServerBot :Welcome")))).step false 4 .proceed
    let closed := (ready.step false 5 (.heard (.error .closed))).step false 6 .awake
    let refused := (closed.step false 7 .proceed).step false 8 (.refused "no route")
    let waiting := (refused.step false 9 .awake).step false 10 .proceed
    let again := ((waiting.crash waiting.seat "panic").step false 11 .awake).step false 12 .proceed
    let banned := ((again.step false 13 (.connected .free)).step false 14 .proceed).step false 15
      (.heard (.ok (some ":irc.test 474 ServerBot #changeme :Cannot join")))
    banned.Reachable 0 ∧ banned.activity = .stopped ∧
      banned.endings = [.failed, .failed, .crashed, .exit .fatal] ∧
      banned.told.count (0, .stopped) = 1 ∧
      ready.activity.isRelaying = true ∧ ready.seat.session.ready = true ∧
      ready.seat.hub.roster.state? 0 = some .ready := by
  intro registered ready closed refused waiting again banned
  have hregistered : registered.Reachable 0 :=
    (((Reachable.begin (.fresh .default) 0 (by decide)).step _ _ _).step _ _ _).step _ _ _
  have hready : ready.Reachable 0 := (hregistered.step _ _ _).step _ _ _
  have hclosed : closed.Reachable 0 := (hready.step _ _ _).step _ _ _
  have hwaiting : waiting.Reachable 0 :=
    (((hclosed.step _ _ _).step _ _ _).step _ _ _).step _ _ _
  have hagain : again.Reachable 0 :=
    ((hwaiting.crash _ .connecting).step _ _ _).step _ _ _
  have hbanned : banned.Reachable 0 := ((hagain.step _ _ _).step _ _ _).step _ _ _
  have hstopped : banned.activity = .stopped := by decide
  obtain ⟨-, -, -, -, -, -, -, -, hcount, -⟩ := told_attempts hbanned
  obtain ⟨-, -, -, -, -, -, -, -, -, hiff⟩ := told_attempts hready
  rw [if_pos hstopped] at hcount
  have hflag : ready.seat.session.ready = true := by decide
  exact ⟨hbanned, hstopped, by decide, hcount, by decide, hflag, (hiff (by decide)).1 hflag⟩

end Life
end ChatLink
