/-
# The lives of a bridge's workers

Every worker of a bridge that was started lives one of the lives that can come about: its own steps
are those of such a life, and what the other workers and the game do leaves its place in the roster
as it is.  So what holds of all these lives holds of the workers of every bridge.
-/
import Mathlib
import ChatLink.Proofs.Bridge.Runs
import ChatLink.Proofs.Session.Life

namespace ChatLink

variable {b b' : Bridge} {w : Worker} {i : Nat} {s t : Seat} {a : Activity}

lemma Seat.Goes.moves (h : s.Goes t) : s.Moves t := by
  induction h with
  | refl => exact .refl s
  | deed now _ hd ih => exact ih.trans (Seat.moves_perform _ now hd)
  | beside _ _ _ ih => exact ih.trans (Seat.Keeps.moves ⟨⟨rfl, rfl, rfl⟩, rfl⟩)

/-- A worker may be at this seat and about to do this. -/
def Life.Passes (i : Nat) (s : Seat) (a : Activity) : Prop :=
  ∃ l : Life, l.Reachable i ∧ l.seat = s ∧ l.activity = a

namespace Life.Passes

lemma index (h : Passes i s a) : s.session.index = i := by
  obtain ⟨l, hl, rfl, -⟩ := h
  obtain ⟨_, _, _, hchronicle⟩ := hl.chronicle
  exact hchronicle.stage.index

lemma step (h : Passes i s a) (stopping : Bool) (now : Time) (e : Stimulus) :
    Passes i (s.step stopping now a e).seat (s.step stopping now a e).activity := by
  obtain ⟨l, hl, rfl, rfl⟩ := h
  exact ⟨_, hl.step stopping now e, rfl, rfl⟩

/-- What is left to do once the bridge is stopping is one step, and two where a worker is about to
read: it sends its own queue all the same. -/
lemma windDown (h : Passes i s a) : Passes i (s.windDown a).seat (s.windDown a).activity := by
  cases a with
  | starting => exact h.step true 0 .proceed
  | connecting => exact h.step true 0 (.connected .free)
  | sending wire => exact h.step true 0 .proceed
  | receiving wire => exact (h.step true 0 (.heard (.ok none))).step true 0 .proceed
  | pausing => exact h.step true 0 .awake
  | stopped => exact h

lemma beside (h : Passes i s a) {hub : Hub} (outbox : Queue)
    (hstate : hub.roster.state? i = s.hub.roster.state? i) :
    Passes i ⟨{ s.session with outbox }, hub⟩ a := by
  obtain ⟨l, hl, rfl, rfl⟩ := h
  exact ⟨_, hl.beside hub outbox hstate, rfl, rfl⟩

end Life.Passes

namespace Bridge

/-- Every worker of the bridge lives a life that can come about. -/
def Alive (b : Bridge) : Prop :=
  ∀ (i : Nat) (w : Worker), b.workers[i]? = some w → Life.Passes i (w.seat b.hub) w.activity

lemma alive_start {now : Time} {shortage : Option Shortage} (h : (b.start now shortage).2 = .ok ()) :
    (b.start now shortage).1.Alive := by
  obtain ⟨-, -, journal, heq⟩ := start_ok h
  rw [heq]
  intro i w hw
  obtain ⟨j, hj, rfl⟩ := Option.map_eq_some_iff.1 ((List.getElem?_map ..).symm.trans hw)
  obtain ⟨hlt, rfl⟩ := List.getElem?_eq_some_iff.1 hj
  rw [List.length_range] at hlt
  rw [List.getElem_range]
  let hub : Hub := { b.hub with roster := .ofNicks b.config.sessionNicks, journal }
  refine ⟨.begin hub i now, .begin hub now ?_, rfl, rfl⟩
  show ((b.config.sessionNicks.map _)[i]?.map Slot.state).isSome = true
  simp [Config.sessionNicks, hlt]

/-- A worker that takes a step leaves the others where they are. -/
lemma Alive.settle (h : b.Alive) (hw : b.workers[i]? = some w) {x : Step}
    (hx : Life.Passes i x.seat x.activity) (hgo : (w.seat b.hub).Goes x.seat) :
    (b.settle i x).1.Alive := by
  intro k v hv
  have hlt : i < b.workers.length := (List.getElem?_eq_some_iff.1 hw).1
  have hv' : (b.workers.set i (.ofStep x))[k]? = some v := hv
  by_cases hik : i = k
  · subst hik
    rw [List.getElem?_set_self hlt] at hv'
    cases hv'
    exact hx
  · rw [List.getElem?_set_ne hik] at hv'
    have hindex : k ≠ (w.seat b.hub).session.index := by
      rw [(h i w hw).index]
      exact Ne.symm hik
    exact (h k v hv').beside v.session.outbox (hgo.moves.state_other k hindex)

/-- What the game and others put into queues does not concern the lives. -/
lemma Alive.beside (h : b.Alive) (hroster : b'.hub.roster = b.hub.roster)
    (hworkers : ∀ (i : Nat) (v : Worker), b'.workers[i]? = some v → ∃ w outbox,
      b.workers[i]? = some w ∧ v = { w with session := { w.session with outbox } }) : b'.Alive := by
  intro i v hv
  obtain ⟨w, outbox, hw, rfl⟩ := hworkers i v hv
  exact (h i w hw).beside outbox (by rw [hroster]; rfl)

/-- **Every worker of a bridge lives a life that can come about.** -/
theorem Started.alive (h : b.Started) : b.Alive := by
  induction h with
  | start h => exact alive_start h
  | @step b i now e _ ih =>
    rw [Bridge.step]
    split
    · next w hw =>
      exact ih.settle hw ((ih i w hw).step _ now e) (Seat.goes_step _ _ now w.activity e)
    · exact ih
  | @windDown b i _ ih =>
    rw [Bridge.windDown]
    split
    · next w hw => exact ih.settle hw (ih i w hw).windDown (Seat.goes_windDown _ w.activity)
    · exact ih
  | @stop b reason _ ih =>
    rcases b.stop_cases reason with ⟨-, heq⟩ | ⟨-, journal, heq⟩
    · rwa [heq]
    rw [heq]
    refine ih.beside rfl fun i v hv => ?_
    obtain ⟨w, hw, rfl⟩ := Option.map_eq_some_iff.1 ((List.getElem?_map ..).symm.trans hv)
    exact ⟨w, _, hw, rfl⟩
  | @enqueue b draft text _ ih =>
    obtain ⟨lines, journal, heq, -⟩ := b.enqueue_pushes draft text
    rw [heq]
    exact ih.beside rfl fun i v hv => ⟨v, v.session.outbox, hv, rfl⟩

end Bridge
end ChatLink
