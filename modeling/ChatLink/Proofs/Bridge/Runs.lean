/-
# The runs of a bridge

What a worker does in one step is a few deeds of its session, with records and queues changed in
between.  So every run that a bridge starts and moves on is one that can come about, and whatever
holds of all such runs holds of every bridge: in particular its sessions are seated.
-/
import Mathlib
import ChatLink.Proofs.Bridge.Relay
import ChatLink.Proofs.Session.Reachable

namespace ChatLink

namespace Seat

/-- One seat comes from another by deeds of the session, and by changes of what is recorded and of
what the game was told. -/
inductive Goes (s : Seat) : Seat → Prop where
  | refl : Goes s s
  | deed {t : Seat} (now : Time) {d : Deed} :
      Goes s t → d ≠ .resetNick → Goes s (t.perform now d).1
  | beside {t : Seat} (journal : List Record) (delivered : List NetworkEvent) :
      Goes s t → Goes s { t with hub := { t.hub with journal, delivered } }

variable {s t u : Seat} {now : Time} {stopping : Bool} {wire : Wire}

lemma Goes.logAs (h : s.Goes t) (level : Level) (parts : List Text) :
    s.Goes (t.logAs level parts) :=
  h.beside _ _

lemma Goes.log (h : s.Goes t) (r : Record) : s.Goes (t.log r) := h.beside _ _

lemma Goes.setState (h : s.Goes t) (state : SessionState) : s.Goes (t.setState state) :=
  h.deed 0 (d := .report state) (by simp)

/-! ### The steps of a worker -/

lemma Goes.stop (h : s.Goes t) : s.Goes t.stop.seat := (h.setState .stopped).logAs _ _

lemma Goes.conclude (h : s.Goes t) (e : Exit) : s.Goes (t.conclude e).seat := by
  have hgone : s.Goes t.disconnect := h.deed 0 (d := .disconnect) (by simp)
  cases e with
  | reconnect => exact hgone.setState .disconnected
  | fatal => exact hgone.stop
  | shutdown => exact hgone.stop

lemma Goes.lose (h : s.Goes t) (why : Text) : s.Goes (t.lose why).seat :=
  (h.logAs _ _).conclude .reconnect

lemma goes_begin (s : Seat) (stopping : Bool) : s.Goes (s.begin stopping).seat := by
  rw [Seat.begin]
  split
  · exact Goes.refl.stop
  · exact (Goes.refl.setState .connecting).log _

lemma goes_connect (s : Seat) (stopping : Bool) (wire : Wire) (now : Time) :
    s.Goes (s.connect stopping wire now).seat := by
  have hregister : s.Goes (s.register ⟨[], wire⟩ now).1 :=
    Goes.refl.deed now (d := .register wire) (by simp)
  rw [connect]
  split
  · exact Goes.refl.conclude .shutdown
  · split
    · next t o h =>
      rw [h] at hregister
      exact hregister
    · next t o e h =>
      rw [h] at hregister
      exact hregister.lose e.message

lemma goes_send (s : Seat) (stopping : Bool) (wire : Wire) (now : Time) :
    s.Goes (s.send stopping wire now).seat := by
  rw [send]
  split
  · have hflush : s.Goes (s.flush ⟨[], wire⟩).1 :=
      Goes.refl.deed now (d := .flush wire) (by simp)
    exact hflush.conclude .shutdown
  · have hrejoin : s.Goes (s.rejoinDue now) := Goes.refl.deed now (d := .rejoin) (by simp)
    have hsend : s.Goes ((s.rejoinDue now).sendOne ⟨[], wire⟩ now).1 :=
      hrejoin.deed now (d := .send wire) (by simp)
    split
    · next t o e h =>
      rw [h] at hsend
      exact hsend.lose e.message
    · next t o h =>
      rw [h] at hsend
      exact hsend.conclude .shutdown
    · next t o h =>
      rw [h] at hsend
      exact hsend

lemma goes_hear (s : Seat) (now : Time) (line : Text) : s.Goes (s.hear now line).1 :=
  Goes.refl.deed now (d := .hear line) (by simp)

lemma goes_receive (s : Seat) (wire : Wire) (now : Time)
    (result : Except ReadError (Option Text)) : s.Goes (s.receive wire now result).seat := by
  cases result with
  | error e => exact Goes.refl.lose e.message
  | ok line =>
    cases line with
    | none => exact .refl
    | some line =>
      have hhear := goes_hear s now line
      rw [receive]
      split
      · next t exit h =>
        rw [h] at hhear
        exact hhear.conclude exit
      · next t h =>
        rw [h] at hhear
        exact hhear

lemma goes_receiveFailing (s : Seat) (wire : Wire) (now : Time) (line why : Text) :
    s.Goes (s.receiveFailing wire now line why).seat := by
  rw [receiveFailing]
  dsimp only
  split
  · exact goes_receive s wire now _
  · refine Goes.conclude (Goes.logAs ?_ _ _) .reconnect
    exact (goes_hear s now line).beside _ _

lemma goes_wake (s : Seat) (stopping : Bool) : s.Goes (s.wake stopping).seat := by
  rw [wake]
  split
  · exact Goes.refl.stop
  · exact Goes.refl.log _

/-- A step of a worker is made of deeds. -/
lemma goes_step (s : Seat) (stopping : Bool) (now : Time) (activity : Activity) (e : Stimulus) :
    s.Goes (s.step stopping now activity e).seat := by
  rw [step.eq_def]
  split
  · exact goes_begin s stopping
  · exact goes_connect s stopping _ now
  · exact Goes.refl.lose _
  · exact goes_send s stopping _ now
  · exact goes_receive s _ now _
  · exact goes_receiveFailing s _ now _ _
  · exact goes_wake s stopping
  · exact .refl

/-- So is what a worker of a stopped run still does. -/
lemma goes_windDown (s : Seat) (activity : Activity) : s.Goes (s.windDown activity).seat := by
  cases activity with
  | starting => exact Goes.refl.stop
  | connecting => exact Goes.refl.conclude .shutdown
  | sending wire => exact goes_send s true wire 0
  | receiving wire => exact goes_send s true wire 0
  | pausing => exact Goes.refl.stop
  | stopped => exact .refl

end Seat

namespace Run

variable {r : Run} {i : Nat} {s t : Seat}

/-- A seat that comes from one of the run takes its place in it. -/
lemma Reachable.settle (h : r.Reachable) (hs : r.seat? i = some s) (hgo : s.Goes t) :
    (r.settle i t).Reachable := by
  obtain ⟨hsession, hhub⟩ := seat?_eq_some_iff.1 hs
  have hseat : ∀ u, (r.settle i u).seat? i = some u := seat?_settle hs
  have hagain : ∀ u v, (r.settle i u).settle i v = r.settle i v := by
    intro u v
    rw [Run.settle, Run.settle, List.set_set, Run.settle]
  -- induction on the way from `s` to `t`: the run with the seat reached so far can come about
  induction hgo with
  | refl =>
    have hsame : r.settle i s = r := by
      obtain ⟨hlt', hget⟩ := List.getElem?_eq_some_iff.1 hsession
      rw [Run.settle, ← hget, List.set_getElem_self, hhub]
    rwa [hsame]
  | @deed t now d _ hd ih =>
    have hact := Reachable.act i now ih hd
    rw [Run.act, hseat t] at hact
    dsimp only at hact
    rwa [hagain] at hact
  | beside _ _ _ ih => exact .beside ih ⟨rfl, rfl, rfl⟩

end Run

namespace Bridge

variable {b b' : Bridge} {i : Nat} {now : Time}

/-- The sessions of a bridge's workers and what they share. -/
def run (b : Bridge) : Run := ⟨b.hub, b.workers.map Worker.session⟩

lemma seat?_run (b : Bridge) (i : Nat) :
    b.run.seat? i = b.workers[i]?.map fun w => w.seat b.hub := by
  show (b.workers.map Worker.session)[i]?.map _ = _
  rw [List.getElem?_map, Option.map_map]
  rfl

lemma run_settle (b : Bridge) (i : Nat) (s : Step) :
    (b.settle i s).1.run = b.run.settle i s.seat := by
  show Run.mk _ ((b.workers.set i (.ofStep s)).map Worker.session) = Run.mk _ _
  rw [List.map_set]
  rfl

/-- A bridge since it was first started: workers take their steps, texts are sent, and it may be
stopped and started again. -/
inductive Started : Bridge → Prop where
  | start {b : Bridge} {now : Time} {shortage : Option Shortage} :
      (b.start now shortage).2 = .ok () → Started (b.start now shortage).1
  | step {b : Bridge} (i : Nat) (now : Time) (e : Stimulus) : Started b → Started (b.step i now e).1
  | windDown {b : Bridge} (i : Nat) : Started b → Started (b.windDown i).1
  | stop {b : Bridge} (reason : Text) : Started b → Started (b.stop reason).1
  | enqueue {b : Bridge} (draft : Text → Text → Draft) (text : Text) :
      Started b → Started (b.enqueue draft text)

/-- What a start may do: it is refused and changes nothing; or it replaces the roster and spawns
workers, all of them if it succeeds. -/
inductive Starting (b : Bridge) (now : Time) : Bridge → Except BridgeError Unit → Prop where
  | disabled (h : b.config.enabled = false) : Starting b now b (.error .disabled)
  | already (h : b.config.enabled = true) (hrunning : b.running = true) :
      Starting b now b (.error .alreadyRunning)
  | short (h : b.config.enabled = true) (hrunning : b.running = false) (why : Text) {count : Nat}
      (hcount : count < b.config.sessionCount) :
      Starting b now ⟨{ b.hub with roster := .ofNicks b.config.sessionNicks }, false,
        freshWorkers b.config now count⟩ (.error (.spawn why))
  | begun (h : b.config.enabled = true) (hrunning : b.running = false) (journal : List Record) :
      Starting b now ⟨{ b.hub with roster := .ofNicks b.config.sessionNicks, journal }, true,
        freshWorkers b.config now b.config.sessionCount⟩ (.ok ())

lemma starting (b : Bridge) (now : Time) (shortage : Option Shortage) :
    b.Starting now (b.start now shortage).1 (b.start now shortage).2 := by
  rw [start]
  split
  · next h => exact .disabled (by simpa using h)
  next henabled =>
  have henabled : b.config.enabled = true := by simpa using henabled
  split
  · next h => exact .already henabled h
  next hrunning =>
  have hrunning : b.running = false := by simpa using hrunning
  dsimp only
  split
  · next s hs =>
    have hindex := (Option.filter_eq_some_iff.1 hs).2
    exact .short henabled hrunning s.why (by simpa using hindex)
  · exact .begun henabled hrunning _

/-- A bridge that starts is enabled and does not run yet, and its sessions are new. -/
lemma start_ok {shortage : Option Shortage} (h : (b.start now shortage).2 = .ok ()) :
    b.config.enabled = true ∧ b.running = false ∧ ∃ journal,
      (b.start now shortage).1 =
        ⟨{ b.hub with roster := .ofNicks b.config.sessionNicks, journal }, true,
          freshWorkers b.config now b.config.sessionCount⟩ := by
  have hstart := b.starting now shortage
  generalize b.start now shortage = next at h hstart
  obtain ⟨b', answer⟩ := next
  dsimp only at h hstart
  subst h
  cases hstart with
  | begun h hrunning journal => exact ⟨h, hrunning, journal, rfl⟩

/-- A bridge that stops leaves its sessions nothing but to leave the network; one that does not run
refuses to stop, and stays as it is. -/
lemma stop_cases (b : Bridge) (reason : Text) :
    (b.running = false ∧ b.stop reason = (b, .error .notRunning)) ∨
      (b.running = true ∧ ∃ journal, b.stop reason =
        (⟨{ b.hub with queue := .empty, journal }, false, b.workers.map (dismiss · reason)⟩,
          .ok ())) := by
  rw [stop]
  split
  · next hrunning => exact .inr ⟨hrunning, _, rfl⟩
  · next hrunning => exact .inl ⟨by simpa using hrunning, rfl⟩

lemma stop_ok {reason : Text} (h : b.stop reason = (b', .ok ())) :
    b.running = true ∧ ∃ journal, b' = ⟨{ b.hub with queue := .empty, journal }, false,
      b.workers.map (dismiss · reason)⟩ := by
  rcases b.stop_cases reason with ⟨-, heq⟩ | ⟨hrunning, journal, heq⟩
  · rw [heq] at h
    cases h
  · exact ⟨hrunning, journal, (Prod.mk.inj (h.symm.trans heq)).1⟩

/-- A bridge that sends a text puts frames of drafts into the shared queue, none if it does not
run. -/
lemma enqueue_pushes (b : Bridge) (draft : Text → Text → Draft) (text : Text) :
    ∃ lines journal, b.enqueue draft text =
        { b with hub := { b.hub with queue := b.hub.queue.pushAll lines, journal } } ∧
      (∀ line ∈ lines, ∃ channel converted, line ∈ (draft channel converted).frames b.hub.limits) ∧
      (b.running = false → lines = []) := by
  rw [enqueue]
  split
  · next hrunning =>
    dsimp only
    split
    · exact ⟨[], b.hub.journal, by simp [Queue.pushAll], by simp, fun _ => rfl⟩
    · rw [enqueueAll_eq]
      refine ⟨_, b.hub.journal, rfl, fun line hline => ?_, fun hnot => by simp [hrunning] at hnot⟩
      obtain ⟨channel, -, hframe⟩ := List.mem_flatMap.1 hline
      exact ⟨channel, _, hframe⟩
  · exact ⟨[], _, by rw [Queue.pushAll, List.append_nil]; rfl, by simp, fun _ => rfl⟩

lemma reachable_start {shortage : Option Shortage} (h : (b.start now shortage).2 = .ok ()) :
    (b.start now shortage).1.run.Reachable := by
  obtain ⟨-, -, journal, heq⟩ := start_ok h
  rw [heq]
  refine .beside (.begin b.hub now) ⟨rfl, rfl, ?_⟩
  simp only [run, Run.begin, freshWorkers, List.map_map]
  rfl

lemma reachable_settle {w : Worker} {s : Step} (h : b.run.Reachable) (hw : b.workers[i]? = some w)
    (hgo : (w.seat b.hub).Goes s.seat) : (b.settle i s).1.run.Reachable := by
  have hseat : b.run.seat? i = some (w.seat b.hub) := by
    rw [seat?_run, hw]
    rfl
  rw [run_settle]
  exact h.settle hseat hgo

lemma reachable_enqueue (h : b.run.Reachable) (draft : Text → Text → Draft) (text : Text) :
    (b.enqueue draft text).run.Reachable := by
  obtain ⟨lines, journal, heq, -⟩ := b.enqueue_pushes draft text
  rw [heq]
  exact .beside h ⟨rfl, rfl, rfl⟩

/-- **Every run of a bridge can come about.** -/
theorem Started.reachable (h : b.Started) : b.run.Reachable := by
  induction h with
  | start h => exact reachable_start h
  | @step b i now e _ ih =>
    rw [Bridge.step]
    split
    · next w hw => exact reachable_settle ih hw (Seat.goes_step _ _ now w.activity e)
    · exact ih
  | @windDown b i _ ih =>
    rw [Bridge.windDown]
    split
    · next w hw => exact reachable_settle ih hw (Seat.goes_windDown _ w.activity)
    · exact ih
  | @stop b reason _ ih =>
    rcases b.stop_cases reason with ⟨-, heq⟩ | ⟨-, journal, heq⟩
    · rwa [heq]
    · rw [heq]
      refine .beside ih ⟨rfl, rfl, ?_⟩
      simp only [run, List.map_map]
      rfl
  | enqueue draft text _ ih => exact reachable_enqueue ih draft text

end Bridge
end ChatLink
