/-
# The last line of a session

A bridge that stops leaves each worker one line to send, by which it leaves the network, and whatever
the worker still hears puts other lines behind that one only.  So a worker that relays when the bridge
stops writes this line and nothing else, if it is a line that can be written at all.  The reason loses
its line breaks on the way into it, but nothing of its length.  Main statement:
`farewell_accepted_iff`.
-/
import Mathlib
import ChatLink.Proofs.Bridge.Leaving
import ChatLink.Proofs.Nick.Numbers
import ChatLink.Proofs.Session.Attempts

namespace ChatLink

/-! ### The line -/

lemma Command.quit_eq (reason : Text) : quit reason = ("QUIT :" : Text) ++ reason := rfl

namespace Bridge

lemma isUnbroken_quitReason (reason : Text) : (quitReason reason).IsUnbroken := by
  intro c hc
  rw [quitReason, List.mem_filter, Bool.not_eq_true'] at hc
  exact hc.2

/-- Only its length can be a reason to refuse the line. -/
lemma refusal?_quit_eq_none_iff (reason : Text) :
    refusal? (Command.quit (quitReason reason)) = none ↔ (quitReason reason).byteLength ≤ 504 := by
  have hword : Text.byteLength "QUIT :" = 6 := by decide
  have hunbroken : Text.IsUnbroken "QUIT :" := by simp [isLineBreak]
  rw [Command.quit_eq, refusal?_append_eq_none_iff hunbroken (isUnbroken_quitReason reason), hword,
    maxLine, maxFrame]
  omega

lemma frame_quit (reason : Text) :
    frame (Command.quit (quitReason reason)) =
      if (quitReason reason).byteLength ≤ 504 then Command.quit (quitReason reason) ++ lineEnd
      else [] := by
  rw [frame]
  split
  · next why hrefused =>
    rw [if_neg fun hfits => ?_]
    rw [(refusal?_quit_eq_none_iff reason).2 hfits] at hrefused
    cases hrefused
  · next haccepted => rw [if_pos ((refusal?_quit_eq_none_iff reason).1 haccepted)]

end Bridge

/-! ### One worker -/

namespace Seat

variable {s : Seat} {line : Text} {rest : List Text}

/-- At the end of a run nothing is sent behind a line that leaves the network. -/
lemma written_send_stopping {wire : Wire} (hwire : wire.isReliable = true)
    (h : s.session.outbox.lines = line :: rest) (hquit : Command.isQuit line = true) (now : Time) :
    (s.send true wire now).written = Utf8.encode (frame line) := by
  obtain ⟨journal, w, -, hwrite⟩ := write_of_isReliable (o := ⟨[], wire⟩) hwire s line .own
  rw [(s.send_stopping wire now).1, flush, h, flushLines, hwrite]
  dsimp only
  rw [if_pos hquit]
  rfl

lemma isRelaying_conclude (s : Seat) (e : Exit) : (s.conclude e).activity.isRelaying = false := by
  cases e <;> rfl

end Seat

namespace Worker

variable {w : Worker} {line : Text} {hub : Hub}

/-- If the worker relays, this line is the next that it sends. -/
def SendsFirst (w : Worker) (line : Text) : Prop :=
  w.activity.isRelaying = true → ∃ rest, w.session.outbox.lines = line :: rest

lemma sendsFirst_of_idle (h : w.activity.isRelaying = false) : w.SendsFirst line := by
  intro hrelaying
  rw [h] at hrelaying
  cases hrelaying

/-- What a worker puts into its queue comes behind the lines that wait there. -/
lemma SendsFirst.acts (h : w.SendsFirst line) (hrelaying : w.activity.isRelaying = true) {t : Seat}
    (hacts : (w.seat hub).Acts t) (a : Activity) : SendsFirst ⟨t.session, a⟩ line := by
  intro _
  obtain ⟨rest, hrest⟩ := h hrelaying
  obtain ⟨lines, -, hlines⟩ := hacts.outbox_eq
  exact ⟨rest ++ lines, by rw [hlines, ← List.cons_append, ← hrest]; rfl⟩

lemma SendsFirst.receive (h : w.SendsFirst line) (hrelaying : w.activity.isRelaying = true)
    (wire : Wire) (now : Time) (result : Except ReadError (Option Text)) :
    (ofStep ((w.seat hub).receive wire now result)).SendsFirst line := by
  cases result with
  | error e => exact sendsFirst_of_idle (Seat.isRelaying_conclude _ _)
  | ok heard =>
    cases heard with
    | none => exact h.acts hrelaying .refl _
    | some text =>
      have hacts := Seat.Acts.refl.hear (s := w.seat hub) now text
      rw [Seat.receive]
      split
      · exact sendsFirst_of_idle (Seat.isRelaying_conclude _ _)
      · next t heq =>
        rw [heq] at hacts
        exact h.acts hrelaying hacts _

/-- A worker of a stopped run that goes on relaying keeps the line in front, and it does not begin to
relay. -/
lemma SendsFirst.step (h : w.SendsFirst line) (now : Time) (e : Stimulus) :
    (ofStep ((w.seat hub).step true now w.activity e)).SendsFirst line := by
  rw [Seat.step.eq_def]
  split
  · exact sendsFirst_of_idle rfl
  · exact sendsFirst_of_idle rfl
  · exact sendsFirst_of_idle rfl
  · exact sendsFirst_of_idle rfl
  · next hactivity => exact h.receive (by rw [hactivity]; rfl) _ now _
  · next hactivity =>
    rw [Seat.receiveFailing]
    dsimp only
    split
    · exact h.receive (by rw [hactivity]; rfl) _ now _
    · exact sendsFirst_of_idle (Seat.isRelaying_conclude _ _)
  · exact sendsFirst_of_idle rfl
  · exact h

lemma sendsFirst_windDown (w : Worker) (hub : Hub) (line : Text) :
    (ofStep ((w.seat hub).windDown w.activity)).SendsFirst line := by
  refine sendsFirst_of_idle ?_
  cases w.activity <;> rfl

end Worker

/-! ### A bridge that was stopped -/

namespace Bridge

variable {b b' : Bridge} {m : Move} {i : Nat} {w : Worker} {x : Step} {line : Text}

/-- The bridge does not run, and its workers that still relay send this line next. -/
structure Parting (b : Bridge) (line : Text) : Prop where
  running : b.running = false
  first : ∀ w ∈ b.workers, w.SendsFirst line

lemma Parting.settle (h : b.Parting line) (hx : (Worker.ofStep x).SendsFirst line) :
    (b.settle i x).1.Parting line := by
  refine ⟨h.running, fun v hv => ?_⟩
  rcases List.mem_or_eq_of_mem_set hv with hv | rfl
  · exact h.first v hv
  · exact hx

lemma Parting.step (h : b.Parting line) (i : Nat) (now : Time) (e : Stimulus) :
    (b.step i now e).1.Parting line := by
  rw [Bridge.step, h.running]
  split
  · next w hw => exact h.settle ((h.first w (List.mem_of_getElem? hw)).step now e)
  · exact h

lemma Parting.windDown (h : b.Parting line) (i : Nat) : (b.windDown i).1.Parting line := by
  rw [Bridge.windDown]
  split
  · next w hw => exact h.settle (w.sendsFirst_windDown b.hub line)
  · exact h

/-- Until it is started again, nothing changes what the workers send next. -/
lemma Parting.turn (h : b.Parting line) (hstart : ∀ now shortage, m ≠ .start now shortage) :
    (b.turn m).1.Parting line := by
  by_cases hm : m.isSaying = true
  · obtain ⟨⟨lines, journal, heq, -⟩, -⟩ := b.says_turn hm
    rw [heq]
    exact ⟨h.running, h.first⟩
  cases m with
  | message | action | chat | announce => exact absurd rfl hm
  | start now shortage => exact absurd rfl (hstart now shortage)
  | stop reason =>
    have hrefused : (b.turn (.stop reason)).2 = .error .notRunning := by
      rw [stop_answer, h.running]
      rfl
    rwa [turn_of_refusal hrefused (by simp)]
  | step i now e => exact h.step i now e
  | windDown i =>
    show (if b.running then b else (b.windDown i).1).Parting line
    rw [h.running, if_neg Bool.false_ne_true]
    exact h.windDown i

lemma Parting.after {moves : List Move} (h : b.Parting line)
    (hstart : ∀ now shortage, .start now shortage ∉ moves) : (b.after moves).Parting line :=
  keeps_after (P := (Parting · line)) h fun _ hb _ hm =>
    hb.turn fun now shortage heq => hstart now shortage (heq ▸ hm)

/-- A worker that relays over a connection that does not fail writes this line, or nothing if it cannot
be written. -/
lemma Parting.written {wire : Wire} (h : b.Parting line) (hquit : Command.isQuit line = true)
    (hw : b.workers[i]? = some w) (hwire : wire.isReliable = true)
    (ha : w.activity = .sending wire ∨ w.activity = .receiving wire) :
    (b.windDown i).2 = Utf8.encode (frame line) := by
  have hrelaying : w.activity.isRelaying = true := by
    rcases ha with ha | ha <;> rw [ha] <;> rfl
  obtain ⟨rest, hrest⟩ := h.first w (List.mem_of_getElem? hw) hrelaying
  rw [windDown_eq hw]
  show ((w.seat b.hub).windDown w.activity).written = _
  rcases ha with ha | ha
  · rw [ha]
    exact Seat.written_send_stopping hwire hrest hquit 0
  · rw [ha]
    exact Seat.written_send_stopping hwire hrest hquit 0

lemma outbox_of_stop {reason : Text} (hstop : b.stop reason = (b', .ok ())) :
    ∀ w ∈ b'.workers, w.session.outbox.lines = [Command.quit (quitReason reason)] := by
  obtain ⟨-, journal, rfl⟩ := stop_ok hstop
  intro w hw
  obtain ⟨v, -, rfl⟩ := List.mem_map.1 hw
  rfl

lemma parting_of_stop {reason : Text} (hstop : b.stop reason = (b', .ok ())) :
    b'.Parting (Command.quit (quitReason reason)) := by
  refine ⟨?_, fun w hw _ => ⟨[], outbox_of_stop hstop w hw⟩⟩
  obtain ⟨-, journal, rfl⟩ := stop_ok hstop
  rfl

/-- **When the last line of a session is written.**  A bridge that stops leaves each of its workers the
one line by which it leaves the network.  This line can be written exactly if the reason has at most
504 bytes without its line breaks.  Whatever happens until the bridge is started again, a worker that
relays over a connection that does not fail writes this line as its last one then, and otherwise
nothing. -/
theorem farewell_accepted_iff {reason : Text} {later : List Move}
    (hstop : b.stop reason = (b', .ok ()))
    (hlater : ∀ now shortage, .start now shortage ∉ later) :
    let line := Command.quit (quitReason reason)
    (∀ w ∈ b'.workers, w.session.outbox.lines = [line]) ∧
    (refusal? line = none ↔ (quitReason reason).byteLength ≤ 504) ∧
    ∀ (i : Nat) (w : Worker) (wire : Wire), (b'.after later).workers[i]? = some w →
      wire.isReliable = true → w.activity = .sending wire ∨ w.activity = .receiving wire →
      ((b'.after later).windDown i).2 = Utf8.encode
        (if (quitReason reason).byteLength ≤ 504 then line ++ lineEnd else []) := by
  intro line
  refine ⟨outbox_of_stop hstop, refusal?_quit_eq_none_iff reason, fun i w wire hw hwire ha => ?_⟩
  rw [← frame_quit]
  exact ((parting_of_stop hstop).after hlater).written rfl hw hwire ha

/-- The network still asks for an answer after the bridge was told to stop. -/
theorem farewell_accepted_iff_asked :
    let moves : List Move := [.start 0 none, .step 0 0 .proceed, .step 0 1 (.connected .free),
      .step 0 2 .proceed]
    let later : List Move := [.step 0 3 (.heard (.ok (some "PING :irc.test"))), .message "too late"]
    let b := (⟨.fresh .default, false, []⟩ : Bridge).after moves
    ∃ b', b.stop "back\r\nsoon" = (b', .ok ()) ∧
      (∀ now shortage, .start now shortage ∉ later) ∧
      ((b'.after later).workers.map fun w => (w.activity, w.session.outbox.lines)) =
        [(.sending .free, [("QUIT :backsoon" : Text), ("PONG :irc.test" : Text)])] ∧
      ((b'.after later).windDown 0).2 = Utf8.encode "QUIT :backsoon\r\n" := by
  intro moves later b
  have hlater : ∀ now shortage, .start now shortage ∉ later := by simp [later]
  obtain ⟨b', hstop, hworkers⟩ : ∃ b', b.stop "back\r\nsoon" = (b', .ok ()) ∧
      ((b'.after later).workers.map fun w => (w.activity, w.session.outbox.lines)) =
        [(.sending .free, [("QUIT :backsoon" : Text), ("PONG :irc.test" : Text)])] :=
    ⟨_, rfl, by decide⟩
  obtain ⟨w, hw, heq⟩ := List.map_eq_singleton_iff.1 hworkers
  obtain ⟨-, -, hwritten⟩ := farewell_accepted_iff hstop hlater
  exact ⟨b', hstop, hlater, hworkers, hwritten 0 w .free (by rw [hw]; rfl) (by decide)
    (.inl (Prod.mk.inj heq).1)⟩

/-- A reason of 505 bytes: the worker has a line to send by which it would leave, and writes nothing. -/
theorem farewell_too_long :
    let reason : Text := List.replicate 505 'a'
    let line := Command.quit (quitReason reason)
    let moves : List Move := [.start 0 none, .step 0 0 .proceed, .step 0 1 (.connected .free),
      .step 0 2 .proceed]
    let b := (⟨.fresh .default, false, []⟩ : Bridge).after moves
    ∃ b', b.stop reason = (b', .ok ()) ∧
      (b'.workers.map fun w => (w.activity, w.session.outbox.lines)) = [(.receiving .free, [line])] ∧
      refusal? line = some (.tooLong 511) ∧ (b'.windDown 0).2 = [] := by
  intro reason line moves b
  have hlength : (quitReason reason).byteLength = 505 := by
    rw [show quitReason reason = reason from List.filter_replicate_of_pos rfl,
      Text.byteLength_eq_length fun c hc => by rw [List.eq_of_mem_replicate hc]; rfl,
      List.length_replicate]
  have hrefused : refusal? line = some (.tooLong 511) := by
    have hline : line.byteLength = 511 := by
      rw [show line = _ from Command.quit_eq _, Text.byteLength_append, hlength]
      rfl
    rw [refusal?, hline]
    rfl
  have hrelays : b.workers.map Worker.activity = [.receiving .free] := by decide
  obtain ⟨w, hw, ha⟩ := List.map_eq_singleton_iff.1 hrelays
  obtain ⟨b', hstop, hworkers⟩ : ∃ b', b.stop reason = (b', .ok ()) ∧
      b'.workers = b.workers.map (dismiss · reason) := ⟨_, rfl, rfl⟩
  rw [hw, List.map_singleton] at hworkers
  refine ⟨b', hstop, ?_, hrefused, ?_⟩
  · rw [hworkers, List.map_singleton, ← ha]
    rfl
  · have hfirst : b'.workers[0]? = some (dismiss w reason) := by rw [hworkers]; rfl
    rw [(parting_of_stop hstop).written rfl hfirst (by decide) (.inr ha), frame, hrefused]
    rfl

end Bridge
end ChatLink
