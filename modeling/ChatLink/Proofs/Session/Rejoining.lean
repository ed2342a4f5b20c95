/-
# Channels that a session enters again

A session that is put out of a channel notes the channel and the moment from which it is to enter it
again.  From time to time it is called to do so: it takes what is due then, and keeps the rest.  So
whatever lies between, and whichever way the clock runs, a channel is entered again at the first call
from its moment on and at no other, and channels that come due at the same call are entered in the
order in which the session had to leave them.  Main statement: `rejoins_on_time`.
-/
import Mathlib
import ChatLink.Proofs.Message.Kicks
import ChatLink.Proofs.Session.Spacing
import ChatLink.Proofs.Session.Timing

namespace ChatLink.Seat

variable {s : Seat} {now : Time} {e : Turn} {turns early later : List Turn}
  {entries more : List (Time × Text)}

/-- The session is called to enter channels again, at this moment or later. -/
def Turn.calls (e : Turn) (moment : Time) : Bool :=
  match e with
  | .deed now .rejoin => moment ≤ now
  | _ => false

/-- The entries that are due at none of the calls. -/
def unmet (turns : List Turn) (entries : List (Time × Text)) : List (Time × Text) :=
  entries.filter fun entry => turns.all fun e => !e.calls entry.1

/-- The channel that a turn puts the session out of, with the moment from which to enter it. -/
def scheduled? (s : Seat) : Turn → Option (Time × Text)
  | .deed now (.hear line) => s.banished? now (Message.ofLine s.actual line)
  | _ => none

/-- The channels that turns put the session out of and that are due at none of the calls behind, in
the order in which the session had to leave them. -/
def outstanding (s : Seat) : List Turn → List (Time × Text)
  | [] => []
  | e :: later => unmet later (s.scheduled? e).toList ++ (s.turn e).outstanding later

/-- The lines that enter the channels that are due. -/
def joins (now : Time) (entries : List (Time × Text)) : List Text :=
  (entries.filter fun entry => entry.1 ≤ now).map fun entry => Command.join entry.2

/-! ### Entries -/

@[simp] lemma unmet_nil (entries : List (Time × Text)) : unmet [] entries = entries :=
  List.filter_eq_self.2 fun _ _ => rfl

lemma unmet_append (turns : List Turn) (entries more : List (Time × Text)) :
    unmet turns (entries ++ more) = unmet turns entries ++ unmet turns more :=
  List.filter_append ..

lemma unmet_append_turns (early later : List Turn) (entries : List (Time × Text)) :
    unmet (early ++ later) entries = unmet later (unmet early entries) := by
  simp only [unmet, List.filter_filter, List.all_append, Bool.and_comm]

/-- Only a call meets an entry. -/
lemma unmet_singleton_of_not_calls (h : ∀ moment, e.calls moment = false) :
    unmet [e] entries = entries :=
  List.filter_eq_self.2 fun entry _ => by simp [h]

lemma joins_append (now : Time) (entries more : List (Time × Text)) :
    joins now (entries ++ more) = joins now entries ++ joins now more := by
  rw [joins, List.filter_append, List.map_append]
  rfl

/-! ### Runs -/

/-- A turn adds what it puts the session out of to the entries that it does not meet. -/
lemma rejoins_turn (hstay : ∀ now, e ≠ .deed now .disconnect) :
    (s.turn e).session.rejoins = unmet [e] s.session.rejoins ++ (s.scheduled? e).toList := by
  cases e with
  | beside hub outbox =>
    rw [unmet_singleton_of_not_calls fun _ => rfl]
    exact (List.append_nil _).symm
  | deed now d =>
    have htiming := congrArg Timing.rejoins (s.timing_perform now d)
    refine htiming.trans ?_
    cases d with
    | disconnect => exact absurd rfl (hstay now)
    | hear line =>
      rw [unmet_singleton_of_not_calls fun _ => rfl]
      rfl
    | rejoin =>
      refine (List.filter_congr fun entry _ => ?_).trans (List.append_nil _).symm
      show decide (now < entry.1) = (!decide (entry.1 ≤ now) && true)
      rw [Bool.and_true, ← decide_not, decide_eq_decide, Nat.not_le]
    | send wire =>
      rw [unmet_singleton_of_not_calls fun _ => rfl]
      refine Eq.trans ?_ (List.append_nil _).symm
      dsimp only
      split <;> rfl
    | register | flush | resetNick | report =>
      rw [unmet_singleton_of_not_calls fun _ => rfl]
      exact (List.append_nil _).symm

/-- What a session has noted after a run is what it had noted before and what the run put it out of,
without the entries that calls have met since. -/
lemma rejoins_after (hstay : ∀ now, .deed now .disconnect ∉ turns) :
    (s.after turns).session.rejoins = unmet turns s.session.rejoins ++ s.outstanding turns := by
  induction turns generalizing s with
  | nil => rw [unmet_nil]; exact (List.append_nil _).symm
  | cons e later ih =>
    rw [after_cons, ih fun now hmem => hstay now (List.mem_cons_of_mem e hmem),
      rejoins_turn fun now heq => hstay now (heq ▸ List.mem_cons_self), unmet_append,
      ← unmet_append_turns, List.singleton_append, List.append_assoc]
    rfl

lemma outstanding_append (s : Seat) (early later : List Turn) :
    s.outstanding (early ++ later) =
      unmet later (s.outstanding early) ++ (s.after early).outstanding later := by
  induction early generalizing s with
  | nil => rfl
  | cons e early ih =>
    rw [List.cons_append, outstanding, outstanding, ih, unmet_append, unmet_append_turns,
      List.append_assoc]
    rfl

/-- A line that puts the session itself out of a channel. -/
lemma scheduled?_kick {line channel kicked : Text} (h : Kicks s.actual line channel kicked)
    (hown : Text.sameName kicked s.actual = true) (now : Time) :
    s.scheduled? (.deed now (.hear line)) =
      some (now + s.hub.config.reconnectDelay, channel) := by
  have hself : s.session.isOwn kicked = true := hown
  obtain ⟨hreply, hkind, hchannel, hkicked⟩ := h.message
  rw [scheduled?, banished?, kickedFrom?, hreply, hkind, hchannel, hkicked]
  dsimp only
  rw [if_pos hself]
  rfl

lemma joins_unmet_singleton (later : List Turn) (now moment : Time) (channel : Text) :
    joins now (unmet later [(moment, channel)]) =
      if moment ≤ now ∧ later.all (fun e => !e.calls moment) then [Command.join channel] else [] := by
  rw [joins, unmet, List.filter_singleton]
  by_cases hunmet : (later.all fun e => !e.calls moment) = true
  · by_cases hdue : moment ≤ now <;> simp [hunmet, hdue]
  · simp [hunmet]

/-- **A session enters a channel again at the first call from its moment on.**  Let a session that
waits for no channel do anything but lose its connection.  Whenever it is called to enter channels
again, it puts into its queue the lines for those channels that it was put out of, that are due, and
that were due at no earlier call, and keeps the others.  So let a line have put it out of a channel at
some time.  The call puts the line that enters this channel into the queue exactly if it is the first
call from that time and the delay on; before it there are the lines for the channels that the session
was put out of earlier, and behind it those for the later ones. -/
theorem rejoins_on_time (hnew : s.session.rejoins = [])
    (hstay : ∀ t, .deed t .disconnect ∉ turns) (now : Time) :
    let u := s.after turns
    let v := (u.perform now .rejoin).1
    u.session.rejoins = s.outstanding turns ∧
    v.session.outbox.lines = u.session.outbox.lines ++ joins now (s.outstanding turns) ∧
    v.session.rejoins = (s.outstanding turns).filter (fun entry => now < entry.1) ∧
    ∀ (early later : List Turn) (t : Time) (line channel kicked : Text),
      turns = early ++ .deed t (.hear line) :: later →
      Kicks (s.after early).actual line channel kicked →
      Text.sameName kicked (s.after early).actual = true →
      let moment := t + (s.after early).hub.config.reconnectDelay
      joins now (s.outstanding turns) =
        joins now (unmet later (s.outstanding early)) ++
          (if moment ≤ now ∧ later.all (fun e => !e.calls moment) then [Command.join channel]
            else []) ++
          joins now (((s.after early).turn (.deed t (.hear line))).outstanding later) := by
  intro u v
  have hnoted : u.session.rejoins = s.outstanding turns := by
    rw [rejoins_after hstay, hnew]
    rfl
  obtain ⟨htiming, hlines⟩ := u.rejoinDue_spec now
  refine ⟨hnoted, ?_, ?_, ?_⟩
  · rw [← hnoted]
    exact hlines
  · rw [← hnoted]
    exact congrArg Timing.rejoins htiming
  · rintro early later t line channel kicked rfl hkick hown moment
    have hheard : unmet (.deed t (.hear line) :: later) (s.outstanding early) =
        unmet later (s.outstanding early) := by
      rw [← List.singleton_append, unmet_append_turns, unmet_singleton_of_not_calls fun _ => rfl]
    rw [outstanding_append, hheard, outstanding, scheduled?_kick hkick hown, Option.toList_some,
      joins_append, joins_append, joins_unmet_singleton, ← List.append_assoc]

/-- A session that is put out of two channels at different times, and is called before either is due,
and when one is. -/
theorem rejoins_on_time_two :
    let first : Text := ":op!o@host KICK #a ServerBot :out  now"
    let turns : List Turn := [.deed 0 (.hear first), .deed 14999 .rejoin,
      .deed 14999 (.hear ":op!o@host kick #b serverbot")]
    let s : Seat := ⟨.fresh .default 0 0, .fresh .default⟩
    let v := ((s.after turns).perform 15000 .rejoin).1
    s.session.rejoins = [] ∧ (∀ t, .deed t .disconnect ∉ turns) ∧
      Kicks s.actual first "#a" "ServerBot" ∧ Text.sameName "ServerBot" s.actual = true ∧
      v.session.outbox.lines = [("JOIN #a" : Text)] ∧
      v.session.rejoins = [(29999, ("#b" : Text))] := by
  intro first turns s v
  have hstay : ∀ t, .deed t .disconnect ∉ turns := by simp [turns]
  have hkick : Kicks s.actual first "#a" "ServerBot" :=
    ⟨by decide, ⟨⟨some "op!o@host", "KICK", ["#a", "ServerBot"], some "out  now"⟩, [], by decide, rfl⟩,
      by decide⟩
  have hown : Text.sameName "ServerBot" s.actual = true := by decide
  obtain ⟨-, hlines, hrejoins, hmoment⟩ := rejoins_on_time (s := s) rfl hstay 15000
  refine ⟨rfl, hstay, hkick, hown, ?_, ?_⟩
  · rw [hlines, hmoment [] _ 0 first _ _ rfl hkick hown]
    decide +kernel
  · rw [hrejoins]
    decide +kernel

end ChatLink.Seat
