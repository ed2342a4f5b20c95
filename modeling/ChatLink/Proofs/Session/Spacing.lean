/-
# Lines of one session keep apart

A session that is asked to send takes one line at most, and only if its limiter lets it.  The limiter
notes the line as it is taken, whatever becomes of it on the connection, and nothing but sending and
registering makes it note a time.  So between two lines lies at least the interval, however often the
session is asked, whatever happens in between, and whichever way the clock runs.  Main statement:
`sends_spaced`.
-/
import Mathlib
import ChatLink.Proofs.Session.Sending

namespace ChatLink

/-! ### The limiter -/

namespace Limiter

variable {l : Limiter} {interval : Nat} {t now : Time}

/-- The limiter keeps this interval and has last noted a line at this time or later. -/
structure Since (l : Limiter) (interval : Nat) (t : Time) : Prop where
  interval_eq : l.interval = interval
  noted : ∃ last, l.last = some last ∧ t ≤ last

lemma since_record (l : Limiter) (now : Time) : (l.record now).Since l.interval now :=
  ⟨rfl, now, rfl, le_rfl⟩

lemma Since.record (h : l.Since interval t) (hle : t ≤ now) : (l.record now).Since interval t :=
  ⟨h.interval_eq, now, rfl, hle⟩

/-- A line is let through only after the interval.  A clock that has gone back counts as no time. -/
lemma Since.add_le_of_ready (h : l.Since interval t) (hpos : 0 < interval)
    (hready : l.ready now = true) : t + interval ≤ now := by
  obtain ⟨last, hlast, hle⟩ := h.noted
  rw [ready, hlast, decide_eq_true_eq, h.interval_eq, elapsed] at hready
  have hlater : last < now := Nat.lt_of_sub_pos (hpos.trans_le hready)
  exact (Nat.add_le_add_right hle interval).trans (Nat.add_le_of_le_sub' hlater.le hready)

end Limiter

namespace Seat

variable {s t : Seat} {now : Time} {line : Text} {origin : Origin}
  {interval : Nat} {since : Time}

/-! ### The line that is taken -/

/-- A session takes the line that is due, and no other. -/
lemma takes_perform_iff {wire : Wire} :
    s.Takes origin line (s.perform now (.send wire)).1 ↔ s.due? now = some (origin, line) := by
  rw [perform_send]
  refine ⟨fun h => ?_, fun h => (sendOne_of_due h _).1⟩
  have hlength := congrArg List.length h.front
  rw [List.length_cons] at hlength
  cases hdue : s.due? now with
  | none =>
    -- then no queue gets shorter
    have hacts := (sendOne_of_not_due hdue ⟨[], wire⟩).1
    cases origin with
    | own =>
      obtain ⟨lines, -, hlines⟩ := hacts.outbox_eq
      have hmore := congrArg List.length hlines
      rw [List.length_append] at hmore
      simp only [waiting] at hlength
      omega
    | shared =>
      simp only [waiting, hacts.queue_eq] at hlength
      omega
  | some due =>
    obtain ⟨origin', line'⟩ := due
    have htakes := (sendOne_of_due hdue ⟨[], wire⟩).1
    by_cases hsame : origin = origin'
    · subst hsame
      have hfront := h.front.symm.trans htakes.front
      rw [(List.cons.inj hfront).1]
    · rw [htakes.other origin hsame] at hlength
      omega

/-- What a session that is asked to send makes of the queues: it takes one line, or none. -/
lemma takes_or_acts (s : Seat) (now : Time) (wire : Wire) :
    (∃ origin line, s.Takes origin line (s.perform now (.send wire)).1) ∨
      s.Acts (s.perform now (.send wire)).1 := by
  rw [perform_send]
  cases hdue : s.due? now with
  | none => exact .inr (sendOne_of_not_due hdue _).1
  | some due => exact .inl ⟨due.1, due.2, (sendOne_of_due hdue _).1⟩

/-! ### The limiter along a run -/

lemma limiter_send (s : Seat) (now : Time) (wire : Wire) :
    (s.perform now (.send wire)).1.session.limiter =
      if (s.due? now).isSome then s.session.limiter.record now else s.session.limiter := by
  rw [perform_send]
  cases hdue : s.due? now with
  | none => exact (sendOne_of_not_due hdue _).1.limiter_eq
  | some due =>
    obtain ⟨origin, line⟩ := due
    obtain ⟨journal, h⟩ := sendOne_eq_of_due hdue ⟨[], wire⟩
    rw [h]
    cases origin <;> rfl

/-- The limiter notes a time when the session registers, and when it sends a line that is let
through. -/
lemma limiter_perform (s : Seat) (now : Time) (d : Deed) :
    (s.perform now d).1.session.limiter = s.session.limiter ∨
      (s.perform now d).1.session.limiter = s.session.limiter.record now ∧
        (s.session.limiter.ready now = true ∨ ∃ wire, d = .register wire) := by
  cases d with
  | register wire =>
    obtain ⟨journal, limiter, hlimiter, h⟩ := s.register_eq ⟨[], wire⟩ now
    rw [perform_register, h]
    exact hlimiter.imp_right fun heq => ⟨heq, .inr ⟨wire, rfl⟩⟩
  | hear line => exact .inl (Acts.refl.hear now line).limiter_eq
  | send wire =>
    rw [limiter_send]
    split
    · next hdue =>
      obtain ⟨due, hdue⟩ := Option.isSome_iff_exists.1 hdue
      exact .inr ⟨rfl, .inl (takeLine?_of_due hdue).1⟩
    · exact .inl rfl
  | flush wire =>
    obtain ⟨journal, rest, -, h⟩ := s.flushLines_eq ⟨[], wire⟩ s.session.outbox.lines
    rw [perform_flush, h]
    exact .inl rfl
  | rejoin => exact .inl (Acts.refl.rejoinDue now).limiter_eq
  | resetNick => exact .inl rfl
  | disconnect => exact .inl rfl
  | report state => exact .inl rfl

/-- What happens around a session. -/
inductive Turn where
  /-- It does something at a time. -/
  | deed (now : Time) (d : Deed)
  /-- Others change what is shared, and what waits in the session's own queue. -/
  | beside (hub : Hub) (outbox : Queue)

/-- The seat after a turn. -/
def turn (s : Seat) : Turn → Seat
  | .deed now d => (s.perform now d).1
  | .beside hub outbox => ⟨{ s.session with outbox }, hub⟩

/-- The seat after several turns. -/
def after (s : Seat) (turns : List Turn) : Seat := turns.foldl turn s

@[simp] lemma after_cons (s : Seat) (e : Turn) (turns : List Turn) :
    s.after (e :: turns) = (s.turn e).after turns := rfl

lemma after_append (s : Seat) (early later : List Turn) :
    s.after (early ++ later) = (s.after early).after later := List.foldl_append

/-- What each of the turns keeps is kept by all of them. -/
lemma keeps_after {P : Seat → Prop} {turns : List Turn} (h : P s)
    (hturn : ∀ t, P t → ∀ e ∈ turns, P (t.turn e)) : P (s.after turns) :=
  List.foldlRecOn (motive := P) turns _ h hturn

lemma interval_turn (s : Seat) (e : Turn) :
    (s.turn e).session.limiter.interval = s.session.limiter.interval := by
  cases e with
  | beside hub outbox => rfl
  | deed now d =>
    show (s.perform now d).1.session.limiter.interval = _
    rcases s.limiter_perform now d with h | ⟨h, -⟩
    · rw [h]
    · rw [h, Limiter.record]

/-- The interval is that of the configuration for good. -/
lemma interval_after (s : Seat) (turns : List Turn) :
    (s.after turns).session.limiter.interval = s.session.limiter.interval :=
  keeps_after (P := fun t => t.session.limiter.interval = s.session.limiter.interval) rfl
    fun t ht e _ => (t.interval_turn e).trans ht

/-- A line that was sent stays noted, or a later one is: the limiter lets no line through at an earlier
time. -/
lemma since_turn (h : s.session.limiter.Since interval since) (hpos : 0 < interval) {e : Turn}
    (hregister : ∀ now wire, e = .deed now (.register wire) → since ≤ now) :
    (s.turn e).session.limiter.Since interval since := by
  cases e with
  | beside hub outbox => exact h
  | deed now d =>
    show (s.perform now d).1.session.limiter.Since interval since
    rcases s.limiter_perform now d with hsame | ⟨hnoted, hready | ⟨wire, rfl⟩⟩
    · rwa [hsame]
    · rw [hnoted]
      exact h.record ((Nat.le_add_right _ _).trans (h.add_le_of_ready hpos hready))
    · rw [hnoted]
      exact h.record (hregister now wire rfl)

lemma since_after (h : s.session.limiter.Since interval since) (hpos : 0 < interval)
    {turns : List Turn}
    (hregister : ∀ now wire, Turn.deed now (.register wire) ∈ turns → since ≤ now) :
    (s.after turns).session.limiter.Since interval since :=
  keeps_after (P := fun t => t.session.limiter.Since interval since) h fun _ ht _ he =>
    since_turn ht hpos fun now wire heq => hregister now wire (heq ▸ he)

/-- **The lines of a session keep apart.**  In any run of a session with a positive interval, over any
connections and with any times, let it be asked to send.  It takes one line or none, and a shared one
only if it is registered and its own queue is empty.  If it takes a line, then it takes none later at
a time before the interval is over, unless it registers in between at a time before that line. -/
theorem sends_spaced (config : Config) (hdelay : 0 < config.sendDelay) (hub : Hub) (index : Nat)
    (start : Time) (early between : List Turn) (t₁ t₂ : Time) (w₁ w₂ : Wire)
    (hregister : ∀ now wire, Turn.deed now (.register wire) ∈ between → t₁ ≤ now) :
    let s := after ⟨.fresh config index start, hub⟩ early
    let t := (s.perform t₁ (.send w₁)).1
    let u := t.after between
    let v := (u.perform t₂ (.send w₂)).1
    ((∃ origin line, s.Takes origin line t) ∨
      t.hub.queue = s.hub.queue ∧ s.session.outbox.lines <+: t.session.outbox.lines) ∧
    (∀ line, s.Takes .shared line t → s.session.ready = true ∧ s.session.outbox = .empty) ∧
    ∀ origin line origin' line', s.Takes origin line t → u.Takes origin' line' v →
      t₁ + config.sendDelay ≤ t₂ := by
  intro s t u v
  refine ⟨?_, fun line htakes => ?_, fun origin line origin' line' htakes htakes' => ?_⟩
  · refine (s.takes_or_acts t₁ w₁).imp_right fun hacts => ⟨hacts.queue_eq, ?_⟩
    obtain ⟨lines, -, hlines⟩ := hacts.outbox_eq
    exact ⟨lines, hlines.symm⟩
  · exact (lines_of_due (takes_perform_iff.1 htakes)).2 rfl
  · rw [takes_perform_iff] at htakes htakes'
    have hsince : t.session.limiter.Since config.sendDelay t₁ := by
      show (s.perform t₁ (.send w₁)).1.session.limiter.Since config.sendDelay t₁
      rw [limiter_send, htakes, Option.isSome_some, if_pos rfl,
        ← show s.session.limiter.interval = config.sendDelay from interval_after _ early]
      exact Limiter.since_record _ _
    exact (since_after hsince hdelay hregister).add_le_of_ready hdelay (takeLine?_of_due htakes').1

/-- A session takes a line and cannot write it, connects again, and is asked to send at a time before
that and at times after it.  Meanwhile another line was put into its queue. -/
theorem sends_spaced_reconnect :
    let c : Config := Config.default
    let early : List Turn := [.deed 0 (.hear ":irc.test 001 ServerBot :Welcome")]
    let between : List Turn := [.deed 1000 .disconnect, .deed 1001 (.register .free),
      .deed 400 (.send .free), .beside (.fresh c) ⟨["QUIT :bye"]⟩]
    let s := after ⟨.fresh c 0 0, .fresh c⟩ early
    let t := (s.perform 1000 (.send .broken)).1
    let u := t.after between
    0 < c.sendDelay ∧
      (∀ now wire, Turn.deed now (.register wire) ∈ between → 1000 ≤ now) ∧
      s.Takes .own "JOIN #changeme" t ∧
      (∀ origin line, ¬ u.Takes origin line (u.perform 1700 (.send .free)).1) ∧
      u.Takes .own "QUIT :bye" (u.perform 2000 (.send .free)).1 := by
  intro c early between s t u
  have hdelay : 0 < c.sendDelay := by decide
  have hregister : ∀ now wire, Turn.deed now (.register wire) ∈ between → 1000 ≤ now := by
    simp [between]
  have hdue : s.due? 1000 = some (Origin.own, ("JOIN #changeme" : Text)) := by decide
  have hlate : u.due? 2000 = some (Origin.own, ("QUIT :bye" : Text)) := by decide
  have htakes : s.Takes .own "JOIN #changeme" t := takes_perform_iff.2 hdue
  obtain ⟨-, -, hspaced⟩ :=
    sends_spaced c hdelay (.fresh c) 0 0 early between 1000 1700 .broken .free hregister
  refine ⟨hdelay, hregister, htakes, fun origin line htakes' => ?_, takes_perform_iff.2 hlate⟩
  exact absurd (hspaced _ _ origin line htakes htakes') (by decide)

end Seat
end ChatLink
