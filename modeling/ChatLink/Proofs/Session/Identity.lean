/-
# The nick that a session goes by

A session asks for nicks and learns from the network's lines which one it has.  What it writes and
what the network says are each read in order, but late: the network may rename the session while
its requests are on their way, and several of them may be.  This file puts a session and a network
at the two ends of such a connection and lets both move as they like.  At any moment some nicks are
in question: they were asked for, and the session has not heard what came of that.  While it is not
registered there is one of them at most, and afterwards it is always the nick that it wants; so no
answer is ever taken for another.  Main statement: `nick_of_reachable`.
-/
import Mathlib
import ChatLink.Outbox.Draft
import ChatLink.Proofs.Session.Agreement
import ChatLink.Proofs.Wire.Exchange

namespace ChatLink

/-! ### One deed -/

namespace Seat

variable {s t : Seat} {now : Time} {x : Text} {nicks : List Text}

/-- The nicks that a session asks for in the lines that wait. -/
def asking (s : Seat) : List Text := s.session.outbox.lines.filterMap Command.askedNick?

lemma Puts.asking_eq (h : s.Puts nicks t) : t.asking = s.asking ++ nicks := by
  obtain ⟨lines, hlines, rfl⟩ := h
  rw [asking, hlines, List.filterMap_append, asking]

/-- The nicks asked for in what a session writes. -/
def asksFor (written : Bytes) : List Text :=
  (Inlet.received written).filterMap Command.askedNick?

/-- The lines that all sessions share are chat. -/
def ChatOnly (queue : Queue) : Prop :=
  ∀ line ∈ queue.lines, ∃ target text limits,
    line ∈ (Draft.message target text).frames limits ∨
      line ∈ (Draft.action target text).frames limits

lemma ChatOnly.of_subset {queue rest : Queue} (h : ChatOnly queue)
    (hrest : rest.lines ⊆ queue.lines) : ChatOnly rest := fun line hline => h line (hrest hline)

/-- Chat asks for no nick. -/
lemma ChatOnly.askedNick?_eq_none {queue : Queue} {line : Text} (h : ChatOnly queue)
    (hline : line ∈ queue.lines) : Command.askedNick? line = none := by
  obtain ⟨target, text, limits, hframe | hframe⟩ := h line hline
  · obtain ⟨segment, -, rfl⟩ := List.mem_map.1 hframe
    rfl
  · obtain ⟨segment, -, rfl⟩ := List.mem_map.1 hframe
    rfl

/-- A session asks for a nick by a line that it sends over a connection that does not fail, unless
the line is one that cannot be sent. -/
lemma asksFor_frame (line : Text) :
    (asksFor (Utf8.encode (frame line))).Sublist (Command.askedNick? line).toList := by
  have hreceived := Inlet.received_flatMap_frame [line]
  rw [List.flatMap_singleton] at hreceived
  have hfilter : ([line].filter Text.isSendable).Sublist [line] := List.filter_sublist
  rw [asksFor, hreceived]
  refine (hfilter.filterMap Command.askedNick?).trans ?_
  rw [List.filterMap_cons, List.filterMap_nil]
  cases Command.askedNick? line <;> exact .refl _

/-- Where a line is due, sending it brings no other nick into question. -/
lemma asking_send_of_due {origin : Origin} {line : Text} {w : Wire} (hw : w.isReliable = true)
    (h : ChatOnly s.hub.queue) (hdue : s.due? now = some (origin, line)) :
    let t := (s.perform now (.send w)).1
    ChatOnly t.hub.queue ∧
      (asksFor (s.perform now (.send w)).2.written ++ t.asking).Sublist s.asking := by
  intro t
  obtain ⟨htakes, hresult⟩ := sendOne_of_due hdue ⟨[], w⟩
  have hwritten : (s.perform now (.send w)).2.written = Utf8.encode (frame line) := by
    obtain ⟨w', -, hsent, -⟩ := Outlet.written_of_isReliable (o := ⟨[], w⟩) hw line
    have hwire := congrArg (fun p => p.1.sent) hresult
    dsimp only at hwire
    rw [hsent] at hwire
    exact hwire
  have hsent := asksFor_frame line
  rw [hwritten]
  cases origin with
  | own =>
    have hqueue : t.hub.queue = s.hub.queue := htakes.other .shared (by simp)
    have hfront : s.session.outbox.lines = line :: t.session.outbox.lines := htakes.front
    have hasking : s.asking = (Command.askedNick? line).toList ++ t.asking := by
      rw [asking, hfront, List.filterMap_cons, asking]
      cases Command.askedNick? line <;> rfl
    rw [hqueue, hasking]
    exact ⟨h, hsent.append (.refl _)⟩
  | shared =>
    have houtbox : t.session.outbox = s.session.outbox := htakes.other .own (by simp)
    have hfront : s.hub.queue.lines = line :: t.hub.queue.lines := htakes.front
    rw [h.askedNick?_eq_none (hfront ▸ List.mem_cons_self), Option.toList_none, List.sublist_nil] at hsent
    refine ⟨h.of_subset (hfront ▸ List.subset_cons_self _ _), ?_⟩
    rw [hsent, List.nil_append, asking, houtbox, asking]

/-- Where no line is due, the session may ask for the nick it wants, once it is registered. -/
lemma asking_send_of_not_due (w : Wire) (hdue : s.due? now = none) :
    let t := (s.perform now (.send w)).1
    t.hub.queue = s.hub.queue ∧ asksFor (s.perform now (.send w)).2.written = [] ∧
      (t.asking = s.asking ∨ s.standing.wants = true ∧ t.asking = s.asking ++ [s.desired]) := by
  intro t
  obtain ⟨hacts, hresult⟩ := sendOne_of_not_due hdue ⟨[], w⟩
  have hwire : (s.perform now (.send w)).2.written = [] :=
    (congrArg (fun e => e.2.written) (s.perform_send now w)).trans
      (congrArg (fun p => p.1.sent) hresult)
  have ht : t = if s.session.limiter.ready now then s.askAgain now else s :=
    (congrArg Prod.fst (s.perform_send now w)).trans
      (congrArg Prod.fst (sendOne_eq_of_not_due hdue ⟨[], w⟩))
  refine ⟨hacts.queue_eq, by rw [hwire]; rfl, ?_⟩
  rw [ht]
  split
  · obtain ⟨nicks, hstands, hnicks⟩ := s.stands_askAgain now
    rw [hstands.puts.asking_eq]
    rcases hnicks with rfl | ⟨hwants, rfl⟩
    · exact .inl (List.append_nil _)
    · exact .inr ⟨hwants, rfl⟩
  · exact .inl rfl

/-- A session that sends brings no nick into question but the one it wants, once it is registered. -/
lemma asking_send {w : Wire} (hw : w.isReliable = true) (h : ChatOnly s.hub.queue) (now : Time) :
    let t := (s.perform now (.send w)).1
    let sent := asksFor (s.perform now (.send w)).2.written
    ChatOnly t.hub.queue ∧
      ((sent ++ t.asking).Sublist s.asking ∨
        s.standing.wants = true ∧ sent ++ t.asking = s.asking ++ [s.desired]) := by
  intro t sent
  cases hdue : s.due? now with
  | some due =>
    obtain ⟨hchat, hless⟩ := asking_send_of_due hw h hdue
    exact ⟨hchat, .inl hless⟩
  | none =>
    obtain ⟨hqueue, hsent, hasking⟩ := asking_send_of_not_due w hdue
    rw [show t.hub.queue = s.hub.queue from hqueue, show sent = [] from hsent, List.nil_append]
    rcases hasking with hsame | ⟨hwants, hmore⟩
    · exact ⟨h, .inl (hsame ▸ .refl _)⟩
    · exact ⟨h, .inr ⟨hwants, hmore⟩⟩

/-- A registered session that is refused the nick it wants stays as it is. -/
lemma hear_refused {server : Text} {code : ReplyCode} (more : Option Text) (hserver : ' ' ∉ server)
    (hcode : code.isNickConflict = true) (hactual : Text.IsNick s.actual)
    (hdesired : Text.IsNick s.desired) (now : Time) :
    let line := (Signal.refused server code (some s.actual) s.desired more).line
    (s.hear now line).1.session = s.session ∧ (s.hear now line).1.hub.roster = s.hub.roster := by
  intro line
  have hcurrent : ∀ nick ∈ some s.actual, ' ' ∉ nick := by
    rintro nick ⟨⟩
    exact hactual.no_space
  obtain ⟨hreply, hknown, hword⟩ := Signal.ofLine_refused hserver hcode hcurrent hdesired.no_space more
    s.actual
  have hkeep : s.session.nick.afterRefusal s.actual s.desired s.hub.limits.maxNick =
      (s.session.nick, .keep) := s.session.nick.afterRefusal_of_desired _
  have hother : code ≠ .welcome ∧ code ≠ .features ∧ code ≠ .userHost := by
    refine ⟨?_, ?_, ?_⟩ <;> rintro rfl <;> cases hcode
  rw [hear, show (s.log _).actual = s.actual from rfl, hreply]
  dsimp only
  rw [hearReply, if_neg hother.1, if_neg hother.2.1, if_neg hother.2.2, if_pos hcode, nickTaken,
    hknown, hword]
  dsimp only [Option.getD_some]
  rw [show (s.log _).session = s.session from rfl,
    show (s.log _).hub.limits = s.hub.limits from rfl, hkeep]
  exact ⟨rfl, rfl⟩

end Seat

/-! ### A connection -/

/-- A session and a network at the two ends of a connection. -/
structure Link where
  seat : Seat
  /-- What the session wrote and the network has not read yet. -/
  outbound : List Text
  /-- What the network said and the session has not heard yet, each with the nick by which the
  network knew the session then. -/
  inbound : List (Signal × Option Text)
  /-- The nick by which the network knows the session. -/
  nick : Option Text
  /-- The nick by which the network knew the session when it said what the session heard last. -/
  heard : Option Text

/-- A session that may connect. -/
structure Seat.Unconnected (s : Seat) : Prop where
  published : s.Published
  outbox : s.session.outbox = .empty
  ready : s.session.ready = false
  isNick : Text.IsNick s.session.nick.configured
  chatOnly : Seat.ChatOnly s.hub.queue

namespace Link

/-- The session has registered, and the network has not read that yet. -/
def start (s : Seat) (now : Time) (w : Wire) : Link where
  seat := (s.perform now (.register w)).1
  outbound := Inlet.received (s.perform now (.register w)).2.written
  inbound := []
  nick := none
  heard := none

/-- The network says something, and knows the session by a nick from then on. -/
def tell (l : Link) (signal : Signal) (nick : Option Text) : Link :=
  { l with inbound := l.inbound ++ [(signal, nick)], nick }

/-- What can happen next. -/
inductive Step (l : Link) : Link → Prop where
  /-- The session handles the next line. -/
  | hear {signal : Signal} {heard : Option Text} {rest : List (Signal × Option Text)} (now : Time) :
      l.inbound = (signal, heard) :: rest →
      Step l { l with seat := (l.seat.perform now (.hear signal.line)).1, inbound := rest, heard }
  /-- The session sends a line if one is due, and else looks whether it should ask for its nick. -/
  | send (now : Time) {w : Wire} : w.isReliable = true →
      Step l { l with
        seat := (l.seat.perform now (.send w)).1
        outbound := l.outbound ++ Inlet.received (l.seat.perform now (.send w)).2.written }
  /-- The session enters channels again whose time has come. -/
  | rejoin (now : Time) : Step l { l with seat := (l.seat.perform now .rejoin).1 }
  /-- Other sessions and the game go on; they leave the nick that the roster has for this one, and
  put chat in the queue that all share. -/
  | beside (hub : Hub) :
      hub.roster.nick? l.seat.session.index = l.seat.hub.roster.nick? l.seat.session.index →
      Seat.ChatOnly hub.queue → Step l { l with seat := ⟨l.seat.session, hub⟩ }
  /-- The network reads a line that asks for no nick. -/
  | read (line : Text) (rest : List Text) :
      l.outbound = line :: rest → Command.askedNick? line = none →
      Step l { l with outbound := rest }
  /-- The network reads a line that asks for a nick, and answers. -/
  | answer (x : Text) (rest : List Text) {signal : Signal} {nick : Option Text} :
      l.outbound = Command.nick x :: rest → signal.answered? = some x →
      signal.Leads l.nick nick → Step l ({ l with outbound := rest }.tell signal nick)
  /-- The network renames the session, or says something else. -/
  | volunteer {signal : Signal} {nick : Option Text} :
      signal.isUnasked = true → signal.Leads l.nick nick → Step l (l.tell signal nick)

/-- What can come of a connection. -/
inductive Reachable : Link → Prop where
  | start {s : Seat} (now : Time) {w : Wire} : s.Unconnected → w.isReliable = true →
      Reachable (start s now w)
  | step {l l' : Link} : Reachable l → l.Step l' → Reachable l'

/-- The nicks that the session asked for and has not heard about: in what it is to write, in what it
wrote, and in refusals. -/
def pending (l : Link) : List Text :=
  l.outbound.filterMap Command.askedNick? ++ l.seat.asking ++
    l.inbound.filterMap (·.1.refused?)

/-- While the session is not registered, one nick at most is in question; and afterwards only the
nick that it wants. -/
structure Sound (l : Link) : Prop where
  published : l.seat.Published
  chatOnly : Seat.ChatOnly l.seat.hub.queue
  agrees : l.seat.standing.Agrees l.heard
  path : Signal.Path l.heard l.inbound l.nick
  isNick : ∀ x ∈ l.pending, Text.IsNick x
  once : l.heard = none → l.pending.length + l.nick.toList.length ≤ 1
  again : l.heard ≠ none → ∀ x ∈ l.pending, x = l.seat.desired

variable {l l' : Link} {s : Seat} {signal : Signal} {nick heard : Option Text} {x : Text}
  {rest : List Text} {said : List (Signal × Option Text)} {now : Time}

lemma pending_tell (l : Link) (signal : Signal) (nick : Option Text) :
    (l.tell signal nick).pending = l.pending ++ signal.refused?.toList := by
  rw [pending, pending, tell, List.filterMap_append, ← List.append_assoc]
  cases signal <;> rfl

/-- A connection stays sound if nothing comes into question but, once the session is registered, the
nick that it wants. -/
lemma Sound.of_pending (h : l.Sound) (hpublished : l'.seat.Published)
    (hchat : Seat.ChatOnly l'.seat.hub.queue) (hagrees : l'.seat.standing.Agrees l'.heard)
    (hpath : Signal.Path l'.heard l'.inbound l'.nick) (hheard : l'.heard = l.heard)
    (hdesired : l'.seat.desired = l.seat.desired)
    (hmem : ∀ x ∈ l'.pending, x ∈ l.pending ∨ l.heard ≠ none ∧ x = l.seat.desired)
    (hlength : l.heard = none → l'.pending.length + l'.nick.toList.length ≤
      l.pending.length + l.nick.toList.length) : l'.Sound := by
  refine ⟨hpublished, hchat, hagrees, hpath, fun x hx => ?_, ?_, ?_⟩
  · rcases hmem x hx with hx | ⟨-, rfl⟩
    · exact h.isNick x hx
    · exact h.agrees.isNick_desired
  · rw [hheard]
    exact fun hnone => (hlength hnone).trans (h.once hnone)
  · rw [hheard, hdesired]
    intro hne x hx
    rcases hmem x hx with hx | ⟨-, rfl⟩
    · exact h.again hne x hx
    · rfl

lemma sound_start {w : Wire} (h : s.Unconnected) (hw : w.isReliable = true) (now : Time) :
    (start s now w).Sound := by
  have hperform := s.perform_register now w
  have hstands := s.stands_register ⟨[], w⟩ now
  have hcut := lasts_isNick.cutNick h.isNick s.hub.limits.maxNick
  have hasking : (start s now w).seat.asking = [] := by
    have hempty : s.asking = [] := by rw [Seat.asking, h.outbox]; rfl
    rw [← hempty, ← List.append_nil s.asking]
    rw [start, hperform]
    exact hstands.puts.asking_eq
  have hpending : (start s now w).pending.Sublist [cutNick s.session.nick.configured
      s.hub.limits.maxNick] := by
    -- registration asks for a nick in one line of two
    have hwritten : (start s now w).outbound = (s.hub.config.registration (cutNick
        s.session.nick.configured s.hub.limits.maxNick)).filter Text.isSendable := by
      have hsent := Seat.sent_register hw s now
      rw [start, hperform, hsent]
      exact Inlet.received_flatMap_frame _
    rw [pending, hasking, hwritten, List.append_nil]
    show ((List.filter _ _).filterMap Command.askedNick? ++ []).Sublist _
    rw [List.append_nil]
    exact List.filter_sublist.filterMap Command.askedNick?
  refine ⟨?_, ?_, ?_, .nil, fun x hx => ?_, fun _ => ?_, fun hne => absurd rfl hne⟩
  · exact (s.moves_perform now (d := .register w) (by simp)).published h.published
  · rw [start, hperform, s.queue_register ⟨[], w⟩ now]
    exact h.chatOnly
  · rw [start, hperform, hstands.standing]
    exact ⟨h.ready, fun n hn => absurd hn (Option.not_mem_none n), hcut, hcut⟩
  · exact List.mem_singleton.1 (hpending.subset hx) ▸ hcut
  · have hlength := hpending.length_le
    rw [List.length_singleton] at hlength
    show (start s now w).pending.length + 0 ≤ 1
    rwa [Nat.add_zero]

/-- A session that wants its nick is registered. -/
lemma Sound.heard_of_wants (h : l.Sound) (hwants : l.seat.standing.wants = true) :
    l.heard ≠ none := by
  rw [Standing.wants, Bool.and_eq_true, h.agrees.ready] at hwants
  exact Option.isSome_iff_ne_none.1 hwants.1

/-- After the network has registered the session, and until the session hears so, nothing is in
question. -/
lemma Sound.pending_eq_nil (h : l.Sound) (hheard : l.heard = none) (hnick : l.nick.isSome = true) :
    l.pending = [] := by
  obtain ⟨n, hn⟩ := Option.isSome_iff_exists.1 hnick
  have honce := h.once hheard
  rw [hn, Option.toList_some, List.length_singleton] at honce
  exact List.eq_nil_of_length_eq_zero (by omega)

lemma pending_of_inbound (hinbound : l.inbound = (signal, heard) :: said) :
    l.pending = l.outbound.filterMap Command.askedNick? ++ l.seat.asking ++
      (signal.refused?.toList ++ said.filterMap (·.1.refused?)) := by
  rw [pending, hinbound, List.filterMap_cons]
  cases signal.refused? <;> rfl

/-- With a line that is heard a nick that it refuses goes out of question, and the nicks come in that
the session asks for then. -/
lemma pending_hear {t : Seat} {nicks : List Text} (hinbound : l.inbound = (signal, heard) :: said)
    (hputs : l.seat.Puts nicks t) :
    let l' : Link := { l with seat := t, inbound := said, heard }
    (∀ x ∈ l'.pending, x ∈ l.pending ∨ x ∈ nicks) ∧
      (nicks.length ≤ signal.refused?.toList.length → l'.pending.length ≤ l.pending.length) := by
  intro l'
  have hbefore := pending_of_inbound hinbound
  have hafter : l'.pending = l.outbound.filterMap Command.askedNick? ++ (l.seat.asking ++ nicks) ++
      said.filterMap (·.1.refused?) := by
    rw [pending, hputs.asking_eq]
  refine ⟨fun x hx => ?_, fun hcount => ?_⟩
  · rw [hafter, List.mem_append, List.mem_append, List.mem_append] at hx
    rw [hbefore, List.mem_append, List.mem_append, List.mem_append]
    tauto
  · rw [hbefore, hafter]
    simp only [List.length_append]
    omega

/-- The session handles a line. -/
lemma Sound.hear (h : l.Sound) (hinbound : l.inbound = (signal, heard) :: said) (now : Time) :
    Sound { l with
      seat := (l.seat.perform now (.hear signal.line)).1, inbound := said, heard } := by
  have hpath := h.path
  rw [hinbound] at hpath
  obtain _ | ⟨hleads, hrest⟩ := hpath
  have hwanted : l.heard ≠ none → ∀ x ∈ signal.refused?, x = l.seat.standing.nick.desired := by
    intro hne x hx
    refine h.again hne x ?_
    rw [pending_of_inbound hinbound]
    exact List.mem_append_right _ (List.mem_append_left _ (Option.mem_toList.2 hx))
  have hheeds := h.agrees.hear hleads hwanted l.seat.actual
  have hstands := l.seat.stands_hear now signal.line
  have hqueue := (Seat.Acts.refl.hear now signal.line : l.seat.Acts _).queue_eq
  have hpublished := (l.seat.moves_hear now signal.line).published h.published
  generalize l.seat.standing.hear (Message.ofLine l.seat.actual signal.line) = result
    at hheeds hstands
  obtain ⟨st, nicks⟩ := result
  show Sound { l with seat := (l.seat.hear now signal.line).1, inbound := said, heard }
  generalize (l.seat.hear now signal.line).1 = t at hstands hqueue hpublished ⊢
  have hdesired : t.desired = l.seat.desired :=
    (congrArg (fun st : Standing => st.nick.desired) hstands.standing).trans hheeds.desired
  obtain ⟨hmem, hlength⟩ := pending_hear hinbound hstands.puts
  refine ⟨hpublished, hqueue ▸ h.chatOnly, hstands.standing ▸ hheeds.agrees, hrest, ?_, ?_, ?_⟩
  · exact fun x hx => (hmem x hx).elim (h.isNick x) (hheeds.isNick x)
  · intro hnone
    have hfirst : l.heard = none := by
      by_contra hne
      have hsome := hleads.isSome (Option.isSome_iff_ne_none.2 hne)
      rw [show heard = none from hnone] at hsome
      cases hsome
    exact (Nat.add_le_add_right (hlength (hheeds.once hfirst)) _).trans (h.once hfirst)
  · intro hne x hx
    show x = t.desired
    rw [hdesired]
    by_cases hfirst : l.heard = none
    · -- the network has registered the session, and nothing is in question then
      have hregistered : l.nick.isSome = true := hrest.isSome (Option.isSome_iff_ne_none.2 hne)
      have hnil := h.pending_eq_nil hfirst hregistered
      have hle := hlength (hheeds.once hfirst)
      rw [hnil, List.length_nil] at hle
      exact absurd (List.length_pos_of_mem hx) (Nat.not_lt.2 hle)
    · exact (hmem x hx).elim (h.again hfirst x) (hheeds.again hfirst x)

/-- Nothing comes into question. -/
lemma Sound.of_sublist (h : l.Sound) (hpublished : l'.seat.Published)
    (hchat : Seat.ChatOnly l'.seat.hub.queue) (hagrees : l'.seat.standing.Agrees l'.heard)
    (hpath : Signal.Path l'.heard l'.inbound l'.nick) (hheard : l'.heard = l.heard)
    (hdesired : l'.seat.desired = l.seat.desired) (hpending : l'.pending.Sublist l.pending)
    (hnick : l'.nick.toList.length = l.nick.toList.length) : l'.Sound :=
  h.of_pending hpublished hchat hagrees hpath hheard hdesired
    (fun _ hx => .inl (hpending.subset hx)) fun _ => Nat.add_le_add hpending.length_le hnick.le

lemma Sound.send {w : Wire} (h : l.Sound) (now : Time) (hw : w.isReliable = true) :
    Sound { l with
      seat := (l.seat.perform now (.send w)).1
      outbound := l.outbound ++ Inlet.received (l.seat.perform now (.send w)).2.written } := by
  obtain ⟨hchat, hasks⟩ := Seat.asking_send hw h.chatOnly now
  have hmoves := l.seat.moves_perform now (d := .send w) (by simp)
  have hstanding : (l.seat.perform now (.send w)).1.standing = l.seat.standing :=
    l.seat.standing_perform now (.send w)
  generalize l.seat.perform now (.send w) = result at hchat hasks hmoves hstanding ⊢
  obtain ⟨t, effect⟩ := result
  dsimp only at hchat hasks hmoves hstanding ⊢
  have hdesired : t.desired = l.seat.desired :=
    congrArg (fun st : Standing => st.nick.desired) hstanding
  have hpending : pending { l with seat := t, outbound := l.outbound ++ Inlet.received effect.written } =
      l.outbound.filterMap Command.askedNick? ++ (Seat.asksFor effect.written ++ t.asking) ++
        l.inbound.filterMap (·.1.refused?) := by
    simp only [pending, Seat.asksFor, List.filterMap_append, List.append_assoc]
  rcases hasks with hless | ⟨hwants, hmore⟩
  · refine h.of_sublist (hmoves.published h.published) hchat (hstanding ▸ h.agrees) h.path rfl
      hdesired ?_ rfl
    rw [hpending, pending]
    exact (hless.append_left _).append_right _
  · have hheard := h.heard_of_wants hwants
    refine h.of_pending (hmoves.published h.published) hchat (hstanding ▸ h.agrees) h.path rfl
      hdesired (fun x hx => ?_) (fun hnone => absurd hnone hheard)
    rw [hpending, hmore, List.mem_append, List.mem_append, List.mem_append,
      List.mem_singleton] at hx
    rw [pending, List.mem_append, List.mem_append]
    tauto

/-- The session does something about which the network hears nothing. -/
lemma Sound.seat {t : Seat} (h : l.Sound) (hpublished : t.Published)
    (hchat : Seat.ChatOnly t.hub.queue) (hnick : t.session.nick = l.seat.session.nick)
    (hready : t.session.ready = l.seat.session.ready) (hputs : l.seat.Puts [] t) :
    Sound { l with seat := t } := by
  have hpending : pending { l with seat := t } = l.pending := by
    rw [pending, pending, hputs.asking_eq, List.append_nil]
  exact h.of_sublist hpublished hchat (h.agrees.of_eq hnick hready) h.path rfl
    (congrArg NickSearch.desired hnick) (hpending ▸ .refl _) rfl

lemma Sound.read {line : Text} (h : l.Sound) (houtbound : l.outbound = line :: rest)
    (hline : Command.askedNick? line = none) : Sound { l with outbound := rest } := by
  have hpending : pending { l with outbound := rest } = l.pending := by
    rw [pending, pending, houtbound, List.filterMap_cons, hline]
  exact h.of_sublist h.published h.chatOnly h.agrees h.path rfl rfl (hpending ▸ .refl _) rfl

/-- The network answers.  A nick that it refuses stays in question until the session hears so, and
one that it grants is in question no more. -/
lemma Sound.answer (h : l.Sound) (houtbound : l.outbound = Command.nick x :: rest)
    (hanswer : signal.answered? = some x) (hleads : signal.Leads l.nick nick) :
    Sound ({ l with outbound := rest }.tell signal nick) := by
  have hpending : l.pending = x :: pending { l with outbound := rest } := by
    rw [pending, houtbound, List.filterMap_cons, Command.askedNick?_nick]
    rfl
  have hcount := hleads.length_answer_le
  refine h.of_pending h.published h.chatOnly h.agrees (h.path.concat hleads) rfl rfl
    (fun y hy => .inl ?_) (fun _ => ?_)
  · rw [pending_tell, List.mem_append, Option.mem_toList] at hy
    rw [hpending]
    rcases hy with hy | hy
    · exact List.mem_cons_of_mem x hy
    · exact Signal.eq_of_refused? hanswer hy ▸ List.mem_cons_self
  · rw [pending_tell, hpending, List.length_append, List.length_cons]
    show _ + nick.toList.length ≤ _
    omega

lemma Sound.volunteer (h : l.Sound) (hunasked : signal.isUnasked = true)
    (hleads : signal.Leads l.nick nick) : (l.tell signal nick).Sound := by
  have hpending : (l.tell signal nick).pending = l.pending := by
    rw [pending_tell, Signal.refused?_of_isUnasked hunasked, Option.toList_none, List.append_nil]
  exact h.of_sublist h.published h.chatOnly h.agrees (h.path.concat hleads) rfl rfl
    (hpending ▸ .refl _) (hleads.length_eq_of_isUnasked hunasked)

lemma Sound.step (h : l.Sound) (hstep : l.Step l') : l'.Sound := by
  cases hstep with
  | hear now hinbound => exact h.hear hinbound now
  | send now hw => exact h.send now hw
  | rejoin now =>
    have hrests := l.seat.rests_rejoinDue now
    have hqueue := (Seat.Acts.refl.rejoinDue now : l.seat.Acts (l.seat.rejoinDue now)).queue_eq
    have hmoves := l.seat.moves_perform now (d := .rejoin) (by simp)
    refine h.seat (hmoves.published h.published) ?_ (congrArg Standing.nick hrests.standing)
      (congrArg Standing.ready hrests.standing) hrests.puts
    exact hqueue ▸ h.chatOnly
  | beside hub hnick hchat =>
    exact h.seat (hnick.trans h.published) hchat rfl rfl (.of_eq rfl)
  | read line rest houtbound hline => exact h.read houtbound hline
  | answer x rest houtbound hanswer hleads => exact h.answer houtbound hanswer hleads
  | volunteer hunasked hleads => exact h.volunteer hunasked hleads

lemma Reachable.sound (h : l.Reachable) : l.Sound := by
  induction h with
  | start now hs hw => exact sound_start hs hw now
  | step _ hstep ih => exact ih.step hstep

/-- **A session knows its nick.**  Let a session connect to a network that answers its requests for
a nick in order, by granting or refusing them, and that may rename it and say other things at any
time; and let both directions be late as they may.  Every nick that the session asks for is one that
a network may give.  While the session is registered, it goes by the nick by which the network knew
it when it said what the session heard last, and so the roster has it; so once it has heard all, that
is the nick that it has.  And a refusal then leaves the session and the roster as they are. -/
theorem nick_of_reachable (h : l.Reachable) :
    (∀ x ∈ l.outbound.filterMap Command.askedNick?, Text.IsNick x) ∧
    (l.seat.session.ready = true →
      l.heard = some l.seat.actual ∧
      l.seat.hub.roster.nick? l.seat.session.index = l.heard ∧
      (l.inbound = [] → l.nick = l.heard) ∧
      ∀ server code current x more heard rest, l.inbound =
        (.refused server code current x more, heard) :: rest → ∀ now : Time,
        let t := (l.seat.perform now (.hear (Signal.refused server code current x more).line)).1
        t.session = l.seat.session ∧ t.hub.roster = l.seat.hub.roster) := by
  have hsound := h.sound
  refine ⟨fun x hx => hsound.isNick x ?_, fun hready => ?_⟩
  · rw [pending, List.append_assoc]
    exact List.mem_append_left _ hx
  have hsome : l.heard.isSome = true := hsound.agrees.ready.symm.trans hready
  obtain ⟨n, hn⟩ := Option.isSome_iff_exists.1 hsome
  have hactual : l.seat.actual = n := hsound.agrees.actual n hn
  have hheard : l.heard = some l.seat.actual := by rw [hn, hactual]
  refine ⟨hheard, hsound.published.trans hheard.symm, fun hnil => ?_, ?_⟩
  · have hpath := hsound.path
    rw [hnil] at hpath
    exact hpath.eq_of_nil.symm
  · intro server code current x more heard rest hinbound now
    have hpath := hsound.path
    have hx : x = l.seat.desired := by
      refine hsound.again (Option.isSome_iff_ne_none.1 hsome) x ?_
      rw [pending, hinbound]
      exact List.mem_append_right _ List.mem_cons_self
    rw [hinbound] at hpath
    obtain _ | ⟨hleads, -⟩ := hpath
    obtain ⟨hcurrent, hserver, hcode⟩ := hleads.of_refused
    rw [hcurrent, hheard, hx]
    exact l.seat.hear_refused more hserver hcode hsound.agrees.isNick_actual
      hsound.agrees.isNick_desired now

/-- The nick is taken, and the session registers under another one.  When the holder of its nick
leaves it asks for that; but the network renames it first, and then someone else has the nick. -/
theorem nick_of_reachable_renamed :
    ∃ l : Link, l.Reachable ∧ l.seat.session.ready = true ∧
      l.inbound = [(Signal.refused "irc.test" .nickInUse (some ("Guest7" : Text)) "ServerBot" none,
        some ("Guest7" : Text))] ∧
      l.heard = some ("Guest7" : Text) ∧ l.seat.actual = ("Guest7" : Text) ∧
      l.seat.hub.roster.nick? l.seat.session.index = some ("Guest7" : Text) := by
  let config : Config := { Config.default with sendDelay := 0 }
  let s : Seat := ⟨.fresh config 0 0, .fresh config⟩
  have hserver : ' ' ∉ ("irc.test" : Text) := by decide
  have hbot : Text.IsNick "ServerBot" := ⟨⟨by decide, by decide, by decide⟩, by decide⟩
  have hbot' : Text.IsNick "ServerBot_" := ⟨⟨by decide, by decide, by decide⟩, by decide⟩
  have hguest : Text.IsNick "Guest7" := ⟨⟨by decide, by decide, by decide⟩, by decide⟩
  have hquits : Signal.isAside ":ServerBot!u@host QUIT :bye" = true :=
    @Signal.isAside_of_command _ "QUIT" ⟨some "ServerBot!u@host", "QUIT", [], some "bye"⟩
      (by decide) (by decide) (by decide) (by decide)
  have hrefuses : ∀ current, Signal.Leads current
      (.refused "irc.test" .nickInUse current "ServerBot" none) current :=
    fun _ => .refused hserver rfl hbot
  have hwelcomes : Signal.Leads none (.welcome "irc.test" "ServerBot_" none)
      (some ("ServerBot_" : Text)) := .welcome hserver hbot'
  have hrenames : Signal.Leads (some ("ServerBot_" : Text))
      (.renamed "ServerBot_" "bot" "host" "Guest7") (some ("Guest7" : Text)) :=
    .renamed (by decide) (by decide) hguest
  have hfree : Wire.free.isReliable = true := by decide
  have hstart : (start s 0 .free).Reachable :=
    .start 0 ⟨rfl, rfl, rfl, hbot, fun _ hline => absurd hline List.not_mem_nil⟩ hfree
  have hrefused := hstart.step (.answer "ServerBot" ["USER ServerBot 8 * :Game server chat bridge"]
    (by decide) rfl (hrefuses none))
  have hasked := ((hrefused.step (.read _ [] rfl rfl)).step (.hear 1 rfl)).step (.send 1 hfree)
  have hwelcome := hasked.step (.answer "ServerBot_" [] (by decide) rfl hwelcomes)
  have hquit := (hwelcome.step (.hear 2 rfl)).step (.volunteer rfl (.aside hquits))
  have hrenamed := hquit.step (.volunteer rfl hrenames)
  have hreclaim := (((hrenamed.step (.hear 3 rfl)).step (.send 3 hfree)).step (.send 4 hfree)).step (.send 5 hfree)
  have hjoined := hreclaim.step (.read "JOIN #changeme" ["USERHOST ServerBot_", "NICK ServerBot"]
    (by decide) rfl)
  have hread := hjoined.step (.read "USERHOST ServerBot_" ["NICK ServerBot"] (by decide) rfl)
  have htaken := hread.step (.answer "ServerBot" [] (by decide) rfl (hrefuses _))
  have hend := htaken.step (.hear 6 rfl)
  obtain ⟨hheard, hroster, -⟩ := (nick_of_reachable hend).2 (by decide)
  refine ⟨_, hend, by decide, rfl, rfl, ?_, ?_⟩
  · exact (Option.some.inj hheard).symm
  · exact hroster

end Link
end ChatLink
