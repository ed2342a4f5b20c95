/-
# Runs that can come about

A run begins with new sessions and goes on by what the sessions do, one at a time, while queues,
limits and records change beside them as they may.  In every run that comes about so, responsibility
is settled, each session stands at its index, and the roster knows its nick.  Main statement:
`nicks_published`.
-/
import Mathlib
import ChatLink.Proofs.Session.Places

namespace ChatLink.Run

variable {r r' : Run} {i k : Nat} {now : Time} {session : Session} {s t : Seat}

/-- A run begins on a hub that earlier runs may have used: every session is new. -/
def begin (hub : Hub) (now : Time) : Run :=
  ⟨{ hub with roster := .ofNicks hub.config.sessionNicks },
    (List.range hub.config.sessionCount).map fun i => Session.fresh hub.config i now⟩

/-- A run with the same sessions at the same places; all else may differ. -/
structure SameSeats (r r' : Run) : Prop where
  config : r'.hub.config = r.hub.config
  roster : r'.hub.roster = r.hub.roster
  sessions : r'.sessions.map (fun s => (s.index, s.nick)) = r.sessions.map fun s => (s.index, s.nick)

/-- The runs that can come about.  A session goes back to the nick it wants only while it
registers, where it publishes that nick at once. -/
inductive Reachable : Run → Prop where
  | begin (hub : Hub) (now : Time) : Reachable (begin hub now)
  | act {r : Run} (i : Nat) (now : Time) {d : Deed} :
      Reachable r → d ≠ .resetNick → Reachable (r.act i now d).1
  | beside {r r' : Run} : Reachable r → SameSeats r r' → Reachable r'

/-- Every session stands at its index, the roster knows its nick, and responsibility is settled. -/
structure Seated (r : Run) : Prop where
  settled : r.hub.roster.Settled
  length : r.hub.roster.slots.length = r.sessions.length
  index : ∀ {i : Nat} {session : Session}, r.sessions[i]? = some session → session.index = i
  nick : ∀ {i : Nat} {session : Session}, r.sessions[i]? = some session →
    r.hub.roster.nick? i = some session.nick.actual

lemma seat?_eq_some_iff : r.seat? i = some s ↔ r.sessions[i]? = some s.session ∧ s.hub = r.hub := by
  rw [seat?, Option.map_eq_some_iff]
  constructor
  · rintro ⟨session, hsession, rfl⟩
    exact ⟨hsession, rfl⟩
  · rintro ⟨hsession, hhub⟩
    exact ⟨s.session, hsession, by rw [← hhub]⟩

lemma seat?_eq_none_iff : r.seat? i = none ↔ r.sessions.length ≤ i := by
  rw [seat?, Option.map_eq_none_iff, List.getElem?_eq_none_iff]

/-! ### One deed -/

lemma act_eq_settle (hs : r.seat? i = some s) (now : Time) (d : Deed) :
    (r.act i now d).1 = r.settle i (s.perform now d).1 := by
  rw [act, hs]

/-- The session that moved sits on the seat that it moved to. -/
lemma seat?_settle (hs : r.seat? i = some s) (t : Seat) : (r.settle i t).seat? i = some t := by
  have hlt : i < r.sessions.length := (List.getElem?_eq_some_iff.1 (seat?_eq_some_iff.1 hs).1).1
  rw [seat?_eq_some_iff, Run.settle, List.getElem?_set_self hlt]
  exact ⟨rfl, rfl⟩

lemma seat?_act (hs : r.seat? i = some s) (now : Time) (d : Deed) :
    (r.act i now d).1.seat? i = some (s.perform now d).1 := by
  rw [act_eq_settle hs, seat?_settle hs]

/-- The others stay as they are. -/
lemma sessions_act_of_ne (r : Run) (h : k ≠ i) (now : Time) (d : Deed) :
    (r.act k now d).1.sessions[i]? = r.sessions[i]? := by
  cases hs : r.seat? k with
  | none => rw [act, hs]
  | some s => rw [act_eq_settle hs, Run.settle, List.getElem?_set_ne h]

/-! ### The invariant -/

lemma seated_begin (hub : Hub) (now : Time) : (begin hub now).Seated where
  settled := Roster.settled_ofNicks _
  length := by
    simp [begin, Roster.ofNicks, Config.sessionNicks]
  index h := by
    rw [begin, List.getElem?_map, Option.map_eq_some_iff] at h
    obtain ⟨j, hj, rfl⟩ := h
    obtain ⟨hlt, hj⟩ := List.getElem?_eq_some_iff.1 hj
    rw [List.getElem_range] at hj
    exact hj.symm
  nick h := by
    rw [begin, List.getElem?_map, Option.map_eq_some_iff] at h
    obtain ⟨j, hj, rfl⟩ := h
    show ((List.map _ (List.map _ (List.range _)))[_]?).map Slot.nick = _
    rw [List.getElem?_map, List.getElem?_map, hj]
    rfl

lemma Seated.index_of_seat? (h : r.Seated) (hs : r.seat? i = some s) : s.session.index = i :=
  h.index (seat?_eq_some_iff.1 hs).1

lemma Seated.published (h : r.Seated) (hs : r.seat? i = some s) : s.Published := by
  obtain ⟨hsession, hhub⟩ := seat?_eq_some_iff.1 hs
  rw [Seat.Published, h.index_of_seat? hs, hhub]
  exact h.nick hsession

/-- A responsible session is there. -/
lemma Seated.lt_of_isResponsible (h : r.Seated) (hk : r.hub.roster.isResponsible k = true) :
    k < r.sessions.length := by
  have hstate := Roster.isSome_state?_of_isResponsible hk
  by_contra hle
  rw [← h.length, not_lt, ← Roster.state?_eq_none_iff] at hle
  rw [hle] at hstate
  cases hstate

/-- A session that moves keeps everyone seated. -/
lemma Seated.settle (h : r.Seated) (hs : r.seat? i = some s) (hmove : s.Moves t) :
    (r.settle i t).Seated := by
  obtain ⟨hsession, hhub⟩ := seat?_eq_some_iff.1 hs
  have hindex := h.index_of_seat? hs
  have hlt : i < r.sessions.length := (List.getElem?_eq_some_iff.1 hsession).1
  refine ⟨?_, ?_, ?_, ?_⟩
  · exact hmove.settled (by rw [hhub]; exact h.settled)
  · show t.hub.roster.slots.length = (r.sessions.set i t.session).length
    rw [hmove.length, hhub, h.length, List.length_set]
  · intro k session hk
    rw [Run.settle, List.getElem?_set] at hk
    split at hk
    · next hik =>
      cases hk
      rw [hmove.index, hindex, hik]
    · exact h.index hk
  · -- the session that moved has published its nick, and the nicks of the others are untouched
    intro k session hk
    rw [Run.settle, List.getElem?_set] at hk
    show t.hub.roster.nick? k = _
    split at hk
    · next hik =>
      cases hk
      have hpublished := hmove.published (h.published hs)
      rwa [Seat.Published, hmove.index, hindex, hik] at hpublished
    · next hik =>
      rw [hmove.nick_other k (by rw [hindex]; exact Ne.symm hik), hhub]
      exact h.nick hk

lemma Seated.act (h : r.Seated) (i : Nat) (now : Time) {d : Deed} (hd : d ≠ .resetNick) :
    (r.act i now d).1.Seated := by
  rw [Run.act]
  split
  · next s hs => exact h.settle hs (s.moves_perform now hd)
  · exact h

lemma Seated.beside (h : r.Seated) (hsame : SameSeats r r') : r'.Seated := by
  have hsession : ∀ {i : Nat} {session : Session}, r'.sessions[i]? = some session →
      ∃ session', r.sessions[i]? = some session' ∧ session'.index = session.index ∧
        session'.nick = session.nick := by
    intro i session hi
    have hmap := congrArg (·[i]?) hsame.sessions
    simp only [List.getElem?_map, hi, Option.map_some] at hmap
    obtain ⟨session', hi', heq⟩ := Option.map_eq_some_iff.1 hmap.symm
    exact ⟨session', hi', congrArg Prod.fst heq, congrArg Prod.snd heq⟩
  refine ⟨?_, ?_, ?_, ?_⟩
  · rw [hsame.roster]
    exact h.settled
  · have hlength := congrArg List.length hsame.sessions
    rw [List.length_map, List.length_map] at hlength
    rw [hsame.roster, h.length, hlength]
  · intro i session hi
    obtain ⟨session', hi', hindex, -⟩ := hsession hi
    rw [← hindex, h.index hi']
  · intro i session hi
    obtain ⟨session', hi', -, hnick⟩ := hsession hi
    rw [hsame.roster, h.nick hi', hnick]

/-- In every run that can come about the sessions are seated. -/
lemma Reachable.seated (h : r.Reachable) : r.Seated := by
  induction h with
  | begin hub now => exact seated_begin hub now
  | act i now _ hd ih => exact ih.act i now hd
  | beside _ hsame ih => exact ih.beside hsame

/-! ### Nicks -/

/-- The nick of a session. -/
def actual? (r : Run) (i : Nat) : Option Text := r.sessions[i]?.map (·.nick.actual)

lemma Seated.actual?_eq (h : r.Seated) (i : Nat) : r.actual? i = r.hub.roster.nick? i := by
  rw [actual?]
  cases hi : r.sessions[i]? with
  | none =>
    rw [List.getElem?_eq_none_iff, ← h.length] at hi
    rw [Roster.nick?, List.getElem?_eq_none hi]
    rfl
  | some session => exact (h.nick hi).symm

/-- The roster knows a nick if a session stands under it. -/
lemma Seated.isOurs_iff (h : r.Seated) {nick : Text} :
    r.hub.roster.isOurs nick = true ↔ ∃ i, ∃ own ∈ r.actual? i, Text.sameName nick own = true := by
  rw [Roster.isOurs, List.any_eq_true]
  constructor
  · rintro ⟨slot, hslot, hsame⟩
    obtain ⟨i, hi⟩ := List.mem_iff_getElem?.1 hslot
    refine ⟨i, slot.nick, ?_, by rwa [Text.sameName_comm]⟩
    rw [h.actual?_eq, Roster.nick?, hi]
    rfl
  · rintro ⟨i, own, hown, hsame⟩
    rw [h.actual?_eq, Roster.nick?] at hown
    obtain ⟨slot, hslot, rfl⟩ := Option.map_eq_some_iff.1 hown
    exact ⟨slot, List.mem_of_getElem? hslot, by rwa [Text.sameName_comm]⟩

lemma length_sessions_advance (r : Run) (e : Entry) :
    (r.advance e).sessions.length = r.sessions.length := by
  cases e with
  | enqueue lines => rfl
  | deed i now d =>
    rw [advance, Run.act]
    split
    · exact List.length_set
    · rfl

/-- What each of the entries keeps is kept by all of them. -/
lemma keeps_after {P : Run → Prop} {history : List Entry} (h : P r)
    (hadvance : ∀ r, P r → ∀ e ∈ history, P (r.advance e)) : P (r.after history) :=
  List.foldlRecOn (motive := P) history _ h hadvance

lemma length_sessions_after (r : Run) (history : List Entry) :
    (r.after history).sessions.length = r.sessions.length :=
  keeps_after (P := fun r' => r'.sessions.length = r.sessions.length) rfl
    fun r' hr' e _ => (length_sessions_advance r' e).trans hr'

/-- What comes of a run in which every session registers as a whole can come about. -/
lemma Reachable.after {history : List Entry} (h : r.Reachable)
    (hreset : ∀ i now, Entry.deed i now .resetNick ∉ history) : (r.after history).Reachable := by
  refine keeps_after h fun r hr e he => ?_
  cases e with
  | enqueue lines => exact .beside hr ⟨rfl, rfl, rfl⟩
  | deed i now d =>
    refine .act i now hr ?_
    rintro rfl
    exact hreset i now he

/-- **The roster knows every session by its nick.**  Let a run begin with any number of sessions, and
let them register, hear lines, send, enter channels again, lose their connections and report in any
order.  After each of these deeds there are as many sessions as before, the roster has for each the
nick that the session goes by, and the nicks that are ours are those of the sessions. -/
theorem nicks_published (hub : Hub) (start : Time) {history : List Entry}
    (h : ∀ i now, Entry.deed i now .resetNick ∉ history) :
    let r := (begin hub start).after history
    r.sessions.length = hub.config.sessionCount ∧
    (∀ i, r.hub.roster.nick? i = r.actual? i) ∧
    (∀ session ∈ r.sessions, r.hub.roster.isOurs session.nick.actual = true) ∧
    ∀ nick, r.hub.roster.isOurs nick = true → ∃ session ∈ r.sessions,
      Text.sameName nick session.nick.actual = true := by
  intro r
  have hseated : r.Seated := ((Reachable.begin hub start).after h).seated
  refine ⟨?_, fun i => (hseated.actual?_eq i).symm, fun session hsession => ?_, fun nick hnick => ?_⟩
  · rw [length_sessions_after, begin, List.length_map, List.length_range]
  · obtain ⟨i, hi⟩ := List.mem_iff_getElem?.1 hsession
    exact hseated.isOurs_iff.2 ⟨i, session.nick.actual, by rw [actual?, hi]; rfl,
      Text.sameName_refl _⟩
  · obtain ⟨i, own, hown, hsame⟩ := hseated.isOurs_iff.1 hnick
    obtain ⟨session, hsession, rfl⟩ := Option.map_eq_some_iff.1 hown
    exact ⟨session, List.mem_of_getElem? hsession, hsame⟩

/-- Two sessions: one finds its nick taken and is renamed later, the other asks for a shorter one and
loses its connection. -/
theorem nicks_published_two :
    let config : Config := { Config.default with sessionCount := 2 }
    let history : List Entry := [
      .deed 0 0 (.register .free), .deed 1 0 (.register .broken),
      .deed 0 1 (.hear ":irc.test 433 * ServerBot :Nickname is already in use"),
      .deed 1 2 (.hear ":irc.test 432 * ServerBot2 :Erroneous nickname"),
      .deed 0 3 (.hear ":irc.test 001 ServerBot_ :Welcome"), .deed 1 4 .disconnect,
      .enqueue ["PRIVMSG #changeme :hi"], .deed 0 5 (.send .free),
      .deed 0 6 (.hear ":ServerBot_!bot@host NICK :Relay"), .deed 0 7 .rejoin,
      .deed 1 8 (.flush .free)]
    (∀ i now, Entry.deed i now .resetNick ∉ history) ∧
      ∃ r, r = (begin (.fresh config) 0).after history ∧
        r.actual? 0 = some ("Relay" : Text) ∧ r.hub.roster.nick? 0 = some ("Relay" : Text) ∧
        r.actual? 1 = some ("ServerBot" : Text) ∧
        r.hub.roster.nick? 1 = some ("ServerBot" : Text) := by
  intro config history
  have hreset : ∀ i now, Entry.deed i now .resetNick ∉ history := by simp [history]
  obtain ⟨-, hnicks, -⟩ := nicks_published (.fresh config) 0 hreset
  have hfirst : ((begin (.fresh config) 0).after history).actual? 0 = some ("Relay" : Text) := by
    decide
  have hsecond : ((begin (.fresh config) 0).after history).actual? 1 =
      some ("ServerBot" : Text) := by
    decide
  exact ⟨hreset, _, rfl, hfirst, (hnicks 0).trans hfirst, hsecond, (hnicks 1).trans hsecond⟩

end ChatLink.Run
