/-
# Several sessions that hear the same

Every session of a run hears what users do, and the responsible one alone tells the game.  However
the sessions take turns, nobody's connection ends, the roster stays as it is, and the game is told
what the responsible session by itself would tell, in the order of the lines.
-/
import Mathlib
import ChatLink.Proofs.Session.Announce
import ChatLink.Proofs.Session.Reachable

namespace ChatLink

/-- A session hears a line at a time. -/
structure Call where
  session : Nat
  now : Time
  line : Text
deriving DecidableEq, Repr

/-- The event that a line of traffic makes. -/
def Config.eventOf? (c : Config) (line : Text) : Option NetworkEvent :=
  (Message.ofLine [] line).event? c

namespace Run

variable {r : Run} {i k n : Nat} {now : Time} {line : Text} {lines : List Text}
  {calls : List Call} {call : Call}

/-- The run after a call. -/
def hearOne (r : Run) (call : Call) : Run :=
  (r.act call.session call.now (.hear call.line)).1

/-- The run after calls, the first one first. -/
def hearAll (r : Run) (calls : List Call) : Run := calls.foldl hearOne r

/-- Each of `n` sessions hears the same lines in their order; between the sessions there is no
order. -/
structure Interleaves (n : Nat) (lines : List Text) (calls : List Call) : Prop where
  session_lt : ∀ call ∈ calls, call.session < n
  lines_eq : ∀ i < n, (calls.filter (·.session = i)).map Call.line = lines

lemma Interleaves.mem_lines (h : Interleaves n lines calls) (hcall : call ∈ calls) :
    call.line ∈ lines := by
  rw [← h.lines_eq call.session (h.session_lt call hcall)]
  refine List.mem_map_of_mem ?_
  rw [List.mem_filter]
  exact ⟨hcall, by simp⟩

/-! ### One call -/

/-- What the game is told in a call. -/
def toldIn (r : Run) (call : Call) : List NetworkEvent :=
  if r.hub.roster.isResponsible call.session then (r.hub.config.eventOf? call.line).toList else []

/-- A run in which the game was told more and nothing that decides about telling has changed. -/
structure Tells (r r' : Run) (events : List NetworkEvent) : Prop where
  seated : r'.Seated
  config : r'.hub.config = r.hub.config
  roster : r'.hub.roster = r.hub.roster
  delivered : r'.hub.delivered = r.hub.delivered ++ events

lemma Tells.trans {r₁ r₂ r₃ : Run} {events events' : List NetworkEvent}
    (h : r₁.Tells r₂ events) (h' : r₂.Tells r₃ events') : r₁.Tells r₃ (events ++ events') where
  seated := h'.seated
  config := h'.config.trans h.config
  roster := h'.roster.trans h.roster
  delivered := by rw [h'.delivered, h.delivered, List.append_assoc]

lemma tells_hearOne (h : r.Seated) (call : Call) (hline : r.hub.roster.Foreign call.line) :
    (r.act call.session call.now (.hear call.line)).2.exit = none ∧
      r.Tells (r.hearOne call) (r.toldIn call) := by
  have hseated : (r.hearOne call).Seated := h.act call.session call.now (by simp)
  rw [hearOne] at hseated ⊢
  rw [act] at hseated ⊢
  cases hs : r.seat? call.session with
  | none =>
    have hnot : ¬ r.hub.roster.isResponsible call.session = true := fun hresp =>
      absurd (h.lt_of_isResponsible hresp) (not_lt.2 (seat?_eq_none_iff.1 hs))
    refine ⟨rfl, h, rfl, rfl, ?_⟩
    rw [toldIn, if_neg hnot, List.append_nil]
  | some s =>
    rw [hs] at hseated
    obtain ⟨-, hhub⟩ := seat?_eq_some_iff.1 hs
    obtain ⟨hexit, htells⟩ := Seat.hear_foreign call.now (h.published hs) (by rwa [hhub])
    refine ⟨hexit, hseated, ?_, ?_, ?_⟩
    · show (s.hear call.now call.line).1.hub.config = _
      rw [htells.config, hhub]
    · show (s.hear call.now call.line).1.hub.roster = _
      rw [htells.roster, hhub]
    · show (s.hear call.now call.line).1.hub.delivered = _
      rw [htells.delivered, Seat.told, Seat.isResponsible, h.index_of_seat? hs, hhub]
      rfl

/-! ### All calls -/

/-- The calls leave the roster alone, and each adds what is told in it. -/
lemma tells_hearAll (h : r.Seated) (calls : List Call)
    (hlines : ∀ call ∈ calls, r.hub.roster.Foreign call.line) :
    r.Tells (r.hearAll calls) (calls.flatMap r.toldIn) := by
  induction calls generalizing r with
  | nil => exact ⟨h, rfl, rfl, (List.append_nil _).symm⟩
  | cons call calls ih =>
    have hone := (tells_hearOne h call (hlines call List.mem_cons_self)).2
    have hrest := ih hone.seated fun other hother => by
      rw [hone.roster]
      exact hlines other (List.mem_cons_of_mem call hother)
    have htold : (r.hearOne call).toldIn = r.toldIn := by
      funext other
      rw [toldIn, hone.roster, hone.config, toldIn]
    rw [htold] at hrest
    exact hone.trans hrest

/-- Only what the holder of responsibility hears is told. -/
lemma flatMap_toldIn (hk : r.hub.roster.isResponsible k = true)
    (hunique : ∀ j, r.hub.roster.isResponsible j = true → j = k) (calls : List Call) :
    calls.flatMap r.toldIn =
      ((calls.filter (·.session = k)).map Call.line).filterMap r.hub.config.eventOf? := by
  induction calls with
  | nil => rfl
  | cons call calls ih =>
    rw [List.flatMap_cons, ih, toldIn]
    by_cases hcall : call.session = k
    · rw [hcall, hk, if_pos rfl, List.filter_cons_of_pos (by simpa using hcall), List.map_cons,
        List.filterMap_cons]
      cases r.hub.config.eventOf? call.line <;> rfl
    · have hnot : r.hub.roster.isResponsible call.session ≠ true := fun h => hcall (hunique _ h)
      rw [if_neg hnot, List.filter_cons_of_neg (by simpa using hcall), List.nil_append]

/-- **Sessions that take turns tell the game what the responsible one would tell alone.**  In a
run that can come about and in which a session is ready, let every session hear the same lines, of
what users do who have no nick of ours.  In every order of the calls, none of them ends a
connection or changes the roster, and the game is told the events of the lines in their order, one
for a line at most, as it is if the responsible session hears the lines by itself. -/
theorem hearAll_interleaved (hr : r.Reachable)
    (hready : ∃ k, r.hub.roster.state? k = some .ready)
    (hlines : ∀ line ∈ lines, r.hub.roster.Foreign line)
    (hcalls : Interleaves r.sessions.length lines calls) :
    (∀ before call after, calls = before ++ call :: after →
      let r' := r.hearAll before
      (r'.act call.session call.now (.hear call.line)).2.exit = none ∧
        (r'.hearOne call).hub.roster = r.hub.roster) ∧
      (r.hearAll calls).hub.roster = r.hub.roster ∧
      (r.hearAll calls).hub.delivered =
        r.hub.delivered ++ lines.filterMap r.hub.config.eventOf? ∧
      ∃ k, r.hub.roster.isResponsible k = true ∧
        ∀ alone : List Call, (∀ call ∈ alone, call.session = k) → alone.map Call.line = lines →
          (r.hearAll calls).hub.delivered = (r.hearAll alone).hub.delivered := by
  have hseated := hr.seated
  have hforeign : ∀ call ∈ calls, r.hub.roster.Foreign call.line := fun call hcall =>
    hlines call.line (hcalls.mem_lines hcall)
  obtain ⟨j, hj⟩ := hready
  obtain ⟨k, hk⟩ := hseated.settled.taken hj
  -- one session holds responsibility throughout, as no call changes the roster
  have hunique : ∀ j, r.hub.roster.isResponsible j = true → j = k := fun j hj =>
    hseated.settled.unique hj hk
  have hall := tells_hearAll hseated calls hforeign
  rw [flatMap_toldIn hk hunique, hcalls.lines_eq k (hseated.lt_of_isResponsible hk)] at hall
  refine ⟨?_, hall.roster, hall.delivered, k, hk, ?_⟩
  · rintro before call after rfl
    have hbefore := tells_hearAll hseated before fun other hother =>
      hforeign other (List.mem_append_left _ hother)
    have hcall := tells_hearOne hbefore.seated call (by
      rw [hbefore.roster]
      exact hforeign call (by simp))
    exact ⟨hcall.1, hcall.2.roster.trans hbefore.roster⟩
  · -- the holder by itself hears the same lines in the same order
    intro alone hsession halone
    have hown : alone.filter (·.session = k) = alone := by
      rw [List.filter_eq_self]
      intro call hcall
      simpa using hsession call hcall
    have hsolo := tells_hearAll hseated alone fun call hcall =>
      hlines call.line (halone ▸ List.mem_map_of_mem hcall)
    rw [flatMap_toldIn hk hunique, hown, halone] at hsolo
    rw [hall.delivered, hsolo.delivered]

/-- Two sessions hear someone enter and change nicks, the second one ahead of the first. -/
theorem hearAll_interleaved_two :
    let config : Config := { Config.default with sessionCount := 2 }
    let r : Run := (((begin (.fresh config) 0).act 0 0 (.report .ready)).1.act 1 0
      (.report .ready)).1
    let lines : List Text := [":bob!b@host JOIN #changeme", ":bob!b@host NICK :rob"]
    let calls : List Call := [⟨1, 1, ":bob!b@host JOIN #changeme"⟩, ⟨1, 2, ":bob!b@host NICK :rob"⟩,
      ⟨0, 3, ":bob!b@host JOIN #changeme"⟩, ⟨0, 4, ":bob!b@host NICK :rob"⟩]
    r.Reachable ∧ (∃ k, r.hub.roster.state? k = some .ready) ∧
      (∀ line ∈ lines, r.hub.roster.Foreign line) ∧ Interleaves r.sessions.length lines calls ∧
      (r.hearAll calls).hub.delivered = [.joined "#changeme" "bob", .nickChanged "bob" "rob"] := by
  intro config r lines calls
  have hr : r.Reachable :=
    .act 1 0 (.act 0 0 (.begin (.fresh config) 0) (by decide)) (by decide)
  have hready : r.hub.roster.state? 0 = some .ready := by decide
  have hlines : ∀ line ∈ lines, r.hub.roster.Foreign line := by decide
  have hcalls : Interleaves r.sessions.length lines calls := ⟨by decide, by decide⟩
  refine ⟨hr, ⟨0, hready⟩, hlines, hcalls, ?_⟩
  exact (hearAll_interleaved hr ⟨0, hready⟩ hlines hcalls).2.2.1.trans (by decide)

end Run
end ChatLink
