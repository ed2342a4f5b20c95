/-
# The election

Who is responsible after any sequence of reports.  The invariant is `Settled`: a responsible
session is ready, there is one at most, and there is one as soon as any session is ready.  A
report keeps it (`Settled.setState`), and what a report does to responsibility is one of four
things: a ready session takes it, a ready session leaves it with its holder, a session without it
leaves it there as well, or its holder hands it to the first ready session.

The main result is `setState_afterReports`, which says all this of the roster of a run that has
seen any reports.
-/
import Mathlib
import ChatLink.Proofs.Roster.Slots

namespace ChatLink.Roster

variable {r : Roster} {i j k : Nat} {state : SessionState}

/-! ### Nicks and states after a report -/

@[simp] lemma nick?_setState (r : Roster) (i k : Nat) (state : SessionState) :
    (r.setState i state).nick? k = r.nick? k := by
  simp only [setState]
  split
  · split <;> simp
  · split
    · split <;> simp
    · simp

lemma state?_setState (r : Roster) (i k : Nat) (state : SessionState) :
    (r.setState i state).state? k =
      if i = k then (r.state? k).map fun _ => state else r.state? k := by
  rw [← state?_modify_state]
  simp only [setState]
  split
  · split <;> simp
  · split
    · split <;> simp
    · rfl

@[simp] lemma length_setState (r : Roster) (i : Nat) (state : SessionState) :
    (r.setState i state).slots.length = r.slots.length := by
  simp only [setState]
  split
  · split <;> simp
  · split
    · split <;> simp
    · simp

/-- A report of a session that is not in the roster changes nothing. -/
lemma setState_of_length_le (h : r.slots.length ≤ i) : r.setState i state = r := by
  have hnot : r.isResponsible i = false := by
    simp [isResponsible, h]
  simp only [setState, setResponsible, hnot]
  rw [modify_of_length_le r i _ h, modify_of_length_le r i _ h]
  simp

/-- The first ready session depends on the states only. -/
lemma firstReady?_congr {s : Roster} (h : ∀ k, r.state? k = s.state? k) :
    r.firstReady? = s.firstReady? := by
  ext j
  simp only [firstReady?_eq_some_iff, h]

/-! ### Who is responsible after a report -/

/-- The first session to become ready takes responsibility. -/
lemma isResponsible_setState_first (h : ∀ k, r.isResponsible k = false) :
    (r.setState i .ready).isResponsible k = (decide (i = k) && (r.state? k).isSome) := by
  simp only [setState, if_true, (responsible?_eq_none_iff r).2 h, Option.isNone_none]
  rw [isResponsible_setResponsible, state?_modify_state, isResponsible_modify_state, h k]
  by_cases hik : i = k
  · simp [hik]
  · simp [hik]

/-- A session that becomes ready while another is responsible takes nothing from it. -/
lemma isResponsible_setState_ready (h : r.isResponsible j = true) :
    (r.setState i .ready).isResponsible k = r.isResponsible k := by
  have hsome : r.responsible?.isNone = false := by
    rw [Option.isNone_eq_false_iff, Option.isSome_iff_ne_none, ne_eq, responsible?_eq_none_iff]
    intro hnone
    rw [hnone j] at h
    cases h
  simp [setState, hsome]

/-- A session without responsibility that leaves its state changes nothing about it. -/
lemma isResponsible_setState_other (hstate : state ≠ .ready) (h : r.isResponsible i = false) :
    (r.setState i state).isResponsible k = r.isResponsible k := by
  simp [setState, hstate, h]

/-- A holder that is no longer ready hands responsibility to the first session that is. -/
lemma isResponsible_setState_holder (hstate : state ≠ .ready) (h : r.isResponsible i = true) :
    (r.setState i state).isResponsible k =
      (decide ((r.setState i state).firstReady? = some k) ||
        (decide (i ≠ k) && r.isResponsible k)) := by
  set dropped := (r.modify i fun s => { s with state }).setResponsible i false with hdropped
  have hfirst : (r.setState i state).firstReady? = dropped.firstReady? := by
    refine firstReady?_congr fun m => ?_
    rw [hdropped, state?_setState, state?_setResponsible, state?_modify_state]
  have hold : dropped.isResponsible k = (decide (i ≠ k) && r.isResponsible k) := by
    rw [hdropped, isResponsible_setResponsible, isResponsible_modify_state]
    by_cases hik : i = k
    · simp [hik]
    · simp [hik]
  rw [hfirst, ← hold]
  simp only [setState, hstate, if_false, h, if_true, ← hdropped]
  cases hnext : dropped.firstReady? with
  | none => simp
  | some next =>
    simp only [isResponsible_setResponsible, Option.some.injEq]
    by_cases hk : next = k
    · subst hk
      simp [(firstReady?_eq_some_iff.1 hnext).1]
    · simp [hk]

/-! ### The invariant -/

/-- Responsibility is where it belongs. -/
structure Settled (r : Roster) : Prop where
  /-- A responsible session is ready. -/
  ready : ∀ {k}, r.isResponsible k = true → r.state? k = some .ready
  /-- At most one session is responsible. -/
  unique : ∀ {j k}, r.isResponsible j = true → r.isResponsible k = true → j = k
  /-- If any session is ready, one is responsible. -/
  taken : ∀ {k}, r.state? k = some .ready → ∃ j, r.isResponsible j = true

/-- Where nobody is connected, nobody is responsible. -/
lemma settled_ofNicks (nicks : List Text) : (ofNicks nicks).Settled := by
  have hslot : ∀ (k : Nat) (s : Slot), (ofNicks nicks).slots[k]? = some s →
      s.state = .disconnected ∧ s.responsible = false := by
    intro k s hs
    simp only [ofNicks, List.getElem?_map, Option.map_eq_some_iff] at hs
    obtain ⟨nick, -, rfl⟩ := hs
    exact ⟨rfl, rfl⟩
  have hnone : ∀ k, (ofNicks nicks).isResponsible k = false := by
    intro k
    rw [isResponsible]
    cases hs : (ofNicks nicks).slots[k]? with
    | none => rfl
    | some s => simpa using (hslot k s hs).2
  refine ⟨fun {k} h => ?_, fun {j k} h => ?_, fun {k} h => ?_⟩
  · rw [hnone k] at h
    cases h
  · rw [hnone j] at h
    cases h
  · rw [state?, Option.map_eq_some_iff] at h
    obtain ⟨s, hs, hready⟩ := h
    rw [(hslot k s hs).1] at hready
    cases hready

namespace Settled

/-- In a settled roster the session that takes over is all there is to responsibility. -/
lemma handover (h : r.Settled) (hstate : state ≠ .ready) (hi : r.isResponsible i = true) :
    (r.setState i state).isResponsible k = true ↔
      (r.setState i state).firstReady? = some k := by
  rw [isResponsible_setState_holder hstate hi]
  simp only [Bool.or_eq_true, Bool.and_eq_true, decide_eq_true_eq]
  constructor
  · rintro (hk | ⟨hne, hk⟩)
    · exact hk
    · exact absurd (h.unique hi hk) hne
  · exact Or.inl

/-- A report that a session is ready keeps the invariant. -/
lemma setState_ready (h : r.Settled) (i : Nat) : (r.setState i .ready).Settled := by
  by_cases hheld : ∃ j, r.isResponsible j = true
  · obtain ⟨j, hj⟩ := hheld
    have hkeep : ∀ k, (r.setState i .ready).isResponsible k = r.isResponsible k :=
      fun k => isResponsible_setState_ready hj
    refine ⟨fun {k} hk => ?_, fun {k m} hk hm => ?_, fun _ => ⟨j, by rw [hkeep]; exact hj⟩⟩
    · rw [hkeep] at hk
      rw [state?_setState, h.ready hk]
      simp
    · rw [hkeep] at hk hm
      exact h.unique hk hm
  · have hfree : ∀ k, r.isResponsible k = false := by
      intro k
      rw [Bool.eq_false_iff]
      exact fun hk => hheld ⟨k, hk⟩
    have hmine : ∀ k, (r.setState i .ready).isResponsible k =
        (decide (i = k) && (r.state? k).isSome) := fun k => isResponsible_setState_first hfree
    refine ⟨fun {k} hk => ?_, fun {k m} hk hm => ?_, fun {k} hk => ?_⟩
    · rw [hmine, Bool.and_eq_true, decide_eq_true_eq] at hk
      obtain ⟨rfl, hsome⟩ := hk
      obtain ⟨old, hold⟩ := Option.isSome_iff_exists.1 hsome
      rw [state?_setState, hold]
      simp
    · rw [hmine, Bool.and_eq_true, decide_eq_true_eq] at hk hm
      exact hk.1.symm.trans hm.1
    · rw [state?_setState] at hk
      by_cases hik : i = k
      · subst hik
        refine ⟨i, ?_⟩
        rw [hmine]
        cases hs : r.state? i with
        | none => rw [hs] at hk; simp at hk
        | some old => simp
      · rw [if_neg hik] at hk
        exact absurd (h.taken hk) hheld

/-- A report of any other state keeps the invariant. -/
lemma setState_other (h : r.Settled) (i : Nat) (hstate : state ≠ .ready) :
    (r.setState i state).Settled := by
  have hnot : (r.setState i state).state? i ≠ some .ready := by
    rw [state?_setState]
    cases r.state? i <;> simp [hstate]
  by_cases hi : r.isResponsible i = true
  · refine ⟨fun {k} hk => ?_, fun {j k} hj hk => ?_, fun {k} hk => ?_⟩
    · exact (firstReady?_eq_some_iff.1 ((h.handover hstate hi).1 hk)).1
    · rw [h.handover hstate hi] at hj hk
      exact Option.some.inj (hj.symm.trans hk)
    · cases hnext : (r.setState i state).firstReady? with
      | none => exact absurd hk ((firstReady?_eq_none_iff _).1 hnext k)
      | some next => exact ⟨next, (h.handover hstate hi).2 hnext⟩
  · have hkeep : ∀ k, (r.setState i state).isResponsible k = r.isResponsible k :=
      fun k => isResponsible_setState_other hstate (by simpa using hi)
    have hold : ∀ k, i ≠ k → (r.setState i state).state? k = r.state? k :=
      fun k hik => by rw [state?_setState, if_neg hik]
    refine ⟨fun {k} hk => ?_, fun {j k} hj hk => ?_, fun {k} hk => ?_⟩
    · rw [hkeep] at hk
      rw [hold k (fun hik => hi (hik ▸ hk))]
      exact h.ready hk
    · rw [hkeep] at hj hk
      exact h.unique hj hk
    · rw [hold k (fun hik => hnot (hik ▸ hk))] at hk
      obtain ⟨j, hj⟩ := h.taken hk
      exact ⟨j, by rw [hkeep]; exact hj⟩

/-- **A report keeps the invariant.** -/
lemma setState (h : r.Settled) (i : Nat) (state : SessionState) :
    (r.setState i state).Settled := by
  by_cases hstate : state = .ready
  · subst hstate
    exact h.setState_ready i
  · exact h.setState_other i hstate

lemma setNick (h : r.Settled) (i : Nat) (nick : Text) : (r.setNick i nick).Settled := by
  refine ⟨fun {k} hk => ?_, fun {j k} hj hk => ?_, fun {k} hk => ?_⟩
  · rw [isResponsible_setNick] at hk
    rw [state?_setNick]
    exact h.ready hk
  · rw [isResponsible_setNick] at hj hk
    exact h.unique hj hk
  · rw [state?_setNick] at hk
    obtain ⟨j, hj⟩ := h.taken hk
    exact ⟨j, by rw [isResponsible_setNick]; exact hj⟩

end Settled

/-! ### Counting the responsible sessions -/

/-- A list has one element with a property if it holds at one index and at no other. -/
lemma countP_eq_one {α : Type} {p : α → Bool} {l : List α} {i : Nat}
    (hi : l[i]?.any p = true) (hother : ∀ j, l[j]?.any p = true → j = i) : l.countP p = 1 := by
  induction l generalizing i with
  | nil => simp at hi
  | cons a l ih =>
    cases i with
    | zero =>
      have ha : p a = true := by simpa using hi
      have hrest : l.countP p = 0 := by
        rw [List.countP_eq_zero]
        intro b hb hpb
        obtain ⟨j, hj⟩ := List.mem_iff_getElem?.1 hb
        have := hother (j + 1) (by simpa [hj] using hpb)
        omega
      rw [List.countP_cons_of_pos ha, hrest]
    | succ i =>
      have ha : ¬ p a = true := by
        intro ha
        have := hother 0 (by simpa using ha)
        omega
      rw [List.countP_cons_of_neg ha]
      refine ih (by simpa using hi) fun j hj => ?_
      have := hother (j + 1) (by simpa using hj)
      omega

lemma isResponsible_of_mem {s : Slot} (hs : s ∈ r.slots) (h : s.responsible = true) :
    ∃ k, r.isResponsible k = true := by
  obtain ⟨k, hk⟩ := List.mem_iff_getElem?.1 hs
  exact ⟨k, by simp [isResponsible, hk, h]⟩

/-- In a settled roster one session is responsible if any is ready, and none otherwise. -/
lemma Settled.countP_responsible (h : r.Settled) :
    r.slots.countP Slot.responsible =
      if r.slots.any (fun s => s.state == .ready) then 1 else 0 := by
  by_cases hany : r.slots.any (fun s => s.state == .ready) = true
  · rw [if_pos hany]
    obtain ⟨s, hs, hready⟩ := List.any_eq_true.1 hany
    obtain ⟨k, hk⟩ := List.mem_iff_getElem?.1 hs
    obtain ⟨j, hj⟩ := h.taken (k := k) (by simpa [state?, hk] using hready)
    exact countP_eq_one hj fun m hm => h.unique hm hj
  · rw [if_neg hany, List.countP_eq_zero]
    intro s hs hresp
    obtain ⟨k, hk⟩ := isResponsible_of_mem hs hresp
    have hready := h.ready hk
    rw [state?, Option.map_eq_some_iff] at hready
    obtain ⟨t, ht, htready⟩ := hready
    exact hany (List.any_eq_true.2 ⟨t, List.mem_of_getElem? ht, by simp [htready]⟩)

/-! ### Any sequence of reports -/

/-- The roster after reports, the oldest first. -/
def afterReports (r : Roster) (reports : List (Nat × SessionState)) : Roster :=
  reports.foldl (fun r report => r.setState report.1 report.2) r

lemma Settled.afterReports (h : r.Settled) (reports : List (Nat × SessionState)) :
    (r.afterReports reports).Settled := by
  induction reports generalizing r with
  | nil => exact h
  | cons report reports ih => exact ih (h.setState report.1 report.2)

/-- A report that leaves the holder ready leaves responsibility where it is. -/
lemma Settled.isResponsible_setState_of_ready (h : r.Settled) (hj : r.isResponsible j = true)
    (hready : (r.setState i state).state? j = some .ready) :
    (r.setState i state).isResponsible k = r.isResponsible k := by
  by_cases hstate : state = .ready
  · subst hstate
    exact isResponsible_setState_ready hj
  · refine isResponsible_setState_other hstate ?_
    rw [Bool.eq_false_iff]
    intro hi
    obtain rfl := h.unique hi hj
    rw [state?_setState, if_pos rfl, h.ready hj] at hready
    exact hstate (by simpa using hready)

/-- A report that takes the holder out of readiness is its own. -/
lemma Settled.holder_of_not_ready (h : r.Settled) (hj : r.isResponsible j = true)
    (hready : (r.setState i state).state? j ≠ some .ready) : i = j ∧ state ≠ .ready := by
  rw [state?_setState, h.ready hj] at hready
  by_cases hij : i = j
  · exact ⟨hij, by simpa [hij] using hready⟩
  · simp [hij] at hready

/-- **Responsibility is settled by every report.**  Whatever was reported before, after one more
report there is one responsible session if any session is ready and none otherwise, and it is
ready; a holder that stays ready stays the holder; one that does not is followed by the first
ready session; and nothing changes but the state of the session that reported. -/
theorem setState_afterReports (nicks : List Text) (reports : List (Nat × SessionState)) (i : Nat)
    (state : SessionState) :
    let r := (ofNicks nicks).afterReports reports
    let r' := r.setState i state
    (r'.slots.countP Slot.responsible =
        if r'.slots.any (fun s => s.state == .ready) then 1 else 0) ∧
      (∀ s ∈ r'.slots, s.responsible = true → s.state = .ready) ∧
      (∀ j, r.isResponsible j = true → r'.state? j = some .ready →
        ∀ k, r'.isResponsible k = r.isResponsible k) ∧
      (∀ j, r.isResponsible j = true → r'.state? j ≠ some .ready →
        ∀ k, r'.isResponsible k = true ↔
          r'.state? k = some .ready ∧ ∀ m < k, r'.state? m ≠ some .ready) ∧
      (∀ k, r'.state? k = if i = k then (r.state? k).map fun _ => state else r.state? k) ∧
      (∀ k, r'.nick? k = r.nick? k) ∧
      (r.slots.length ≤ i → r' = r) := by
  intro r r'
  have hr : r.Settled := (settled_ofNicks nicks).afterReports reports
  have hr' : r'.Settled := hr.setState i state
  refine ⟨hr'.countP_responsible, ?_, ?_, ?_, fun k => state?_setState r i k state,
    fun k => nick?_setState r i k state, setState_of_length_le⟩
  · intro s hs hresp
    obtain ⟨k, hk⟩ := List.mem_iff_getElem?.1 hs
    have hready := hr'.ready (k := k) (by simp [isResponsible, hk, hresp])
    simpa [state?, hk] using hready
  · exact fun j hj hready k => hr.isResponsible_setState_of_ready hj hready
  · intro j hj hready k
    obtain ⟨rfl, hstate⟩ := hr.holder_of_not_ready hj hready
    rw [← firstReady?_eq_some_iff]
    exact hr.handover hstate hj

end ChatLink.Roster
