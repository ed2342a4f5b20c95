/-
# Slots of the roster

What each operation on the roster does to the slot at an index: its nick, its state, and whether
its session is responsible.  Later files look at a roster through these three functions only.
-/
import Mathlib
import ChatLink.Roster

namespace ChatLink.Roster

variable (r : Roster) (i k : Nat)

/-! ### Changing one slot -/

lemma slots_modify (f : Slot → Slot) :
    (r.modify i f).slots[k]? = if i = k then r.slots[k]?.map f else r.slots[k]? := by
  simp only [modify, List.getElem?_modify]
  by_cases h : i = k
  · simp [h]
  · simp [h]

@[simp] lemma length_modify (f : Slot → Slot) :
    (r.modify i f).slots.length = r.slots.length := by
  simp [modify]

/-- A change at an index where there is no slot is none. -/
lemma modify_of_length_le (f : Slot → Slot) (h : r.slots.length ≤ i) : r.modify i f = r := by
  simp only [modify]
  rw [List.modify_eq_self h]

@[simp] lemma length_setResponsible (b : Bool) :
    (r.setResponsible i b).slots.length = r.slots.length :=
  length_modify r i _

@[simp] lemma length_setNick (nick : Text) :
    (r.setNick i nick).slots.length = r.slots.length :=
  length_modify r i _

/-! ### Nicks -/

@[simp] lemma nick?_setResponsible (b : Bool) : (r.setResponsible i b).nick? k = r.nick? k := by
  rw [nick?, setResponsible, slots_modify, nick?]
  split <;> cases r.slots[k]? <;> rfl

@[simp] lemma nick?_modify_state (state : SessionState) :
    (r.modify i fun s => { s with state }).nick? k = r.nick? k := by
  rw [nick?, slots_modify, nick?]
  split <;> cases r.slots[k]? <;> rfl

lemma nick?_setNick (nick : Text) :
    (r.setNick i nick).nick? k = if i = k then (r.nick? k).map fun _ => nick else r.nick? k := by
  rw [nick?, setNick, slots_modify, nick?]
  split <;> cases r.slots[k]? <;> rfl

/-! ### States -/

@[simp] lemma state?_setResponsible (b : Bool) :
    (r.setResponsible i b).state? k = r.state? k := by
  rw [state?, setResponsible, slots_modify, state?]
  split <;> cases r.slots[k]? <;> rfl

@[simp] lemma state?_setNick (nick : Text) : (r.setNick i nick).state? k = r.state? k := by
  rw [state?, setNick, slots_modify, state?]
  split <;> cases r.slots[k]? <;> rfl

lemma state?_modify_state (state : SessionState) :
    (r.modify i fun s => { s with state }).state? k =
      if i = k then (r.state? k).map fun _ => state else r.state? k := by
  rw [state?, slots_modify, state?]
  split <;> cases r.slots[k]? <;> rfl

lemma state?_eq_none_iff : r.state? k = none ↔ r.slots.length ≤ k := by
  simp [state?]

/-! ### Responsibility -/

@[simp] lemma isResponsible_setNick (nick : Text) :
    (r.setNick i nick).isResponsible k = r.isResponsible k := by
  rw [isResponsible, setNick, slots_modify, isResponsible]
  split <;> cases r.slots[k]? <;> rfl

@[simp] lemma isResponsible_modify_state (state : SessionState) :
    (r.modify i fun s => { s with state }).isResponsible k = r.isResponsible k := by
  rw [isResponsible, slots_modify, isResponsible]
  split <;> cases r.slots[k]? <;> rfl

lemma isResponsible_setResponsible (b : Bool) :
    (r.setResponsible i b).isResponsible k =
      if i = k then (r.state? k).isSome && b else r.isResponsible k := by
  rw [isResponsible, setResponsible, slots_modify, isResponsible, state?]
  split <;> cases r.slots[k]? <;> simp

/-- Only a slot that exists is responsible. -/
lemma isSome_state?_of_isResponsible {r : Roster} {k : Nat} (h : r.isResponsible k = true) :
    (r.state? k).isSome = true := by
  rw [isResponsible] at h
  rw [state?]
  cases hs : r.slots[k]? with
  | none => rw [hs] at h; simp at h
  | some s => rfl

/-! ### Searching the slots -/

lemma responsible?_eq_none_iff : r.responsible? = none ↔ ∀ k, r.isResponsible k = false := by
  rw [responsible?, List.findIdx?_eq_none_iff]
  constructor
  · intro h k
    rw [isResponsible]
    cases hs : r.slots[k]? with
    | none => rfl
    | some s => simpa using h s (List.mem_of_getElem? hs)
  · intro h s hs
    obtain ⟨k, hk⟩ := List.mem_iff_getElem?.1 hs
    simpa [isResponsible, hk] using h k

lemma firstReady?_eq_none_iff : r.firstReady? = none ↔ ∀ k, r.state? k ≠ some .ready := by
  rw [firstReady?, List.findIdx?_eq_none_iff]
  constructor
  · intro h k hk
    rw [state?, Option.map_eq_some_iff] at hk
    obtain ⟨s, hs, hready⟩ := hk
    simpa [hready] using h s (List.mem_of_getElem? hs)
  · intro h s hs
    obtain ⟨k, hk⟩ := List.mem_iff_getElem?.1 hs
    simpa [state?, hk] using h k

/-- The first ready session is ready, and no earlier one is. -/
lemma firstReady?_eq_some_iff {r : Roster} {j : Nat} :
    r.firstReady? = some j ↔ r.state? j = some .ready ∧ ∀ k < j, r.state? k ≠ some .ready := by
  rw [firstReady?, List.findIdx?_eq_some_iff_getElem]
  constructor
  · rintro ⟨hj, hready, hbefore⟩
    refine ⟨by simpa [state?, hj] using hready, fun k hk => ?_⟩
    simpa [state?, hk.trans hj] using hbefore k hk
  · rintro ⟨hready, hbefore⟩
    have hj : j < r.slots.length := by
      by_contra hle
      rw [(state?_eq_none_iff r j).2 (by omega)] at hready
      cases hready
    refine ⟨hj, by simpa [state?, hj] using hready, fun k hk => ?_⟩
    simpa [state?, hk.trans hj] using hbefore k hk

end ChatLink.Roster
