/-
# Parts of a text

What a text is cut into at a separator.  Cutting at every separator is the core library's
splitting of lists, so its lemmas serve here.
-/
import Mathlib
import ChatLink.Text.Basic

namespace ChatLink.Text

variable {sep c : Char} {s t part : Text}

/-! ### Cutting at every separator -/

lemma splitOn_eq_splitOn (sep : Char) (t : Text) : splitOn sep t = List.splitOn sep t := by
  induction t with
  | nil => rfl
  | cons c t ih =>
    -- the library puts the character in front of the first part by `modifyHead`
    rw [splitOn, ih, List.splitOn_cons_eq_if_modifyHead]
    by_cases h : c = sep
    · simp [h]
    · rw [if_neg h, if_neg (by simpa using h)]
      rcases hp : List.splitOn sep t with _ | ⟨w, ws⟩
      · exact absurd hp (List.splitOn_ne_nil sep t)
      · rfl

lemma splitOn_of_not_mem (h : sep ∉ t) : splitOn sep t = [t] := by
  rw [splitOn_eq_splitOn, List.splitOn_eq_singleton h]

/-- The first part ends at the first separator. -/
lemma splitOn_append_cons (h : sep ∉ s) : splitOn sep (s ++ sep :: t) = s :: splitOn sep t := by
  rw [splitOn_eq_splitOn, splitOn_eq_splitOn, List.splitOn_append_cons_self_of_not_mem h]

/-- No part holds the separator. -/
lemma not_mem_of_mem_splitOn (h : part ∈ splitOn sep t) : sep ∉ part := by
  induction t generalizing part with
  | nil =>
    rw [splitOn, List.mem_singleton] at h
    simp [h]
  | cons c t ih =>
    rw [splitOn] at h
    split at h
    · rcases List.mem_cons.1 h with rfl | h
      · simp
      · exact ih h
    · next hc =>
      split at h
      · rw [List.mem_singleton] at h
        subst h
        simpa using Ne.symm hc
      · next w ws hp =>
        rw [hp] at ih
        rcases List.mem_cons.1 h with rfl | h
        · have := ih (List.mem_cons_self)
          simp [Ne.symm hc, this]
        · exact ih (List.mem_cons_of_mem w h)

/-- A part holds nothing that the text does not hold. -/
lemma mem_of_mem_splitOn (hpart : part ∈ splitOn sep t) (hc : c ∈ part) : c ∈ t := by
  induction t generalizing part with
  | nil =>
    rw [splitOn, List.mem_singleton] at hpart
    rwa [hpart] at hc
  | cons d t ih =>
    rw [splitOn] at hpart
    split at hpart
    · rcases List.mem_cons.1 hpart with rfl | hpart
      · cases hc
      · exact List.mem_cons_of_mem d (ih hpart hc)
    · split at hpart
      · next hp => exact absurd (splitOn_eq_splitOn sep t ▸ hp) (List.splitOn_ne_nil sep t)
      · next w ws hp =>
        rw [hp] at ih
        rcases List.mem_cons.1 hpart with rfl | hpart
        · rcases List.mem_cons.1 hc with rfl | hc
          · exact List.mem_cons_self
          · exact List.mem_cons_of_mem d (ih List.mem_cons_self hc)
        · exact List.mem_cons_of_mem d (ih (List.mem_cons_of_mem w hpart) hc)

/-- All that is no separator is in some part. -/
lemma exists_mem_splitOn (hc : c ∈ t) (h : c ≠ sep) : ∃ part ∈ splitOn sep t, c ∈ part := by
  induction t with
  | nil => cases hc
  | cons d t ih =>
    rw [splitOn]
    split
    · next hd =>
      rcases List.mem_cons.1 hc with rfl | hc
      · exact absurd hd h
      · obtain ⟨part, hpart, hmem⟩ := ih hc
        exact ⟨part, List.mem_cons_of_mem _ hpart, hmem⟩
    · split
      · next hp => exact absurd (splitOn_eq_splitOn sep t ▸ hp) (List.splitOn_ne_nil sep t)
      · next w ws hp =>
        rw [hp] at ih
        rcases List.mem_cons.1 hc with rfl | hc
        · exact ⟨c :: w, List.mem_cons_self, List.mem_cons_self⟩
        · obtain ⟨part, hpart, hmem⟩ := ih hc
          rcases List.mem_cons.1 hpart with rfl | hpart
          · exact ⟨d :: part, List.mem_cons_self, List.mem_cons_of_mem d hmem⟩
          · exact ⟨part, List.mem_cons_of_mem _ hpart, hmem⟩

/-! ### Cutting at the first separator -/

lemma cut?_append_cons (h : sep ∉ s) : cut? sep (s ++ sep :: t) = some (s, t) := by
  induction s with
  | nil => simp [cut?]
  | cons c s ih =>
    rw [List.mem_cons, not_or] at h
    rw [List.cons_append, cut?, if_neg (Ne.symm h.1), ih h.2]

lemma isSome_cut?_iff : (cut? sep t).isSome = true ↔ sep ∈ t := by
  induction t with
  | nil => simp [cut?]
  | cons c t ih =>
    rw [cut?, List.mem_cons]
    split
    · next h => simp [h]
    · next h =>
      rw [or_iff_right (Ne.symm h), ← ih]
      cases cut? sep t <;> rfl

/-- What was cut is put together again by the separator, which the first part does not hold. -/
lemma eq_append_cons_of_cut? {before after : Text} (h : cut? sep t = some (before, after)) :
    t = before ++ sep :: after ∧ sep ∉ before := by
  have hmem : sep ∈ t := by
    rw [← isSome_cut?_iff, h]
    rfl
  obtain ⟨s, u, rfl, hs⟩ := List.eq_append_cons_of_mem hmem
  rw [cut?_append_cons hs] at h
  cases h
  exact ⟨rfl, hs⟩

end ChatLink.Text
