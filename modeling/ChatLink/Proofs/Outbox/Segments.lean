/-
# What segments are made of

Splitting neither adds nor loses characters within a piece: the parts of a piece make up the
piece.  So a segment holds characters of the text and of the marker only, never a line break, and
only a text of blanks has no segments.
-/
import Mathlib
import ChatLink.Outbox.Draft
import ChatLink.Proofs.Text.Parts

namespace ChatLink.Split

variable {budget room later : Nat} {text p s : Text} {c : Char}

/-! ### Cutting -/

/-- The parts of a piece make up the piece. -/
lemma flatten_cut (room later : Nat) (p : Text) : (cut room later p).flatten = p := by
  induction room, p using cut.induct later with
  | case1 room => rw [cut, List.flatten_nil]
  | case2 room c t taken ih =>
    rw [cut, List.flatten_cons, ih, List.cons_append, Text.splitBytes_append]

lemma cut_eq_nil_iff : cut room later p = [] ↔ p = [] := by
  constructor
  · intro h
    rw [← flatten_cut room later p, h, List.flatten_nil]
  · rintro rfl
    rw [cut]

lemma flatten_cutAll (room later : Nat) (ps : List Text) :
    (cutAll room later ps).flatten = ps.flatten := by
  induction ps generalizing room with
  | nil => rfl
  | cons p ps ih =>
    rw [cutAll, List.flatten_append, flatten_cut, ih, List.flatten_cons]

lemma cutAll_eq_nil_iff {ps : List Text} : cutAll room later ps = [] ↔ ∀ p ∈ ps, p = [] := by
  induction ps generalizing room with
  | nil => simp [cutAll]
  | cons p ps ih => rw [cutAll, List.append_eq_nil_iff, cut_eq_nil_iff, ih, List.forall_mem_cons]

/-! ### Pieces -/

lemma mem_pieces_iff : p ∈ pieces text ↔
    (∃ line ∈ Text.splitOn '\n' text, Text.dropEndWhile (· == '\r') line = p) ∧
      p.isBlank = false := by
  rw [pieces, List.mem_filter, List.mem_map, Bool.not_eq_true']

/-- A piece is made of the characters of one line. -/
lemma mem_of_mem_pieces (hp : p ∈ pieces text) (hc : c ∈ p) : c ∈ text ∧ c ≠ '\n' := by
  obtain ⟨⟨line, hline, rfl⟩, -⟩ := mem_pieces_iff.1 hp
  have hmem : c ∈ line := (List.rdropWhile_prefix (· == '\r') line).subset hc
  refine ⟨Text.mem_of_mem_splitOn hline hmem, ?_⟩
  rintro rfl
  exact Text.not_mem_of_mem_splitOn hline hmem

/-- A character that is not blank is in some piece. -/
lemma exists_mem_pieces (hc : c ∈ text) (hblank : isBlank c = false) :
    ∃ p ∈ pieces text, c ∈ p := by
  -- line breaks and carriage returns are blank, so neither the cutting nor the trimming takes `c`
  have hnewline : c ≠ '\n' := by
    rintro rfl
    cases hblank
  have hreturn : (c == '\r') = false := by
    rw [beq_eq_false_iff_ne]
    rintro rfl
    cases hblank
  obtain ⟨line, hline, hmem⟩ := Text.exists_mem_splitOn hc hnewline
  have hkept : c ∈ Text.dropEndWhile (· == '\r') line := by
    rw [← @List.rdropWhile_append_rtakeWhile _ (· == '\r') line, List.mem_append] at hmem
    rcases hmem with hmem | hmem
    · exact hmem
    · rw [List.mem_rtakeWhile_imp hmem] at hreturn
      cases hreturn
  refine ⟨_, mem_pieces_iff.2 ⟨⟨line, hline, rfl⟩, ?_⟩, hkept⟩
  rw [Text.isBlank, List.all_eq_false]
  exact ⟨c, hkept, by rw [hblank]; decide⟩

lemma pieces_eq_nil_iff : pieces text = [] ↔ text.isBlank = true := by
  constructor
  · intro h
    rw [Text.isBlank, List.all_eq_true]
    intro c hc
    by_contra hblank
    obtain ⟨p, hp, -⟩ := exists_mem_pieces hc (by simpa using hblank)
    rw [h] at hp
    cases hp
  · intro h
    rw [List.eq_nil_iff_forall_not_mem]
    intro p hp
    have hblank := (mem_pieces_iff.1 hp).2
    rw [Text.isBlank, List.all_eq_false] at hblank
    obtain ⟨c, hc, hnot⟩ := hblank
    rw [Text.isBlank, List.all_eq_true] at h
    exact hnot (h c (mem_of_mem_pieces hp hc).1)

/-! ### Segments -/

/-- Only a text of blanks has no segments. -/
lemma segments_eq_nil_iff : segments budget text = [] ↔ text.isBlank = true := by
  have hmark : ∀ contents : List Text, mark contents = [] ↔ contents = [] := by
    rintro (_ | ⟨c, cs⟩)
    · rfl
    · simp [mark]
  rw [segments, hmark, contents, cutAll_eq_nil_iff, ← pieces_eq_nil_iff,
    List.eq_nil_iff_forall_not_mem]
  constructor
  · intro h p hp
    have hblank := (mem_pieces_iff.1 hp).2
    rw [h p hp] at hblank
    cases hblank
  · intro h p hp
    exact absurd hp (h p)

/-- A character of a segment is one of the marker or one of a line of the text. -/
lemma mem_of_mem_segments (hs : s ∈ segments budget text) (hc : c ∈ s) :
    c ∈ marker ∨ (c ∈ text ∧ c ≠ '\n') := by
  have hcontent : ∀ content ∈ contents budget text, c ∈ content → c ∈ text ∧ c ≠ '\n' := by
    -- contents and pieces hold the same characters, however the pieces are cut
    intro content hcontent hmem
    have hflat : c ∈ (contents budget text).flatten := List.mem_flatten_of_mem hcontent hmem
    rw [contents, flatten_cutAll, List.mem_flatten] at hflat
    obtain ⟨p, hp, hmem⟩ := hflat
    exact mem_of_mem_pieces hp hmem
  rw [segments] at hs
  cases hcs : contents budget text with
  | nil =>
    rw [hcs] at hs
    cases hs
  | cons first rest =>
    rw [hcs] at hs hcontent
    rcases List.mem_cons.1 hs with rfl | hs
    · exact .inr (hcontent s List.mem_cons_self hc)
    · obtain ⟨content, hmem, rfl⟩ := List.mem_map.1 hs
      rcases List.mem_append.1 hc with hc | hc
      · exact .inl hc
      · exact .inr (hcontent content (List.mem_cons_of_mem _ hmem) hc)

end ChatLink.Split

namespace ChatLink.Draft

/-- A draft without frames has a text of blanks. -/
lemma frames_eq_nil_iff {d : Draft} {l : Limits} : d.frames l = [] ↔ d.text.isBlank = true := by
  rw [frames, List.map_eq_nil_iff, Split.segments_eq_nil_iff]

end ChatLink.Draft
