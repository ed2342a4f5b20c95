/-
# What is shown of a text that is cut

A text is cut between any two of its characters, but a colour is several characters long.  A cut
inside of one leaves it shorter than it was, and what it would have taken is shown at the start of
the next segment.  So the segments show everything that the lines of the text show, in this order,
and they show no more exactly if no colour is cut.  Main statement: `Split.shown_segments`.
-/
import Mathlib
import ChatLink.Proofs.Format.Toggling
import ChatLink.Proofs.Outbox.Cuts

namespace ChatLink

/-- Where each part of a list lies within another one, the lists are equal only if all parts are. -/
lemma flatMap_eq_flatMap_iff {α β : Type*} {f g : α → List β} {l : List α}
    (h : ∀ a ∈ l, (f a).Sublist (g a)) : l.flatMap f = l.flatMap g ↔ ∀ a ∈ l, f a = g a := by
  refine ⟨fun heq => ?_, List.flatMap_congr⟩
  induction l with
  | nil => simp
  | cons a l ih =>
    rw [List.forall_mem_cons] at h ⊢
    rw [List.flatMap_cons, List.flatMap_cons] at heq
    have hrest := List.Sublist.flatMap_right l h.2
    have hlength : (f a).length = (g a).length := by
      have hsum := congrArg List.length heq
      rw [List.length_append, List.length_append] at hsum
      have hfirst := h.1.length_le
      have hlast := hrest.length_le
      omega
    obtain ⟨hfirst, heq⟩ := List.append_inj heq hlength
    exact ⟨hfirst, ih h.2 heq⟩

/-! ### Parts of a text -/

namespace Format

open NetworkMark

variable {on : Toggles} {s : Text} {parts : List Text}

/-- No colour goes on from one part to the next. -/
def KeepsColors (parts : List Text) : Prop :=
  ∀ before after, parts = before ++ after → ¬ CutsColor before.flatten after.flatten

lemma KeepsColors.tail (h : KeepsColors (s :: parts)) : KeepsColors parts := by
  rintro before after rfl hcuts
  refine h (s :: before) after rfl ?_
  rw [List.flatten_cons]
  exact hcuts.append_left s

lemma strip_flatten_sublist (parts : List Text) :
    (strip parts.flatten).Sublist (parts.flatMap strip) := by
  induction parts with
  | nil =>
    rw [List.flatten_nil, strip_nil]
    exact List.nil_sublist _
  | cons s parts ih =>
    rw [List.flatten_cons, List.flatMap_cons]
    exact (strip_append_sublist s parts.flatten).trans ((List.Sublist.refl (strip s)).append ih)

/-- The parts show no more than the text that they make up exactly if no colour goes on from one to
the next. -/
lemma strip_flatten_iff : strip parts.flatten = parts.flatMap strip ↔ KeepsColors parts := by
  constructor
  · rintro h before after rfl hcuts
    -- what is before the cut and what is behind it show more than both together, and their parts
    -- show no less
    have hlt := inked_strip_append_lt hcuts
    have hbefore : Text.inked (strip before.flatten) ≤ Text.inked (before.flatMap strip) :=
      (strip_flatten_sublist before).countP_le
    have hafter : Text.inked (strip after.flatten) ≤ Text.inked (after.flatMap strip) :=
      (strip_flatten_sublist after).countP_le
    rw [← List.flatten_append, h, List.flatMap_append, Text.inked_append] at hlt
    omega
  · intro h
    induction parts with
    | nil => rw [List.flatten_nil, strip_nil, List.flatMap_nil]
    | cons s parts ih =>
      have hfirst : ¬ CutsColor s parts.flatten := by
        have hcut := h [s] parts rfl
        rwa [List.flatten_singleton] at hcut
      rw [List.flatten_cons, strip_append hfirst, ih h.tail, List.flatMap_cons]

lemma keepsColors_of_not_mem (h : networkColor ∉ parts.flatten) : KeepsColors parts := by
  rintro before after rfl hcuts
  rw [List.flatten_append, List.mem_append, not_or] at h
  exact h.1 hcuts.networkColor_mem

/-- Where colours do not pass, none is written. -/
lemma networkColor_not_mem_toNetwork (text : Text) (hoff : on.colors = false) :
    networkColor ∉ toNetwork on text := by
  obtain ⟨_, emotes⟩ := on
  cases hoff
  intro h
  obtain ⟨mark, hmark, hmem⟩ := List.mem_flatMap.1 (Text.mem_of_mem_trim h)
  exact GameMark.networkColor_not_mem_toNetwork emotes
    (GameMark.ne_networkColor_of_mem_ofText hmark) hmem

end Format

/-! ### The contents of segments -/

namespace Split

open Format

variable {text : Text}

/-- The contents of segments: all but the first start with the marker. -/
def unmark : List Text → List Text
  | [] => []
  | s :: segs => s :: segs.map (List.drop marker.length)

lemma unmark_mark (contents : List Text) : unmark (mark contents) = contents := by
  cases contents with
  | nil => rfl
  | cons c cs =>
    have hdrop : ∀ t : Text, (marker ++ t).drop marker.length = t := fun _ => List.drop_left
    rw [mark, unmark, List.map_map]
    congr 1
    exact (List.map_congr_left fun t _ => hdrop t).trans (List.map_id _)

lemma unmark_segments (budget : Nat) (text : Text) :
    unmark (segments budget text) = contents budget text := by
  rw [segments, unmark_mark]

/-- The pieces of a text without carriage returns are its lines. -/
lemma pieces_eq_lines (h : '\r' ∉ text) :
    pieces text = (List.splitOn '\n' text).filter fun line => !Text.isBlank line := by
  have hself : ∀ line ∈ List.splitOn '\n' text, line.rdropWhile (· == '\r') = line := by
    intro line hline
    rw [List.rdropWhile_eq_self_iff]
    intro hne hlast
    rw [beq_iff_eq] at hlast
    rw [← Text.splitOn_eq_splitOn] at hline
    refine h (Text.mem_of_mem_splitOn hline ?_)
    rw [← hlast]
    exact List.getLast_mem hne
  rw [pieces_eq_filter, List.map_congr_left hself, List.map_id']

/-- **What segments show.**  The segments of converted text show what its lines show, and the same
exactly if the contents of each line are cut so that no colour goes on from one to the next; where
colours do not pass that is so for every text and budget. -/
theorem shown_segments (on : Toggles) (budget : Nat) (text : Text) :
    let sent := toNetwork on text
    let lines := (List.splitOn '\n' sent).filter fun line => !Text.isBlank line
    let contents := unmark (segments budget sent)
    (lines.flatMap strip).Sublist (contents.flatMap strip) ∧
      (contents.flatMap strip = lines.flatMap strip ↔
        ∀ group ∈ grouped budget sent, KeepsColors group) ∧
      (on.colors = false → contents.flatMap strip = lines.flatMap strip) := by
  intro sent lines contents
  have hreturn : '\r' ∉ sent := fun hmem => (innocent_of_mem_toNetwork hmem).2.2 rfl
  have hlines : lines.flatMap strip = (grouped budget sent).flatMap (strip ·.flatten) := by
    rw [← List.flatMap_map List.flatten, map_flatten_grouped, pieces_eq_lines hreturn]
  have hcontents : contents.flatMap strip = (grouped budget sent).flatMap (·.flatMap strip) := by
    rw [← List.flatMap_assoc, List.flatMap_id', flatten_grouped, ← unmark_segments]
  have hwithin : ∀ group ∈ grouped budget sent,
      (strip group.flatten).Sublist (group.flatMap strip) :=
    fun group _ => strip_flatten_sublist group
  have hsame : contents.flatMap strip = lines.flatMap strip ↔
      ∀ group ∈ grouped budget sent, KeepsColors group := by
    rw [hlines, hcontents, eq_comm, flatMap_eq_flatMap_iff hwithin]
    exact forall₂_congr fun group _ => strip_flatten_iff
  refine ⟨?_, hsame, fun hoff => hsame.2 fun group hgroup => ?_⟩
  · rw [hlines, hcontents]
    exact List.Sublist.flatMap_right _ hwithin
  · refine keepsColors_of_not_mem fun hmem => networkColor_not_mem_toNetwork text hoff ?_
    have hpiece : group.flatten ∈ pieces sent := by
      rw [← map_flatten_grouped budget]
      exact List.mem_map_of_mem hgroup
    exact (mem_of_mem_pieces hpiece hmem).1

/-- Where the start of a colour is the last character that a segment has room for, the number of the
colour is shown in the next one. -/
theorem shown_segments_cut :
    let sent := toNetwork ⟨true, true⟩ (List.replicate 63 'a' ++ "&cx")
    let lines := (List.splitOn '\n' sent).filter fun line => !Text.isBlank line
    (unmark (segments 64 sent)).flatMap strip ≠ lines.flatMap strip := by
  decide +kernel

end Split
end ChatLink
