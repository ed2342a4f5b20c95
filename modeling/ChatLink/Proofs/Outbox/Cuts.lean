/-
# Where texts are cut

A piece of a text is cut between characters, each time as late as the room of a segment allows.
This leaves no choice: a text has only one list of segments whose contents are not empty, make up
its pieces one after the other, keep within the budget, and end before the end of a piece only
where one character more would be too much.  Main statement: `Split.eq_segments_iff`.
-/
import Mathlib
import ChatLink.Proofs.Outbox.Frames

namespace ChatLink

/-! ### The longest beginning that fits -/

namespace Text

variable {n : Nat} {s t : Text}

/-- The first character that is left out does not fit any more. -/
lemma lt_of_mem_head?_splitBytes (n : Nat) (t : Text) : ∀ c ∈ (splitBytes n t).2.head?,
    n < (splitBytes n t).1.byteLength + c.utf8Size := by
  induction t generalizing n with
  | nil => simp [splitBytes]
  | cons d t ih =>
    intro c hc
    by_cases h : d.utf8Size ≤ n
    · simp only [splitBytes, h, if_true] at hc ⊢
      have hlt := ih (n - d.utf8Size) c hc
      rw [byteLength_cons]
      omega
    · simp only [splitBytes, h, if_false, List.head?_cons, Option.mem_some_iff] at hc ⊢
      subst hc
      rw [byteLength_nil]
      omega

/-- What fits, with nothing behind it that fits as well, is the longest such beginning. -/
lemma splitBytes_of_le (hfits : s.byteLength ≤ n)
    (hnext : ∀ c ∈ t.head?, n < s.byteLength + c.utf8Size) : splitBytes n (s ++ t) = (s, t) := by
  induction s generalizing n with
  | nil =>
    cases t with
    | nil => rfl
    | cons c t =>
      have hlt := hnext c rfl
      rw [byteLength_nil, Nat.zero_add] at hlt
      rw [List.nil_append, splitBytes, if_neg (Nat.not_le.2 hlt)]
  | cons d s ih =>
    rw [byteLength_cons] at hfits hnext
    have hrest : splitBytes (n - d.utf8Size) (s ++ t) = (s, t) := by
      refine ih (by omega) fun c hc => ?_
      have hlt := hnext c hc
      omega
    rw [List.cons_append, splitBytes, if_pos (by omega), hrest]

end Text

namespace Split

variable {budget room later : Nat} {text p : Text} {ps group : List Text}
  {groups : List (List Text)}

/-! ### The contents of one piece -/

/-- Contents of one piece, cut late: none is empty, the first keeps within `room` and the others
within `later`, and none could hold the first character of the next one as well. -/
structure CutLate (room later : Nat) (group : List Text) : Prop where
  ne_nil : ∀ content ∈ group, content ≠ []
  fits : Fits room later group
  late : ∀ (earlier : List Text) (content : Text) (c : Char) (next : Text) (rest : List Text),
    group = earlier ++ content :: (c :: next) :: rest →
      (if earlier = [] then room else later) < content.byteLength + c.utf8Size

lemma fits_self (h : ∀ p ∈ ps, p.byteLength ≤ later) : Fits later later ps := by
  cases ps with
  | nil => trivial
  | cons p ps => exact List.forall_mem_cons.1 h

lemma ne_nil_of_mem_cut {content : Text} (h : content ∈ cut room later p) : content ≠ [] := by
  induction room, p using cut.induct later with
  | case1 room =>
    rw [cut] at h
    cases h
  | case2 room c t taken ih =>
    rw [cut] at h
    rcases List.mem_cons.1 h with rfl | h
    · exact List.cons_ne_nil _ _
    · exact ih h

/-- A content of a piece ends where the next character is too much. -/
lemma lt_of_cut_eq {earlier rest : List Text} {content next : Text} {c : Char}
    (h : cut room later p = earlier ++ content :: (c :: next) :: rest) :
    (if earlier = [] then room else later) < content.byteLength + c.utf8Size := by
  -- along the contents in front, of which the first has a room of its own
  induction earlier generalizing room p with
  | nil =>
    cases p with
    | nil =>
      rw [cut] at h
      cases h
    | cons d t =>
      rw [cut, List.nil_append] at h
      obtain ⟨rfl, htail⟩ := List.cons.inj h
      have hnext : c ∈ (Text.splitBytes (room - d.utf8Size) t).2.head? := by
        have hflat := congrArg List.flatten htail
        rw [flatten_cut] at hflat
        rw [hflat]
        rfl
      have hlt := Text.lt_of_mem_head?_splitBytes _ _ c hnext
      rw [if_pos rfl, Text.byteLength_cons]
      omega
  | cons first earlier ih =>
    cases p with
    | nil =>
      rw [cut] at h
      cases h
    | cons d t =>
      rw [cut, List.cons_append] at h
      have hlt := ih (List.cons.inj h).2
      rw [ite_self] at hlt
      rwa [if_neg (List.cons_ne_nil _ _)]

lemma cutLate_cut (hlater : 4 ≤ later) (hroom : later ≤ room) (p : Text) :
    CutLate room later (cut room later p) where
  ne_nil _ h := ne_nil_of_mem_cut h
  fits := fits_cut hlater hroom p
  late _ _ _ _ _ h := lt_of_cut_eq h

lemma CutLate.tail {content : Text} (h : CutLate room later (content :: group)) :
    CutLate later later group where
  ne_nil d hd := h.ne_nil d (List.mem_cons_of_mem _ hd)
  fits := fits_self h.fits.2
  late earlier d c next rest heq := by
    have hlt := h.late (content :: earlier) d c next rest (by rw [heq, List.cons_append])
    rw [if_neg (List.cons_ne_nil _ _)] at hlt
    rwa [ite_self]

/-- There is only one way to cut a piece late. -/
lemma CutLate.eq_cut (h : CutLate room later group) : group = cut room later group.flatten := by
  induction group generalizing room with
  | nil => rw [List.flatten_nil, cut]
  | cons content group ih =>
    have hnext : ∀ c ∈ group.flatten.head?, room < content.byteLength + c.utf8Size := by
      intro c hc
      -- the next content is not empty, so its first character is the next one of the piece
      rcases group with _ | ⟨_ | ⟨d, next⟩, rest⟩
      · cases hc
      · exact absurd rfl (h.tail.ne_nil [] List.mem_cons_self)
      · cases hc
        have hlt := h.late [] content c next rest rfl
        rwa [if_pos rfl] at hlt
    have hfits : content.byteLength ≤ room := h.fits.1
    obtain ⟨d, body, rfl⟩ := List.exists_cons_of_ne_nil (h.ne_nil content List.mem_cons_self)
    rw [Text.byteLength_cons] at hfits hnext
    have htaken : Text.splitBytes (room - d.utf8Size) (body ++ group.flatten) =
        (body, group.flatten) := by
      refine Text.splitBytes_of_le (by omega) fun c hc => ?_
      have hlt := hnext c hc
      omega
    rw [List.flatten_cons, List.cons_append, cut, htaken, ← ih h.tail]

/-! ### The contents of all pieces -/

/-- The contents of several pieces, piece by piece; only the first content of all has `room`. -/
def cuts (room later : Nat) : List Text → List (List Text)
  | [] => []
  | p :: ps => cut room later p :: ps.map (cut later later)

/-- The contents of the segments of a text, piece by piece. -/
def grouped (budget : Nat) (text : Text) : List (List Text) :=
  cuts (max budget minBudget) (max budget minBudget - marker.byteLength) (pieces text)

lemma flatten_map_cut (ps : List Text) :
    (ps.map (cut later later)).flatten = cutAll later later ps := by
  induction ps with
  | nil => rfl
  | cons p ps ih => rw [List.map_cons, List.flatten_cons, ih, cutAll]

lemma flatten_cuts (room later : Nat) (ps : List Text) :
    (cuts room later ps).flatten = cutAll room later ps := by
  cases ps with
  | nil => rfl
  | cons p ps => rw [cuts, List.flatten_cons, flatten_map_cut, cutAll]

lemma map_flatten_cuts (room later : Nat) (ps : List Text) :
    (cuts room later ps).map List.flatten = ps := by
  have hmap : ∀ ps : List Text, (ps.map (cut later later)).map List.flatten = ps := by
    intro ps
    rw [List.map_map]
    exact List.map_id'' (flatten_cut later later) ps
  cases ps with
  | nil => rfl
  | cons p ps => rw [cuts, List.map_cons, flatten_cut, hmap]

lemma flatten_grouped (budget : Nat) (text : Text) :
    (grouped budget text).flatten = contents budget text :=
  flatten_cuts _ _ _

lemma map_flatten_grouped (budget : Nat) (text : Text) :
    (grouped budget text).map List.flatten = pieces text :=
  map_flatten_cuts _ _ _

/-- The contents of several pieces, cut late; only the first content of all has `room`. -/
def AllCutLate (room later : Nat) : List (List Text) → Prop
  | [] => True
  | first :: groups => CutLate room later first ∧ ∀ group ∈ groups, CutLate later later group

lemma allCutLate_cuts (hlater : 4 ≤ later) (hroom : later ≤ room) (ps : List Text) :
    AllCutLate room later (cuts room later ps) := by
  cases ps with
  | nil => trivial
  | cons p ps =>
    refine ⟨cutLate_cut hlater hroom p, fun group hgroup => ?_⟩
    obtain ⟨q, -, rfl⟩ := List.mem_map.1 hgroup
    exact cutLate_cut hlater le_rfl q

/-- There is only one way to cut pieces late. -/
lemma AllCutLate.eq_cuts (h : AllCutLate room later groups) :
    groups = cuts room later (groups.map List.flatten) := by
  cases groups with
  | nil => rfl
  | cons first groups =>
    have hrest : (groups.map List.flatten).map (cut later later) = groups := by
      rw [List.map_map]
      exact (List.map_congr_left fun group hgroup => (h.2 group hgroup).eq_cut.symm).trans
        (List.map_id _)
    rw [List.map_cons, cuts, ← h.1.eq_cut, hrest]

/-! ### Segments -/

/-- The contents of segments, listed piece by piece, are those of a text that is cut as late as the
budget allows. -/
structure IsSplit (budget : Nat) (text : Text) (groups : List (List Text)) : Prop where
  /-- The contents of a group make up one piece: what stands between two line feeds, without the
  carriage returns at its end, unless nothing but blanks is left of it. -/
  pieces_eq : groups.map List.flatten =
    ((List.splitOn '\n' text).map (List.rdropWhile (· == '\r'))).filter fun p => !Text.isBlank p
  ne_nil : ∀ content ∈ groups.flatten, content ≠ []
  fits : ∀ segment ∈ mark groups.flatten, segment.byteLength ≤ budget
  /-- A segment that does not end its piece, and that starts with the marker unless it is the first
  of all, could not hold the next character of the piece. -/
  late : ∀ (before : List (List Text)) (earlier : List Text) (content : Text) (c : Char)
      (next : Text) (rest : List Text) (after : List (List Text)),
    groups = before ++ (earlier ++ content :: (c :: next) :: rest) :: after →
      budget < (if before.flatten ++ earlier = [] then 0 else marker.byteLength) +
        content.byteLength + c.utf8Size

lemma byteLength_marker : marker.byteLength = 2 := by decide

lemma pieces_eq_filter (text : Text) : pieces text =
    ((List.splitOn '\n' text).map (List.rdropWhile (· == '\r'))).filter
      fun p => !Text.isBlank p := by
  rw [pieces, Text.splitOn_eq_splitOn]
  rfl

lemma ne_nil_of_mem_pieces (h : p ∈ pieces text) : p ≠ [] := by
  rintro rfl
  cases (mem_pieces_iff.1 h).2

/-- Segments keep within the budget if their contents leave room for the marker. -/
lemma forall_mark_le_iff (hbudget : 2 ≤ budget) :
    (∀ segment ∈ mark ps, segment.byteLength ≤ budget) ↔ Fits budget (budget - 2) ps := by
  constructor
  · intro h
    cases ps with
    | nil => trivial
    | cons p ps =>
      refine ⟨h p List.mem_cons_self, fun q hq => ?_⟩
      have hle := h (marker ++ q) (List.mem_cons_of_mem _ (List.mem_map_of_mem hq))
      rw [Text.byteLength_append, byteLength_marker] at hle
      omega
  · intro h segment hsegment
    exact byteLength_mark_le (by rwa [byteLength_marker]) (by rwa [byteLength_marker]) hsegment

/-- The contents that are cut late piece by piece are those of a text that is. -/
lemma isSplit_of_allCutLate (hbudget : 2 ≤ budget) (hpieces : groups.map List.flatten = pieces text)
    (h : AllCutLate budget (budget - 2) groups) : IsSplit budget text groups where
  pieces_eq := hpieces.trans (pieces_eq_filter text)
  ne_nil content hcontent := by
    obtain ⟨group, hgroup, hmem⟩ := List.mem_flatten.1 hcontent
    cases groups with
    | nil => cases hgroup
    | cons first groups =>
      rcases List.mem_cons.1 hgroup with rfl | hgroup
      · exact h.1.ne_nil content hmem
      · exact (h.2 group hgroup).ne_nil content hmem
  fits := by
    rw [forall_mark_le_iff hbudget]
    cases groups with
    | nil => trivial
    | cons first groups =>
      rw [List.flatten_cons]
      refine h.1.fits.append (fun content hcontent => ?_) (Nat.sub_le _ _)
      obtain ⟨group, hgroup, hmem⟩ := List.mem_flatten.1 hcontent
      exact (h.2 group hgroup).fits.forall_le le_rfl content hmem
  late before earlier content c next rest after heq := by
    subst heq
    rw [byteLength_marker]
    cases before with
    | nil =>
      have hlt := h.1.late earlier content c next rest rfl
      rw [List.flatten_nil, List.nil_append]
      split_ifs at hlt ⊢ <;> omega
    | cons first before =>
      have hlt := (h.2 _ (List.mem_append_right _ List.mem_cons_self)).late earlier content c next
        rest rfl
      rw [ite_self] at hlt
      have hfirst : first ≠ [] := by
        rintro rfl
        have hmem : [] ∈ pieces text := by
          rw [← hpieces]
          exact List.mem_cons_self
        exact ne_nil_of_mem_pieces hmem rfl
      rw [if_neg (by simp [hfirst])]
      omega

/-- And the other way round. -/
lemma IsSplit.allCutLate (hbudget : 2 ≤ budget) (h : IsSplit budget text groups) :
    AllCutLate budget (budget - 2) groups := by
  have hfits := (forall_mark_le_iff hbudget).1 h.fits
  have hlate := h.late
  rw [byteLength_marker] at hlate
  cases groups with
  | nil => trivial
  | cons first groups =>
    have hfirst : first ≠ [] := by
      rintro rfl
      have hmem : [] ∈ pieces text := by
        rw [pieces_eq_filter, ← h.pieces_eq]
        exact List.mem_cons_self
      exact ne_nil_of_mem_pieces hmem rfl
    obtain ⟨content, others, rfl⟩ := List.exists_cons_of_ne_nil hfirst
    rw [List.flatten_cons, List.cons_append] at hfits
    refine ⟨⟨fun d hd => h.ne_nil d ?_, ⟨hfits.1, fun d hd => hfits.2 d ?_⟩, ?_⟩,
      fun group hgroup => ⟨fun d hd => h.ne_nil d ?_, fits_self fun d hd => hfits.2 d ?_, ?_⟩⟩
    · exact List.mem_append_left _ hd
    · exact List.mem_append_left _ hd
    · intro earlier d c next rest heq
      have hlt := hlate [] earlier d c next rest groups (by rw [heq, List.nil_append])
      rw [List.flatten_nil, List.nil_append] at hlt
      split_ifs at hlt ⊢ <;> omega
    · exact List.mem_append_right _ (List.mem_flatten_of_mem hgroup hd)
    · exact List.mem_append_right _ (List.mem_flatten_of_mem hgroup hd)
    · intro earlier d c next rest heq
      obtain ⟨before, after, rfl⟩ := List.append_of_mem hgroup
      have hlt := hlate ((content :: others) :: before) earlier d c next rest after
        (by rw [heq, List.cons_append])
      rw [if_neg (by simp)] at hlt
      rw [ite_self]
      omega

/-- **Splitting is determined by what it keeps to.**  The segments of a text are the only list of
texts such that the first is a content, each other one is the marker and a content, and the contents
are those of the text's pieces cut late: they make up the pieces in order, so that nothing is lost
or added and none of them reaches over two pieces; none is empty; the segments keep within the
budget, which counts as six bytes if it is less; and a segment that does not end its piece could not
hold the next character. -/
theorem eq_segments_iff (budget : Nat) (text : Text) (segs : List Text) :
    segs = segments budget text ↔
      ∃ groups, IsSplit (max budget 6) text groups ∧ segs = mark groups.flatten := by
  have hmin : minBudget = 6 := by decide
  have hgrouped : grouped budget text =
      cuts (max budget 6) (max budget 6 - 2) (pieces text) := by
    rw [grouped, hmin, byteLength_marker]
  have hsegments : segments budget text = mark (grouped budget text).flatten := by
    rw [flatten_grouped, segments]
  rw [hsegments]
  constructor
  · rintro rfl
    refine ⟨grouped budget text, ?_, rfl⟩
    refine isSplit_of_allCutLate (by omega) (map_flatten_grouped budget text) ?_
    rw [hgrouped]
    exact allCutLate_cuts (by omega) (Nat.sub_le _ _) _
  · rintro ⟨groups, hsplit, rfl⟩
    rw [(hsplit.allCutLate (by omega)).eq_cuts, hsplit.pieces_eq, ← pieces_eq_filter, hgrouped]

/-- The marker takes room from all segments but the first, and a character is never parted. -/
example : segments 6 "ab♥♥\r\n \nc" = [↑"ab♥", ↑"> ♥", ↑"> c"] := by decide +kernel

end Split
end ChatLink
