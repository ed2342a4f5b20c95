/-
# Lines that are too long

How much has arrived of an unfinished line is looked at before each read, and a line that the next
read completes is handed out whatever its length.  So what becomes of a line that is longer than a
line may be depends on where the reads cut it.  The lines that come through are those before the
first moment between two reads at which too much of an unfinished line has arrived.  Main statement:
`overlong_lines`.
-/
import Mathlib
import ChatLink.Proofs.Wire.Lines

namespace ChatLink.Inlet

variable {r : Inlet} {source later : List Read} {read : Read} {pending line rest bs : Bytes}
  {i n calls reach : Nat}

/-! ### The unfinished line -/

/-- The bytes behind the last line feed. -/
def unfinished (bs : Bytes) : Bytes := (stretches bs).getLast (List.splitOn_ne_nil lineFeed bs)

lemma unfinished_append_cons (h : lineFeed ∉ line) :
    unfinished (line ++ lineFeed :: rest) = unfinished rest := by
  simp only [unfinished, stretches_append_cons h]
  exact List.getLast_cons (List.splitOn_ne_nil lineFeed rest)

lemma unfinished_of_not_mem (h : lineFeed ∉ bs) : unfinished bs = bs := by
  simp only [unfinished, stretches_of_not_mem h, List.getLast_singleton]

/-- A line is shorter than the bytes that it is part of. -/
lemma length_lt_of_mem_lines (h : line ∈ lines bs) : line.length < bs.length := by
  induction bs using lines_induction with
  | unfinished bs hbs =>
    rw [lines_of_not_mem hbs] at h
    cases h
  | line before rest hbefore ih =>
    rw [lines_append_cons hbefore, List.mem_cons] at h
    rw [List.length_append, List.length_cons]
    rcases h with rfl | h
    · omega
    · exact (ih h).trans (by omega)

/-! ### Moments at which a line is too long -/

/-- At a moment between two reads, before the line feed of the line `i` has arrived, more has arrived
of an unfinished line than a line may be long. -/
def Overruns (r : Inlet) (i : Nat) : Prop :=
  ∃ earlier ∈ r.source.inits, (lines (r.pending ++ stream earlier)).length ≤ i ∧
    maxInbound < (unfinished (r.pending ++ stream earlier)).length

instance : Decidable (r.Overruns i) :=
  inferInstanceAs (Decidable (∃ earlier ∈ r.source.inits,
    (lines (r.pending ++ stream earlier)).length ≤ i ∧
      maxInbound < (unfinished (r.pending ++ stream earlier)).length))

lemma not_overruns_line (h : lineFeed ∉ line) :
    ¬ Overruns ⟨line ++ lineFeed :: rest, source⟩ 0 := by
  rintro ⟨earlier, -, hle, -⟩
  dsimp only at hle
  rw [List.append_assoc, List.cons_append, lines_append_cons h] at hle
  exact absurd hle (Nat.not_succ_le_zero _)

lemma overruns_line (h : lineFeed ∉ line) :
    Overruns ⟨line ++ lineFeed :: rest, source⟩ (i + 1) ↔ Overruns ⟨rest, source⟩ i := by
  simp only [Overruns, List.append_assoc, List.cons_append, lines_append_cons h,
    unfinished_append_cons h, List.length_cons, Nat.add_le_add_iff_right]

lemma overruns_overlong (h : lineFeed ∉ pending) (hlong : maxInbound < pending.length) :
    Overruns ⟨pending, source⟩ i := by
  refine ⟨[], by simp, ?_⟩
  simpa [stream, lines_of_not_mem h, unfinished_of_not_mem h] using hlong

section Unfinished

variable (hline : lineFeed ∉ pending) (hshort : pending.length ≤ maxInbound)
include hline hshort

lemma not_overruns_ended : ¬ Overruns ⟨pending, []⟩ i := by
  simpa [Overruns, stream, lines_of_not_mem hline, unfinished_of_not_mem hline] using hshort

lemma overruns_read :
    Overruns ⟨pending, read :: later⟩ i ↔ Overruns ⟨pending ++ read.data, later⟩ i := by
  simp [Overruns, stream, lines_of_not_mem hline, unfinished_of_not_mem hline, hshort]

end Unfinished

/-- Lines that are not too long are never too much, however the reads cut them. -/
lemma not_overruns_of_short {pending : Bytes} (hi : i < (lines (remaining ⟨pending, source⟩)).length)
    (hshort : ∀ line ∈ (lines (remaining ⟨pending, source⟩)).take (i + 1),
      line.length ≤ maxInbound) : ¬ Overruns ⟨pending, source⟩ i := by
  induction pending, source using steps_induction generalizing i with
  | line line rest source h ih =>
    cases i with
    | zero => exact not_overruns_line h
    | succ i =>
      rw [overruns_line h]
      rw [remaining_line, lines_append_cons h] at hi hshort
      exact ih (Nat.lt_of_succ_lt_succ hi) fun line hline =>
        hshort line (List.mem_cons_of_mem _ hline)
  | overlong pending source h hlong =>
    -- what has arrived is part of the first line
    rw [remaining] at hi hshort
    by_cases hmem : lineFeed ∈ stream source
    · obtain ⟨more, rest, hstream, hmore⟩ := List.eq_append_cons_of_mem hmem
      have hfirst := hshort (pending ++ more) (by
        dsimp only
        rw [hstream, ← List.append_assoc, lines_append_cons (by simp [h, hmore])]
        exact List.mem_cons_self)
      rw [List.length_append] at hfirst
      omega
    · rw [lines_of_not_mem (by simp [h, hmem])] at hi
      exact absurd hi (Nat.not_lt_zero i)
  | ended pending h hle => exact not_overruns_ended h hle
  | read pending read later h hle ih =>
    rw [overruns_read h hle]
    rw [remaining_read] at hi hshort
    exact ih hi hshort

/-- A line that comes through is not longer than what may be kept of it and one read. -/
lemma length_lt_of_not_overruns {pending : Bytes}
    (hpending : ∀ line ∈ lines pending, line.length < maxInbound + maxRead)
    (hsource : ∀ read ∈ source, read.data.length ≤ maxRead)
    (hline : (lines (remaining ⟨pending, source⟩))[i]? = some line)
    (h : ¬ Overruns ⟨pending, source⟩ i) : line.length < maxInbound + maxRead := by
  induction pending, source using steps_induction generalizing i with
  | line first rest source hfirst ih =>
    rw [lines_append_cons hfirst, List.forall_mem_cons] at hpending
    rw [remaining_line, lines_append_cons hfirst] at hline
    cases i with
    | zero =>
      obtain rfl : first = line := by simpa using hline
      exact hpending.1
    | succ i =>
      rw [overruns_line hfirst] at h
      exact ih hpending.2 hsource (by simpa using hline) h
  | overlong pending source hmem hlong => exact absurd (overruns_overlong hmem hlong) h
  | ended pending hmem hle =>
    rw [remaining, lines_of_not_mem (by simpa [stream] using hmem)] at hline
    cases hline
  | read pending read later hmem hle ih =>
    rw [List.forall_mem_cons] at hsource
    rw [overruns_read hmem hle] at h
    rw [remaining_read] at hline
    refine ih (fun line hmem => ?_) hsource.2 hline h
    have hlt := length_lt_of_mem_lines hmem
    rw [List.length_append] at hlt
    omega

/-! ### What the calls hand out -/

lemma next_overlong (h : lineFeed ∉ pending) (hlong : maxInbound < pending.length) :
    next ⟨pending, source⟩ = (⟨pending, source⟩, .error .overlong) := by
  rw [next_eq_round, round, cutLine?_of_not_mem h]
  simp only [if_pos hlong]

/-- The line that an answer hands out. -/
def handed? : Except ReadError (Option Text) → Option Text
  | .ok line? => line?
  | .error _ => none

/-- The lines that `n` calls hand out. -/
def handed (n : Nat) (r : Inlet) : List Text := (polls n r).filterMap handed?

/-- A read adds what it gives to the unfinished line.  The call may end with it, but hands out
nothing then. -/
lemma next_read (h : lineFeed ∉ pending) (hle : pending.length ≤ maxInbound) (read : Read)
    (later : List Read) : next ⟨pending, read :: later⟩ = next ⟨pending ++ read.data, later⟩ ∨
      ∃ answer, handed? answer = none ∧
        next ⟨pending, read :: later⟩ = (⟨pending ++ read.data, later⟩, answer) := by
  rw [next_eq_round, round, cutLine?_of_not_mem h]
  simp only [if_neg (not_lt.2 hle)]
  rcases read with (_ | ⟨b, bs⟩) | _ | _ | message
  · exact .inr ⟨.error .closed, rfl, by simp [Read.data]⟩
  · exact .inl rfl
  · exact .inr ⟨.ok none, rfl, by simp [Read.data]⟩
  · exact .inl (by simp [Read.data])
  · exact .inr ⟨.error (.reset message), rfl, by simp [Read.data]⟩

/-- A reader that a call leaves as it is gives the same answer each time. -/
lemma polls_of_next_eq {answer : Except ReadError (Option Text)} (h : r.next = (r, answer)) (n : Nat) :
    polls n r = List.replicate n answer := by
  induction n with
  | zero => rfl
  | succ n ih => rw [polls, h, ih, List.replicate_succ]

/-- After some calls the reader has handed out the first lines of what remained, and says the same
of every further call. -/
structure Settles (r : Inlet) (calls reach : Nat) : Prop where
  /-- The lines come in order, and as they were sent. -/
  handed_eq : handed calls r = ((lines r.remaining).take reach).map lineText
  /-- They are those before the first moment at which a line is too long. -/
  reach_iff : ∀ i, i < reach ↔ i < (lines r.remaining).length ∧ ¬ r.Overruns i
  /-- Further calls report that a line is too long, if any is, and the end of the stream if not. -/
  polls_add : ∀ more, polls (calls + more) r = polls calls r ++
    List.replicate more (.error (if r.Overruns (lines r.remaining).length then .overlong else .closed))

lemma Settles.of_rest (h : lineFeed ∉ line) (hrest : Settles ⟨rest, source⟩ calls reach) :
    Settles ⟨line ++ lineFeed :: rest, source⟩ (calls + 1) (reach + 1) where
  handed_eq := by
    rw [remaining_line, lines_append_cons h, List.take_succ_cons, List.map_cons, ← hrest.handed_eq,
      handed, polls, next_of_buffered h]
    rfl
  reach_iff i := by
    rw [remaining_line, lines_append_cons h, List.length_cons]
    cases i with
    | zero => simp [not_overruns_line h]
    | succ i => rw [overruns_line h, Nat.add_lt_add_iff_right, Nat.add_lt_add_iff_right, hrest.reach_iff]
  polls_add more := by
    have hpolls := hrest.polls_add more
    simp only [remaining_line, lines_append_cons h, List.length_cons, overruns_line h]
    rw [Nat.add_right_comm, polls, polls, next_of_buffered h, hpolls]
    rfl

/-- Whatever is still to come, an unfinished line that is too long is the end. -/
lemma settles_overlong (h : lineFeed ∉ pending) (hlong : maxInbound < pending.length) :
    Settles ⟨pending, source⟩ 0 0 where
  handed_eq := rfl
  reach_iff i := by simp [overruns_overlong h hlong]
  polls_add more := by
    rw [Nat.zero_add, if_pos (overruns_overlong h hlong), polls_of_next_eq (next_overlong h hlong)]
    rfl

lemma settles_ended (h : lineFeed ∉ pending) (hle : pending.length ≤ maxInbound) :
    Settles ⟨pending, []⟩ 0 0 where
  handed_eq := rfl
  reach_iff i := by
    rw [remaining, lines_of_not_mem (by simpa [stream] using h)]
    simp
  polls_add more := by
    rw [Nat.zero_add, if_neg (not_overruns_ended h hle), polls_of_next_eq (next_at_end h hle)]
    rfl

/-- A read may take a call of its own, which hands out nothing. -/
lemma Settles.of_read (h : lineFeed ∉ pending) (hle : pending.length ≤ maxInbound)
    (hlater : Settles ⟨pending ++ read.data, later⟩ calls reach) :
    ∃ calls, Settles ⟨pending, read :: later⟩ calls reach := by
  rcases next_read h hle read later with hnext | ⟨answer, hnone, hnext⟩
  · have hpolls : ∀ n, polls n ⟨pending, read :: later⟩ = polls n ⟨pending ++ read.data, later⟩ := by
      intro n
      cases n with
      | zero => rfl
      | succ n => rw [polls, polls, hnext]
    refine ⟨calls, ?_, ?_, ?_⟩
    · rw [handed, hpolls, remaining_read]
      exact hlater.handed_eq
    · intro i
      rw [remaining_read, overruns_read h hle]
      exact hlater.reach_iff i
    · intro more
      simp only [hpolls, remaining_read, overruns_read h hle]
      exact hlater.polls_add more
  · have hpolls : ∀ n, polls (n + 1) ⟨pending, read :: later⟩ =
        answer :: polls n ⟨pending ++ read.data, later⟩ := by
      intro n
      rw [polls, hnext]
    refine ⟨calls + 1, ?_, ?_, ?_⟩
    · rw [handed, hpolls, List.filterMap_cons_none hnone, remaining_read]
      exact hlater.handed_eq
    · intro i
      rw [remaining_read, overruns_read h hle]
      exact hlater.reach_iff i
    · intro more
      simp only [Nat.add_right_comm calls 1, hpolls, remaining_read, overruns_read h hle]
      rw [hlater.polls_add more, List.cons_append]

/-- Whatever the reads are, the reader settles. -/
lemma exists_settles (pending : Bytes) (source : List Read) :
    ∃ calls reach, Settles ⟨pending, source⟩ calls reach := by
  induction pending, source using steps_induction with
  | line line rest source h ih =>
    obtain ⟨calls, reach, ih⟩ := ih
    exact ⟨calls + 1, reach + 1, ih.of_rest h⟩
  | overlong pending source h hlong => exact ⟨0, 0, settles_overlong h hlong⟩
  | ended pending h hle => exact ⟨0, 0, settles_ended h hle⟩
  | read pending read later h hle ih =>
    obtain ⟨calls, reach, ih⟩ := ih
    obtain ⟨calls, hsettles⟩ := ih.of_read h hle
    exact ⟨calls, reach, hsettles⟩

/-! ### Cutting a line -/

/-- Reads of at most 2048 bytes each that make up a line and its line feed. -/
structure Cuts (line : Bytes) (source : List Read) : Prop where
  stream_eq : stream source = line ++ [lineFeed]
  works : ∀ read ∈ source, read.Works ∧ read.data.length ≤ maxRead

lemma stream_pieces (bs : Bytes) : stream (Read.pieces bs) = bs := by
  induction bs using Read.pieces.induct with
  | case1 bs h =>
    rw [Read.pieces, if_pos h]
    simp [stream, Read.data]
  | case2 bs h ih =>
    rw [stream] at ih
    rw [Read.pieces, if_neg h, stream, List.flatMap_cons, ih]
    exact List.take_append_drop maxRead bs

lemma works_of_mem_pieces (hbs : bs ≠ []) (h : read ∈ Read.pieces bs) :
    read.Works ∧ read.data.length ≤ maxRead := by
  induction bs using Read.pieces.induct with
  | case1 bs hle =>
    rw [Read.pieces, if_pos hle, List.mem_singleton] at h
    rw [h]
    exact ⟨hbs, hle⟩
  | case2 bs hlong ih =>
    have hlt : maxRead < bs.length := not_le.1 hlong
    rw [Read.pieces, if_neg hlong, List.mem_cons] at h
    rcases h with rfl | h
    · refine ⟨?_, List.length_take_le maxRead bs⟩
      exact fun hnil => hbs ((List.take_eq_nil_iff.1 hnil).resolve_left (by decide))
    · exact ih (by simpa using hlt) h

/-- The pieces of an unfinished line are taken one after the other, also if the last one makes it too
long. -/
lemma next_pieces (hbs : bs ≠ []) (hline : lineFeed ∉ pending ++ bs)
    (hle : (pending ++ bs).length ≤ maxInbound + 1) :
    next ⟨pending, Read.pieces bs ++ later⟩ = next ⟨pending ++ bs, later⟩ := by
  have hpos : 0 < bs.length := List.length_pos_iff.2 hbs
  induction bs using Read.pieces.induct generalizing pending with
  | case1 bs hpiece =>
    rw [List.mem_append, not_or] at hline
    rw [List.length_append] at hle
    rw [Read.pieces, if_pos hpiece, List.cons_append, List.nil_append]
    exact next_bytes hline.1 (by omega) hbs
  | case2 bs hlong ih =>
    have hlt : maxRead < bs.length := not_le.1 hlong
    have happend : pending ++ bs.take maxRead ++ bs.drop maxRead = pending ++ bs := by
      rw [List.append_assoc, List.take_append_drop]
    have hfirst : bs.take maxRead ≠ [] :=
      fun hnil => hbs ((List.take_eq_nil_iff.1 hnil).resolve_left (by decide))
    have hrest : bs.drop maxRead ≠ [] := by simpa using hlt
    rw [Read.pieces, if_neg hlong, List.cons_append]
    rw [next_bytes (fun hmem => hline (List.mem_append_left _ hmem))
      (by rw [List.length_append] at hle; omega) hfirst]
    rw [ih hrest (happend ▸ hline) (happend ▸ hle) (List.length_pos_iff.2 hrest), happend]

section Cut

variable (hpos : 0 < n) (hn : n ≤ line.length)
include hpos hn

/-- A line may be cut into pieces up to some byte, and one read for the rest of it. -/
lemma cuts_at (hlast : line.length < n + maxRead) :
    Cuts line (Read.pieces (line.take n) ++ [.bytes (line.drop n ++ [lineFeed])]) where
  stream_eq := by
    rw [stream, List.flatMap_append, ← stream, stream_pieces, List.flatMap_singleton, Read.data,
      ← List.append_assoc, List.take_append_drop]
  works read hread := by
    have hne : line.take n ≠ [] := by
      rw [← List.length_pos_iff, List.length_take_of_le hn]
      exact hpos
    rcases List.mem_append.1 hread with hread | hread
    · exact works_of_mem_pieces hne hread
    · rw [List.mem_singleton.1 hread]
      refine ⟨List.append_ne_nil_of_right_ne_nil _ (List.cons_ne_nil _ _), ?_⟩
      rw [Read.data, List.length_append, List.length_drop, List.length_singleton]
      omega

lemma next_cut (h : lineFeed ∉ line) (hle : n ≤ maxInbound + 1) :
    next ⟨[], Read.pieces (line.take n) ++ later⟩ = next ⟨line.take n, later⟩ := by
  have hlength : (line.take n).length = n := List.length_take_of_le hn
  refine next_pieces ?_ ?_ ?_
  · rw [← List.length_pos_iff, hlength]
    exact hpos
  · exact fun hmem => h (List.mem_of_mem_take hmem)
  · rw [List.nil_append, hlength]
    exact hle

/-- A line comes through, whatever its length, if the last read before its line feed finds no more of
it than a line may be long. -/
lemma next_cut_early (h : lineFeed ∉ line) (hle : n ≤ maxInbound) :
    (next ⟨[], Read.pieces (line.take n) ++ [.bytes (line.drop n ++ [lineFeed])]⟩).2 =
      .ok (some (lineText line)) := by
  have hmem : lineFeed ∉ line.take n := fun hmem => h (List.mem_of_mem_take hmem)
  rw [next_cut hpos hn h (by omega), next_bytes hmem (by rw [List.length_take_of_le hn]; exact hle)
    (List.append_ne_nil_of_right_ne_nil _ (List.cons_ne_nil _ _)), ← List.append_assoc,
    List.take_append_drop, next_of_buffered h]

end Cut

/-- It does not if that read finds one byte more. -/
lemma next_cut_late (h : lineFeed ∉ line) (hlong : maxInbound < line.length) :
    (next ⟨[], Read.pieces (line.take (maxInbound + 1)) ++ later⟩).2 = .error .overlong := by
  have hmem : lineFeed ∉ line.take (maxInbound + 1) := fun hmem => h (List.mem_of_mem_take hmem)
  rw [next_cut (Nat.succ_pos _) hlong h le_rfl, next_overlong hmem]
  rw [List.length_take_of_le hlong]
  exact Nat.lt_succ_self _

/-! ### The reader -/

/-- **What becomes of long lines.**  Whatever the reads are, the reader hands out the lines of the
stream, in order, up to the first moment between two reads at which more has arrived of an unfinished
line than a line may be long; from then on every call reports that.  Lines within the limit come
through however they are cut, and none that is longer by a whole read.  But what becomes of a line in
between depends on the cut: each such line is handed out with some reads, and refused with others. -/
theorem overlong_lines (source : List Read) :
    let r : Inlet := ⟨[], source⟩
    let all := lines (stream source)
    (∃ calls reach, r.Settles calls reach) ∧
    (∀ i < all.length, (∀ line ∈ all.take (i + 1), line.length ≤ maxInbound) → ¬ r.Overruns i) ∧
    ((∀ read ∈ source, read.data.length ≤ maxRead) →
      ∀ i line, all[i]? = some line → ¬ r.Overruns i → line.length < maxInbound + maxRead) ∧
    ∀ line, lineFeed ∉ line → maxInbound < line.length → line.length < maxInbound + maxRead →
      ∃ early late, Cuts line early ∧ Cuts line late ∧
        (next ⟨[], early⟩).2 = .ok (some (lineText line)) ∧
        (next ⟨[], late⟩).2 = .error .overlong := by
  intro r all
  refine ⟨exists_settles [] source, fun i hi hshort => not_overruns_of_short hi hshort,
    fun hsource i line hline h => length_lt_of_not_overruns ?_ hsource hline h, ?_⟩
  · rw [lines_of_not_mem List.not_mem_nil]
    exact List.forall_mem_nil _
  · intro line h hlong hlt
    have hpos : 0 < maxInbound := by decide
    exact ⟨_, _, cuts_at hpos hlong.le hlt, cuts_at (Nat.succ_pos _) hlong (by omega),
      next_cut_early hpos hlong.le h le_rfl, next_cut_late h hlong⟩

/-- A short line in two reads with a time-out between them, and a line of one byte too many. -/
theorem overlong_lines_both :
    let source : List Read := [.bytes [120], .notYet, .bytes [13, 10]]
    let line : Bytes := List.replicate 8705 120
    (lines (stream source) = [[120, 13]] ∧ (∃ calls reach, Settles ⟨[], source⟩ calls reach) ∧
      ¬ Overruns ⟨[], source⟩ 0 ∧ [120, 13].length < maxInbound + maxRead) ∧
    lineFeed ∉ line ∧ maxInbound < line.length ∧ line.length < maxInbound + maxRead ∧
      ∃ early late, Cuts line early ∧ Cuts line late ∧
        (next ⟨[], early⟩).2 = .ok (some (lineText line)) ∧
        (next ⟨[], late⟩).2 = .error .overlong := by
  intro source line
  have hlines : lines (stream source) = [[120, 13]] := by decide
  have hmem : lineFeed ∉ line := fun hmem => absurd (List.eq_of_mem_replicate hmem) (by decide)
  have hlength : line.length = 8705 := List.length_replicate
  have hlong : maxInbound < line.length := by rw [hlength]; decide
  have hlt : line.length < maxInbound + maxRead := by rw [hlength]; decide
  obtain ⟨hsettles, hshort, hbound, hcut⟩ := overlong_lines source
  have hthrough : ¬ Overruns ⟨[], source⟩ 0 :=
    hshort 0 (by rw [hlines]; decide) (by rw [hlines]; decide)
  have hshorter := hbound (by decide) 0 [120, 13] (by rw [hlines]; rfl) hthrough
  exact ⟨⟨hlines, hsettles, hthrough, hshorter⟩, hmem, hlong, hlt, hcut line hmem hlong hlt⟩

/-- A line of 8705 bytes is handed out if its last byte comes with its line feed, and refused if it
comes before. -/
theorem overlong_line_handed_out :
    let line : Bytes := List.replicate 8705 120
    let early : List Read := Read.pieces (List.replicate 8704 120) ++ [.bytes [120, 10]]
    let late : List Read := Read.pieces (List.replicate 8705 120) ++ [.bytes [10]]
    maxInbound < line.length ∧ Cuts line early ∧ Cuts line late ∧
      (next ⟨[], early⟩).2 = .ok (some (lineText line)) ∧
      (next ⟨[], late⟩).2 = .error .overlong := by
  intro line early late
  have hmem : lineFeed ∉ line := fun hmem => absurd (List.eq_of_mem_replicate hmem) (by decide)
  have hlength : line.length = 8705 := List.length_replicate
  have hlong : maxInbound < line.length := by rw [hlength]; decide
  have hlt : line.length < maxInbound + maxRead := by rw [hlength]; decide
  have hearly : early = Read.pieces (line.take maxInbound) ++
      [.bytes (line.drop maxInbound ++ [lineFeed])] := by
    rw [List.take_replicate, List.drop_replicate]
    rfl
  have hlate : late = Read.pieces (line.take (maxInbound + 1)) ++
      [.bytes (line.drop (maxInbound + 1) ++ [lineFeed])] := by
    rw [List.take_replicate, List.drop_replicate]
    rfl
  have hpos : 0 < maxInbound := by decide
  rw [hearly, hlate]
  exact ⟨hlong, cuts_at hpos hlong.le hlt, cuts_at (Nat.succ_pos _) hlong (by omega),
    next_cut_early hpos hlong.le hmem le_rfl, next_cut_late hmem hlong⟩

end ChatLink.Inlet
