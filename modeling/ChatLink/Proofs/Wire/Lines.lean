/-
# Lines from pieces

A stream may be cut into reads anywhere, also between the two characters of a line end and
inside a character, and reads may time out or be interrupted in between.  The lines that come
out are those of the whole stream, each timeout is reported once, and the input that is kept
between two reads stays bounded.
-/
import Mathlib
import ChatLink.Wire.Inlet

namespace ChatLink

/-- The bytes that a read gives. -/
def Read.data : Read → Bytes
  | .bytes bs => bs
  | _ => []

/-- A read that neither fails nor finds the end of the stream. -/
def Read.Works : Read → Prop
  | .bytes bs => bs ≠ []
  | .failed _ => False
  | _ => True

namespace Inlet

variable {r r' : Inlet} {source later : List Read} {read : Read} {pending line rest bs : Bytes}
  {result : Except ReadError (Option Text)} {answer : Option Text} {results : List (Option Text)}

/-! ### What a stream holds -/

/-- The bytes that the reads give, taken together. -/
def stream (source : List Read) : Bytes := source.flatMap Read.data

/-- The runs of bytes between line feeds, the unfinished one at the end included. -/
def stretches (bs : Bytes) : List Bytes := bs.splitOn lineFeed

/-- The runs that a line feed ends. -/
def lines (bs : Bytes) : List Bytes := (stretches bs).dropLast

/-- No run is longer than a line may be. -/
def Short (bs : Bytes) : Prop := ∀ run ∈ stretches bs, run.length ≤ maxInbound

/-- What has arrived and was not handed out, and what is still to arrive. -/
def remaining (r : Inlet) : Bytes := r.pending ++ stream r.source

lemma stretches_append_cons (h : lineFeed ∉ line) :
    stretches (line ++ lineFeed :: rest) = line :: stretches rest :=
  List.splitOn_append_cons_self_of_not_mem h rest

lemma stretches_of_not_mem (h : lineFeed ∉ line) : stretches line = [line] :=
  List.splitOn_eq_singleton h

lemma lines_append_cons (h : lineFeed ∉ line) :
    lines (line ++ lineFeed :: rest) = line :: lines rest := by
  rw [lines, stretches_append_cons h]
  exact List.dropLast_cons_of_ne_nil (List.splitOn_ne_nil lineFeed rest)

lemma lines_of_not_mem (h : lineFeed ∉ line) : lines line = [] := by
  rw [lines, stretches_of_not_mem h]
  rfl

lemma Short.of_append_cons (h : lineFeed ∉ line) (hshort : Short (line ++ lineFeed :: rest)) :
    Short rest := by
  intro run hrun
  exact hshort run (by rw [stretches_append_cons h]; exact List.mem_cons_of_mem line hrun)

/-- What stands before the first line feed is part of the first run. -/
lemma Short.length_le (h : lineFeed ∉ line) (hshort : Short (line ++ rest)) :
    line.length ≤ maxInbound := by
  by_cases hrest : lineFeed ∈ rest
  · obtain ⟨more, rest, rfl, hmore⟩ := List.eq_append_cons_of_mem hrest
    have hrun : line ++ more ∈ stretches (line ++ (more ++ lineFeed :: rest)) := by
      rw [← List.append_assoc, stretches_append_cons (by simp [h, hmore])]
      exact List.mem_cons_self
    have hlength := hshort _ hrun
    rw [List.length_append] at hlength
    omega
  · have hlength := hshort (line ++ rest) (by rw [stretches_of_not_mem (by simp [h, hrest])]; simp)
    rw [List.length_append] at hlength
    omega

/-- Induction along the lines of some bytes. -/
@[elab_as_elim]
lemma lines_induction {motive : Bytes → Prop}
    (unfinished : ∀ bs, lineFeed ∉ bs → motive bs)
    (line : ∀ line rest, lineFeed ∉ line → motive rest → motive (line ++ lineFeed :: rest))
    (bs : Bytes) : motive bs := by
  induction hn : bs.length using Nat.strong_induction_on generalizing bs with
  | _ n ih =>
  by_cases hmem : lineFeed ∈ bs
  · obtain ⟨before, rest, rfl, hbefore⟩ := List.eq_append_cons_of_mem hmem
    refine line before rest hbefore (ih rest.length ?_ rest rfl)
    rw [← hn, List.length_append, List.length_cons]
    omega
  · exact unfinished bs hmem

lemma remaining_line (line rest : Bytes) (source : List Read) :
    remaining ⟨line ++ lineFeed :: rest, source⟩ = line ++ lineFeed :: remaining ⟨rest, source⟩ := by
  simp [remaining]

lemma remaining_read (pending : Bytes) (read : Read) (later : List Read) :
    remaining ⟨pending, read :: later⟩ = remaining ⟨pending ++ read.data, later⟩ := by
  simp [remaining, stream]

/-! ### The text of a line -/

/-- A carriage return right before the line feed is no part of the text, but one only. -/
lemma lineText_append_carriageReturn :
    lineText (line ++ [carriageReturn]) = Utf8.decode line := by
  simp [lineText]

/-! ### The first line of what has arrived -/

lemma cutLine?_append_cons (h : lineFeed ∉ line) :
    cutLine? (line ++ lineFeed :: rest) = some (line, rest) := by
  induction line with
  | nil => simp [cutLine?]
  | cons b line ih =>
    rw [List.mem_cons, not_or] at h
    rw [List.cons_append, cutLine?, if_neg (Ne.symm h.1), ih h.2]

lemma cutLine?_of_not_mem (h : lineFeed ∉ pending) : cutLine? pending = none := by
  induction pending with
  | nil => rfl
  | cons b pending ih =>
    rw [List.mem_cons, not_or] at h
    rw [cutLine?, if_neg (Ne.symm h.1), ih h.2]

lemma length_lt_of_cutLine? (h : cutLine? pending = some (line, rest)) :
    rest.length < pending.length := by
  by_cases hmem : lineFeed ∈ pending
  · obtain ⟨line', rest', rfl, hline'⟩ := List.eq_append_cons_of_mem hmem
    rw [cutLine?_append_cons hline'] at h
    cases h
    rw [List.length_append, List.length_cons]
    omega
  · rw [cutLine?_of_not_mem hmem] at h
    cases h

/-! ### One round -/

/-- One round of the loop that reads: a result, or a piece of input more. -/
def round (r : Inlet) : Inlet × Option (Except ReadError (Option Text)) :=
  match cutLine? r.pending with
  | some (line, rest) => (⟨rest, r.source⟩, some (.ok (some (lineText line))))
  | none =>
    if maxInbound < r.pending.length then (r, some (.error .overlong))
    else
      match r.source with
      | [] => (r, some (.error .closed))
      | .bytes [] :: later => (⟨r.pending, later⟩, some (.error .closed))
      | .bytes (b :: bs) :: later => (⟨r.pending ++ b :: bs, later⟩, none)
      | .notYet :: later => (⟨r.pending, later⟩, some (.ok none))
      | .interrupted :: later => (⟨r.pending, later⟩, none)
      | .failed message :: later => (⟨r.pending, later⟩, some (.error (.reset message)))

/-- A call goes round until there is a result. -/
lemma next_eq_round (r : Inlet) :
    r.next = match r.round with
      | (r', some result) => (r', result)
      | (r', none) => r'.next := by
  obtain ⟨pending, source⟩ := r
  rw [next, nextFrom.eq_def]
  rcases hcut : cutLine? pending with _ | ⟨line, rest⟩
  · by_cases hlong : maxInbound < pending.length
    · simp only [round, hcut, if_pos hlong]
    · simp only [round, hcut, if_neg hlong]
      rcases source with _ | ⟨(_ | ⟨b, bs⟩) | _ | _ | message, later⟩ <;> rfl
  · simp only [round, hcut]

/-- A line that has arrived is handed out without another read. -/
lemma next_of_buffered (h : lineFeed ∉ line) :
    next ⟨line ++ lineFeed :: rest, source⟩ = (⟨rest, source⟩, .ok (some (lineText line))) := by
  rw [next_eq_round, round, cutLine?_append_cons h]

section Unfinished

variable (hline : lineFeed ∉ pending) (hshort : pending.length ≤ maxInbound)
include hline hshort

lemma next_at_end : next ⟨pending, []⟩ = (⟨pending, []⟩, .error .closed) := by
  rw [next_eq_round, round, cutLine?_of_not_mem hline]
  simp only [if_neg (not_lt.2 hshort)]

lemma next_notYet : next ⟨pending, .notYet :: later⟩ = (⟨pending, later⟩, .ok none) := by
  rw [next_eq_round, round, cutLine?_of_not_mem hline]
  simp only [if_neg (not_lt.2 hshort)]

lemma next_interrupted : next ⟨pending, .interrupted :: later⟩ = next ⟨pending, later⟩ := by
  rw [next_eq_round, round, cutLine?_of_not_mem hline]
  simp only [if_neg (not_lt.2 hshort)]

lemma next_bytes (hbs : bs ≠ []) :
    next ⟨pending, .bytes bs :: later⟩ = next ⟨pending ++ bs, later⟩ := by
  rw [next_eq_round, round, cutLine?_of_not_mem hline]
  obtain ⟨b, bs, rfl⟩ := List.exists_cons_of_ne_nil hbs
  simp only [if_neg (not_lt.2 hshort)]

end Unfinished

/-! ### One call after another -/

/-- The results of `n` calls. -/
def polls : Nat → Inlet → List (Except ReadError (Option Text))
  | 0, _ => []
  | n + 1, r => r.next.2 :: polls n r.next.1

/-- The calls give these answers, and then report that the connection was closed. -/
def Yields (r : Inlet) (results : List (Option Text)) : Prop :=
  polls (results.length + 1) r = results.map .ok ++ [.error .closed]

lemma yields_nil (h : r.next.2 = .error .closed) : r.Yields [] := by
  simp [Yields, polls, h]

lemma Yields.cons (h : r.next = (r', .ok answer)) (hr' : r'.Yields results) :
    r.Yields (answer :: results) := by
  rw [Yields, List.length_cons, polls, h]
  exact congrArg (Except.ok answer :: ·) hr'

lemma Yields.congr (h : r.next = r'.next) (hr' : r'.Yields results) : r.Yields results := by
  rw [Yields, polls, h]
  exact hr'

/-- A reader that hands out the lines of what remains, reports each time-out once, and then
reports the end. -/
def Faithful (r : Inlet) : Prop :=
  Short r.remaining → ∃ results, r.Yields results ∧
    results.reduceOption = (lines r.remaining).map lineText ∧
    results.count none = r.source.count .notYet

/-- Induction along the steps of a reader: it hands out a line, or has too much of one, or takes the
next read. -/
@[elab_as_elim]
lemma steps_induction {motive : Bytes → List Read → Prop}
    (line : ∀ line rest source, lineFeed ∉ line → motive rest source →
      motive (line ++ lineFeed :: rest) source)
    (overlong : ∀ pending source, lineFeed ∉ pending → maxInbound < pending.length →
      motive pending source)
    (ended : ∀ pending, lineFeed ∉ pending → pending.length ≤ maxInbound → motive pending [])
    (read : ∀ pending read later, lineFeed ∉ pending → pending.length ≤ maxInbound →
      motive (pending ++ read.data) later → motive pending (read :: later))
    (pending : Bytes) (source : List Read) : motive pending source := by
  induction source generalizing pending with
  | nil =>
    induction pending using lines_induction with
    | unfinished pending h => exact (le_or_gt _ _).elim (ended pending h) (overlong pending [] h)
    | line before rest h ih => exact line before rest [] h ih
  | cons first later ihlater =>
    induction pending using lines_induction with
    | unfinished pending h =>
      exact (le_or_gt _ _).elim (fun hle => read pending first later h hle (ihlater _))
        (overlong pending _ h)
    | line before rest h ih => exact line before rest _ h ih

lemma faithful (h : ∀ read ∈ source, read.Works) (pending : Bytes) :
    Faithful ⟨pending, source⟩ := by
  induction pending, source using steps_induction with
  | line line rest source hline ih =>
    intro hshort
    rw [remaining_line] at hshort
    obtain ⟨results, hyields, hlines, hcount⟩ := ih h (hshort.of_append_cons hline)
    refine ⟨some (lineText line) :: results, hyields.cons (next_of_buffered hline), ?_, ?_⟩
    · rw [remaining_line, lines_append_cons hline, List.map_cons, ← hlines,
        List.reduceOption_cons_of_some]
    · rw [List.count_cons_of_ne (by simp), hcount]
  | overlong pending source hline hlong =>
    intro hshort
    exact absurd (hshort.length_le hline) (not_le.2 hlong)
  | ended pending hline hle =>
    intro _
    refine ⟨[], yields_nil (by rw [next_at_end hline hle]), ?_, rfl⟩
    rw [remaining, lines_of_not_mem (by simpa [stream] using hline)]
    rfl
  | read pending read later hline hle ih =>
    intro hshort
    rw [List.forall_mem_cons] at h
    rw [remaining_read] at hshort ⊢
    obtain ⟨results, hyields, hlines, hcount⟩ := ih h.2 hshort
    rcases read with bs | _ | _ | message
    · refine ⟨results, hyields.congr (next_bytes hline hle h.1), hlines, ?_⟩
      rw [hcount, List.count_cons_of_ne (by simp)]
    · have hsame : pending ++ Read.notYet.data = pending := List.append_nil pending
      rw [hsame] at hyields
      refine ⟨none :: results, hyields.cons (next_notYet hline hle), hlines, ?_⟩
      rw [List.count_cons_self, List.count_cons_self, hcount]
    · have hsame : pending ++ Read.interrupted.data = pending := List.append_nil pending
      rw [hsame] at hyields
      refine ⟨results, hyields.congr (next_interrupted hline hle), hlines, ?_⟩
      rw [hcount, List.count_cons_of_ne (by simp)]
    · exact h.1.elim

/-! ### How much is kept -/

/-- The states that the reader passes through on these reads, those inside a call included. -/
inductive Reached (source : List Read) : Inlet → Prop where
  | start : Reached source ⟨[], source⟩
  | round {r : Inlet} : Reached source r → Reached source r.round.1

/-- A round leaves the reads to come or takes the first of them.  It keeps no more than was kept,
unless it adds what a read gave to a line that was not too long. -/
lemma round_cases (r : Inlet) :
    (r.round.1.source = r.source ∧ r.round.2 ≠ none ∧ r.round.1.pending.length ≤ r.pending.length) ∨
    ∃ read later, r.source = read :: later ∧ r.round.1.source = later ∧
      (r.round.1.pending = r.pending ∨
        r.pending.length ≤ maxInbound ∧ r.round.1.pending = r.pending ++ read.data) := by
  obtain ⟨pending, source⟩ := r
  rcases hcut : cutLine? pending with _ | ⟨line, rest⟩
  · by_cases hlong : maxInbound < pending.length
    · simp [round, hcut, hlong]
    · rcases source with _ | ⟨(_ | ⟨b, bs⟩) | _ | _ | message, later⟩ <;>
        simp [round, hcut, hlong, Read.data, not_lt.1 hlong]
  · have hlt := length_lt_of_cutLine? hcut
    simp [round, hcut, hlt.le]

/-- A call passes through states that are reached. -/
lemma Reached.next (h : Reached source r) : Reached source r.next.1 := by
  induction hn : r.source.length using Nat.strong_induction_on generalizing r with
  | _ n ih =>
  rw [next_eq_round]
  have hround := h.round
  have hcases := r.round_cases
  rcases hr : r.round with ⟨r', _ | result⟩
  · -- a round without a result has used up a read
    rw [hr] at hround hcases
    obtain ⟨-, hnone, -⟩ | ⟨read, later, hsource, hlater, -⟩ := hcases
    · exact absurd rfl hnone
    · refine ih r'.source.length ?_ hround rfl
      rw [← hn, hsource, hlater, List.length_cons]
      exact Nat.lt_succ_self _
  · rwa [hr] at hround

lemma Reached.bounded (hsource : ∀ read ∈ source, read.data.length ≤ maxRead)
    (h : Reached source r) :
    r.source <:+ source ∧ r.pending.length ≤ maxInbound + maxRead := by
  induction h with
  | start => exact ⟨List.suffix_rfl, Nat.zero_le _⟩
  | @round r _ ih =>
    obtain ⟨hsuffix, hpending⟩ := ih
    obtain ⟨hsame, -, hle⟩ | ⟨read, later, hcons, hlater, hkept⟩ := r.round_cases
    · exact ⟨hsame ▸ hsuffix, hle.trans hpending⟩
    · rw [hcons] at hsuffix
      refine ⟨hlater ▸ (List.suffix_cons read later).trans hsuffix, ?_⟩
      rcases hkept with hkept | ⟨hle, hkept⟩
      · rwa [hkept]
      · have hread := hsource read (hsuffix.subset List.mem_cons_self)
        rw [hkept, List.length_append]
        exact Nat.add_le_add hle hread

/-! ### The reader -/

/-- **The lines that come out are the lines of the stream.**  Let no run of bytes between line
feeds be longer than a line may be, and let the reads cut the stream in any way, with time-outs
and interruptions anywhere.  Then the calls hand out exactly the runs that a line feed ends, in
order, report each time-out once, and then the end.  Whatever the stream and the reads, the
reader never keeps more than the longest line and one read. -/
theorem yields_lines (source : List Read) :
    ((∀ read ∈ source, read.Works) → Short (stream source) →
      ∃ results, Yields ⟨[], source⟩ results ∧
        results.reduceOption = (lines (stream source)).map lineText ∧
        results.count none = source.count .notYet) ∧
    ((∀ read ∈ source, read.data.length ≤ maxRead) →
      ∀ r, Reached source r → Reached source r.next.1 ∧
        r.pending.length ≤ maxInbound + maxRead) :=
  ⟨fun hworks hshort => faithful hworks [] hshort,
    fun hsource _ hr => ⟨hr.next, (hr.bounded hsource).2⟩⟩

/-- A stream that is cut inside a character and inside a line end, with a time-out and an
interruption there; one of two carriage returns belongs to the line. -/
theorem yields_lines_cut_stream :
    (∃ results,
      Yields ⟨[], [.bytes [99, 195], .notYet, .bytes [169, 13], .interrupted,
        .bytes [10, 10, 120, 13, 13, 10, 121]]⟩ results ∧
      results.reduceOption = [['c', 'é'], [], ['x', '\r']] ∧ results.count none = 1) ∧
    ∀ r, Reached [.bytes [99, 195], .notYet, .bytes [169, 13], .interrupted,
        .bytes [10, 10, 120, 13, 13, 10, 121]] r →
      Reached [.bytes [99, 195], .notYet, .bytes [169, 13], .interrupted,
        .bytes [10, 10, 120, 13, 13, 10, 121]] r.next.1 ∧
        r.pending.length ≤ maxInbound + maxRead := by
  obtain ⟨hlines, hbound⟩ := yields_lines [.bytes [99, 195], .notYet, .bytes [169, 13],
    .interrupted, .bytes [10, 10, 120, 13, 13, 10, 121]]
  exact ⟨hlines (by simp [Read.Works]) (by unfold Short; decide), hbound (by decide)⟩

end Inlet
end ChatLink
