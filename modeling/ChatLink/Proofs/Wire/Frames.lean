/-
# Lines over a connection

A line is refused, or goes out with its end, or the connection fails.  It is refused exactly if it
is too long or holds a line break, and then nothing of it goes out.  Where the connection fails a
beginning of the line goes out.  Main statements: `send_cases`, `send_of_isReliable`.
-/
import Mathlib
import ChatLink.Wire.Outlet

namespace ChatLink

/-- A text without line breaks. -/
def Text.IsUnbroken (t : Text) : Prop := ∀ c ∈ t, isLineBreak c = false

instance (t : Text) : Decidable t.IsUnbroken :=
  List.decidableBAll (fun c => isLineBreak c = false) t

namespace Text

variable {c : Char} {s t : Text}

@[simp] lemma isUnbroken_nil : IsUnbroken [] := List.forall_mem_nil _

@[simp] lemma isUnbroken_cons : IsUnbroken (c :: t) ↔ isLineBreak c = false ∧ t.IsUnbroken :=
  List.forall_mem_cons

@[simp] lemma isUnbroken_append : IsUnbroken (s ++ t) ↔ s.IsUnbroken ∧ t.IsUnbroken :=
  List.forall_mem_append

end Text

variable {line : Text}

/-! ### Lines that are not refused -/

lemma refusal?_eq_none_iff :
    refusal? line = none ↔ line.byteLength ≤ maxLine ∧ line.IsUnbroken := by
  have hunbroken : line.any isLineBreak = true ↔ ¬ line.IsUnbroken := by
    rw [List.any_eq_true, Text.IsUnbroken]
    push Not
    simp only [Bool.ne_false_iff]
  rw [refusal?]
  split
  · next hlong => simp [Nat.not_le.2 hlong]
  · next hfits =>
    split
    · next hbreak => simp [hunbroken.1 hbreak]
    · next hbreak =>
      exact iff_of_true rfl ⟨Nat.not_lt.1 hfits, not_not.1 (hunbroken.not.1 hbreak)⟩

/-- A word before a name is no reason to refuse the line. -/
lemma refusal?_append_iff {word name : Text} (hword : word.IsUnbroken)
    (hfits : word.byteLength + name.byteLength ≤ maxLine) :
    refusal? (word ++ name) = none ↔ name.IsUnbroken := by
  rw [refusal?_eq_none_iff, Text.byteLength_append, Text.isUnbroken_append, and_iff_right hfits,
    and_iff_right hword]

/-- A line without line breaks can only be too long. -/
lemma refusal?_append_eq_none_iff {word rest : Text} (hword : word.IsUnbroken)
    (hrest : rest.IsUnbroken) :
    refusal? (word ++ rest) = none ↔ word.byteLength + rest.byteLength ≤ maxLine := by
  rw [refusal?_eq_none_iff, Text.byteLength_append, Text.isUnbroken_append,
    and_iff_left ⟨hword, hrest⟩]

/-- What goes out of a line over a connection that does not fail: the line and its end, or nothing
of a line that is refused. -/
def frame (line : Text) : Text :=
  match refusal? line with
  | some _ => []
  | none => line ++ lineEnd

/-! ### How a connection may fail -/

/-- The failure that an answer is, if it is one. -/
def WriteAnswer.failure? : WriteAnswer → Option Failure
  | .takes 0 => some .writeZero
  | .takes (_ + 1) => none
  | .fails f => if f.kind = .interrupted then none else some f

namespace Wire

/-- The failures that a connection has in store. -/
def failures (w : Wire) : List Failure :=
  w.writes.filterMap WriteAnswer.failure? ++ w.flushes.reduceOption

/-- The connection after it has given some of its answers. -/
structure IsLater (w' w : Wire) : Prop where
  writes : w'.writes <:+ w.writes
  flushes : w'.flushes <:+ w.flushes

@[refl] lemma IsLater.refl (w : Wire) : w.IsLater w := ⟨List.suffix_rfl, List.suffix_rfl⟩

lemma IsLater.trans {w w' w'' : Wire} (h' : w''.IsLater w') (h : w'.IsLater w) : w''.IsLater w :=
  ⟨h'.writes.trans h.writes, h'.flushes.trans h.flushes⟩

/-- Fewer answers hold fewer failures. -/
lemma IsLater.failures {w w' : Wire} (h : w'.IsLater w) : w'.failures ⊆ w.failures := by
  rw [Wire.failures, Wire.failures, List.append_subset]
  exact ⟨List.subset_append_of_subset_left _ (List.filterMap_subset _ h.writes.subset),
    List.subset_append_of_subset_right _ (List.filterMap_subset _ h.flushes.subset)⟩

/-- The connection never fails.  It may take less than it is given, and it may be interrupted. -/
def isReliable (w : Wire) : Bool := w.failures = []

lemma failures_eq_nil {w : Wire} (h : w.isReliable = true) : w.failures = [] := of_decide_eq_true h

/-- The connection has no failure in store that would pass for a line that is refused. -/
def isCandid (w : Wire) : Bool := w.failures.all (·.kind ≠ .invalidInput)

lemma kind_ne_of_isCandid {w : Wire} {f : Failure} (h : w.isCandid = true) (hf : f ∈ w.failures) :
    f.kind ≠ .invalidInput := of_decide_eq_true (List.all_eq_true.1 h f hf)

end Wire

variable {part : Bytes}

/-- What comes of bytes that are written: all of them are taken, or the connection fails before. -/
lemma writeAll_cases (answers : List WriteAnswer) (bs : Bytes) :
    (∃ later, later <:+ answers ∧ writeAll answers bs = (bs, later, none)) ∨
    ∃ part later f, later <:+ answers ∧ writeAll answers bs = (part, later, some f) ∧
      part <+: bs ∧ part ≠ bs ∧ f ∈ answers.filterMap WriteAnswer.failure? := by
  have hcons : ∀ (answer : WriteAnswer) {answers : List WriteAnswer} {f : Failure},
      f ∈ answers.filterMap WriteAnswer.failure? →
        f ∈ (answer :: answers).filterMap WriteAnswer.failure? := fun answer answers f hf =>
    List.filterMap_subset _ (List.subset_cons_self answer answers) hf
  -- the connection is not asked, takes nothing, takes some, was interrupted, or fails
  fun_induction writeAll answers bs with
  | case1 bs => exact .inl ⟨[], List.suffix_rfl, rfl⟩
  | case2 answer answers => exact .inl ⟨answer :: answers, List.suffix_rfl, rfl⟩
  | case3 answers bs hne =>
    exact .inr ⟨[], answers, .writeZero, List.suffix_cons _ _, rfl, List.nil_prefix, Ne.symm hne,
      List.mem_cons_self⟩
  | case4 answers bs hne n more left failure hrest ih =>
    rw [hrest] at ih
    have hsplit := List.take_append_drop (n + 1) bs
    rcases ih with ⟨later, hlater, heq⟩ | ⟨part, later, f, hlater, heq, hpart, hless, hf⟩
    · cases heq
      exact .inl ⟨left, hlater.trans (List.suffix_cons _ _), by rw [hsplit]⟩
    · cases heq
      refine .inr ⟨bs.take (n + 1) ++ more, left, f, hlater.trans (List.suffix_cons _ _), rfl, ?_, ?_,
        hcons _ hf⟩
      · calc bs.take (n + 1) ++ more <+: bs.take (n + 1) ++ bs.drop (n + 1) :=
            (List.prefix_append_right_inj _).2 hpart
          _ = bs := hsplit
      · intro hwhole
        exact hless (List.append_cancel_left (hwhole.trans hsplit.symm))
  | case5 answers bs hne f hagain ih =>
    rcases ih with ⟨later, hlater, heq⟩ | ⟨part, later, f', hlater, heq, hpart, hless, hf⟩
    · exact .inl ⟨later, hlater.trans (List.suffix_cons _ _), heq⟩
    · exact .inr ⟨part, later, f', hlater.trans (List.suffix_cons _ _), heq, hpart, hless, hcons _ hf⟩
  | case6 answers bs hne f hother =>
    exact .inr ⟨[], answers, f, List.suffix_cons _ _, rfl, List.nil_prefix, Ne.symm hne,
      List.mem_filterMap.2 ⟨.fails f, List.mem_cons_self, if_neg hother⟩⟩

/-! ### Sending -/

/-- **What a connection can make of a line**: what goes out, and the answer.  The line is refused, it
goes out with its end, or the connection fails.  Then a beginning goes out, which is everything only if
the connection fails to pass it on. -/
def Wire.Allows (w : Wire) (line : Text) (part : Bytes) : Except SendError Unit → Prop
  | .error (.refused why) => refusal? line = some why ∧ part = []
  | .ok () => refusal? line = none ∧ part = Utf8.encode (line ++ lineEnd)
  | .error (.failed f) => refusal? line = none ∧ f ∈ w.failures ∧
    part <+: Utf8.encode (line ++ lineEnd) ∧
    (part = Utf8.encode (line ++ lineEnd) → some f ∈ w.flushes)

/-- What a connection can make of a line later it can make of it now. -/
lemma Wire.Allows.of_isLater {w w' : Wire} {line : Text} {answer : Except SendError Unit}
    (h : w'.Allows line part answer) (hlater : w'.IsLater w) : w.Allows line part answer := by
  rcases answer with (why | f) | _
  · exact h
  · obtain ⟨haccepted, hf, hpart, hwhole⟩ := h
    exact ⟨haccepted, hlater.failures hf, hpart, fun hall => hlater.flushes.subset (hwhole hall)⟩
  · exact h

namespace Outlet

variable {o : Outlet} {line : Text}

lemma put_cases (o : Outlet) (piece : Bytes) :
    (∃ w, w.IsLater o.wire ∧ o.put piece = (⟨o.sent ++ piece, w⟩, none)) ∨
    ∃ part w f, w.IsLater o.wire ∧ o.put piece = (⟨o.sent ++ part, w⟩, some f) ∧
      part <+: piece ∧ part ≠ piece ∧ f ∈ o.wire.failures := by
  rw [put]
  rcases writeAll_cases o.wire.writes piece with
    ⟨later, hlater, hrest⟩ | ⟨part, later, f, hlater, hrest, hpart, hless, hf⟩
  · rw [hrest]
    exact .inl ⟨⟨later, o.wire.flushes⟩, ⟨hlater, List.suffix_rfl⟩, rfl⟩
  · rw [hrest]
    exact .inr ⟨part, ⟨later, o.wire.flushes⟩, f, ⟨hlater, List.suffix_rfl⟩, rfl, hpart, hless,
      List.mem_append_left _ hf⟩

lemma flush_cases (o : Outlet) : ∃ w answer, w.IsLater o.wire ∧ o.flush = (⟨o.sent, w⟩, answer) ∧
    ∀ f ∈ answer, some f ∈ o.wire.flushes := by
  rw [flush]
  split
  · exact ⟨o.wire, none, .refl _, rfl, by simp⟩
  · next answer flushes hflushes =>
    refine ⟨⟨o.wire.writes, flushes⟩, answer, ⟨List.suffix_rfl, ?_⟩, rfl, ?_⟩
    · rw [hflushes]
      exact List.suffix_cons answer flushes
    · rintro f rfl
      rw [hflushes]
      exact List.mem_cons_self

/-- A line is refused, goes out with its end, or meets a failure of the connection. -/
lemma send_cases (o : Outlet) (line : Text) : ∃ part w answer, w.IsLater o.wire ∧
    o.send line = (⟨o.sent ++ part, w⟩, answer) ∧ o.wire.Allows line part answer := by
  rw [send]
  cases hrefused : refusal? line with
  | some why =>
    exact ⟨[], o.wire, .error (.refused why), .refl _, by rw [List.append_nil], hrefused, rfl⟩
  | none =>
    dsimp only
    have hframe : Utf8.encode (line ++ lineEnd) = Utf8.encode line ++ Utf8.encode lineEnd :=
      Utf8.encode_append line lineEnd
    rcases put_cases o (Utf8.encode line) with
      ⟨w, hw, hline⟩ | ⟨part, w, f, hw, hline, hpart, hless, hf⟩
    · rw [hline]
      dsimp only
      rcases put_cases ⟨o.sent ++ Utf8.encode line, w⟩ (Utf8.encode lineEnd) with
        ⟨w', hw', hend⟩ | ⟨part, w', f, hw', hend, hpart, hless, hf⟩
      · rw [hend]
        dsimp only
        obtain ⟨w'', answer, hw'', hflush, hanswer⟩ :=
          flush_cases ⟨o.sent ++ Utf8.encode line ++ Utf8.encode lineEnd, w'⟩
        rw [hflush, List.append_assoc, ← hframe]
        have hlater := hw'.trans hw
        cases answer with
        | none => exact ⟨_, w'', _, hw''.trans hlater, rfl, hrefused, rfl⟩
        | some f =>
          have hfails : some f ∈ o.wire.flushes := hlater.flushes.subset (hanswer f rfl)
          refine ⟨_, w'', _, hw''.trans hlater, rfl, hrefused, ?_, List.prefix_rfl, fun _ => hfails⟩
          exact List.mem_append_right _ (List.reduceOption_mem_iff.2 hfails)
      · rw [hend, List.append_assoc]
        refine ⟨_, w', _, hw'.trans hw, rfl, hrefused, hw.failures hf, ?_, fun hwhole => ?_⟩
        · rw [hframe]
          exact (List.prefix_append_right_inj _).2 hpart
        · rw [hframe] at hwhole
          exact absurd (List.append_cancel_left hwhole) hless
    · rw [hline]
      refine ⟨part, w, _, hw, rfl, hrefused, hf, ?_, fun hwhole => ?_⟩
      · rw [hframe]
        exact hpart.trans (List.prefix_append _ _)
      · -- what goes out is less than the line, and so less than the frame
        have hlength : part.length = (Utf8.encode line).length + (Utf8.encode lineEnd).length := by
          rw [← List.length_append, ← hframe, ← hwhole]
        exact absurd (hpart.eq_of_length_le (by omega)) hless

/-- A connection that never fails takes the frame of every line, and only a refusal is an error. -/
lemma send_of_isReliable (h : o.wire.isReliable = true) (line : Text) :
    ∃ wire, wire.isReliable = true ∧ o.send line = (⟨o.sent ++ Utf8.encode (frame line), wire⟩,
      match refusal? line with
      | some why => .error (.refused why)
      | none => .ok ()) := by
  have hnone := Wire.failures_eq_nil h
  obtain ⟨part, w, answer, hlater, hsend, hallows⟩ := o.send_cases line
  have hless := hlater.failures
  rw [hnone, List.subset_nil] at hless
  refine ⟨w, decide_eq_true hless, ?_⟩
  rw [hsend, frame]
  rcases answer with (why | f) | _
  · obtain ⟨hrefused, rfl⟩ := hallows
    rw [hrefused]
    rfl
  · have hf : f ∈ o.wire.failures := hallows.2.1
    rw [hnone] at hf
    cases hf
  · obtain ⟨haccepted, rfl⟩ := hallows
    rw [haccepted]

end Outlet
end ChatLink
