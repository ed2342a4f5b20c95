/-
# From one end of a wire to the other

What one side writes the other side reads.  A line is accepted exactly if it fits in a frame and
holds no line break, and a line that is not accepted leaves no trace on the wire.  However the wire
cuts the bytes into reads, the reader hands out the lines that were accepted: the same characters,
in the same order.  Main statement: `sendAll_readBack`.
-/
import Mathlib
import ChatLink.Proofs.Text.Utf8
import ChatLink.Proofs.Wire.Frames
import ChatLink.Proofs.Wire.Lines

namespace ChatLink

/-- A line that can be sent. -/
def Text.isSendable (line : Text) : Bool :=
  line.byteLength ≤ maxLine && !line.contains '\r' && !line.contains '\n'

namespace Text

variable {line : Text}

lemma isUnbroken_iff : line.IsUnbroken ↔ '\r' ∉ line ∧ '\n' ∉ line := by
  constructor
  · intro h
    exact ⟨fun hmem => absurd (h _ hmem) (by decide), fun hmem => absurd (h _ hmem) (by decide)⟩
  · rintro ⟨hreturn, hfeed⟩ c hc
    rw [isLineBreak, Bool.or_eq_false_iff, beq_eq_false_iff_ne, beq_eq_false_iff_ne]
    exact ⟨ne_of_mem_of_not_mem hc hreturn, ne_of_mem_of_not_mem hc hfeed⟩

lemma isSendable_iff_refusal? : line.isSendable = true ↔ refusal? line = none := by
  rw [refusal?_eq_none_iff, isUnbroken_iff, isSendable]
  simp only [Bool.and_eq_true, decide_eq_true_eq, Bool.not_eq_true', List.contains_eq_mem,
    decide_eq_false_iff_not, and_assoc]

lemma isUnbroken_of_isSendable (h : line.isSendable = true) : line.IsUnbroken :=
  (refusal?_eq_none_iff.1 (isSendable_iff_refusal?.1 h)).2

lemma byteLength_le_of_isSendable (h : line.isSendable = true) : line.byteLength ≤ maxLine :=
  (refusal?_eq_none_iff.1 (isSendable_iff_refusal?.1 h)).1

end Text

/-! ### Writing -/

section Writing

variable {line : Text} {lines : List Text}

lemma frame_of_isSendable (h : line.isSendable = true) : frame line = line ++ lineEnd := by
  rw [frame, Text.isSendable_iff_refusal?.1 h]

lemma frame_of_not_isSendable (h : ¬ line.isSendable = true) : frame line = [] := by
  rw [Text.isSendable_iff_refusal?, ← ne_eq, Option.ne_none_iff_exists'] at h
  obtain ⟨why, hwhy⟩ := h
  rw [frame, hwhy]

/-- Only lines that can be sent are seen on the wire. -/
lemma flatMap_frame (lines : List Text) :
    lines.flatMap frame = (lines.filter Text.isSendable).flatMap (· ++ lineEnd) := by
  induction lines with
  | nil => rfl
  | cons line lines ih =>
    rw [List.flatMap_cons, ih]
    by_cases h : line.isSendable = true
    · rw [List.filter_cons_of_pos h, List.flatMap_cons, frame_of_isSendable h]
    · rw [List.filter_cons_of_neg h, frame_of_not_isSendable h, List.nil_append]

namespace Outlet

variable {o : Outlet}

/-- Lines are written one after the other; the answers are in their order. -/
def sendAll (o : Outlet) : List Text → Outlet × List (Except SendError Unit)
  | [] => (o, [])
  | line :: lines =>
    let (o, answer) := o.send line
    let (o, answers) := o.sendAll lines
    (o, answer :: answers)

/-- A line is accepted exactly if it can be sent. -/
lemma accepts_iff (h : o.wire.isReliable = true) (line : Text) :
    (o.send line).2 = .ok () ↔ line.isSendable = true := by
  obtain ⟨wire, -, hsend⟩ := send_of_isReliable h line
  rw [hsend, Text.isSendable_iff_refusal?]
  cases refusal? line with
  | some why => simp
  | none => simp

lemma sendAll_of_isReliable (h : o.wire.isReliable = true) (lines : List Text) :
    (o.sendAll lines).1.sent = o.sent ++ Utf8.encode (lines.flatMap frame) ∧
      List.Forall₂ (fun line answer => answer = .ok () ↔ line.isSendable = true) lines
        (o.sendAll lines).2 := by
  induction lines generalizing o with
  | nil => exact ⟨by rw [List.flatMap_nil, Utf8.encode_nil, List.append_nil]; rfl, .nil⟩
  | cons line lines ih =>
    obtain ⟨wire, hreliable, hsend⟩ := send_of_isReliable h line
    have hrest : (o.send line).1 = ⟨o.sent ++ Utf8.encode (frame line), wire⟩ := by rw [hsend]
    obtain ⟨hwire, hanswers⟩ := ih (o := (o.send line).1) (by rw [hrest]; exact hreliable)
    refine ⟨?_, .cons (accepts_iff h line) hanswers⟩
    show ((o.send line).1.sendAll lines).1.sent = _
    rw [hwire, hrest, List.flatMap_cons, Utf8.encode_append, List.append_assoc]

end Outlet
end Writing

/-! ### Reading -/

namespace Inlet

variable {line rest : Bytes} {t : Text} {lines : List Text}

/-- The lines that a reader makes of the bytes on a wire. -/
def received (bs : Bytes) : List Text := (Inlet.lines bs).map lineText

lemma Short.append_cons (h : lineFeed ∉ line) (hline : line.length ≤ maxInbound)
    (hrest : Short rest) : Short (line ++ lineFeed :: rest) := by
  intro run hrun
  rw [stretches_append_cons h] at hrun
  rcases List.mem_cons.1 hrun with rfl | hrun
  · exact hline
  · exact hrest run hrun

/-- The bytes of a line that can be sent, up to the line feed that ends it. -/
lemma lineFeed_not_mem (h : t.isSendable = true) :
    lineFeed ∉ Utf8.encode t ++ [carriageReturn] := by
  intro hmem
  rw [List.mem_append] at hmem
  rcases hmem with hmem | hmem
  · -- a line feed among the bytes would be one among the characters
    have hfeed : '\n' ∈ t := Utf8.ofNat_mem_of_mem_encode (by decide) hmem
    exact (Text.isUnbroken_iff.1 (Text.isUnbroken_of_isSendable h)).2 hfeed
  · exact absurd hmem (by decide)

lemma encode_flatMap_cons (line : Text) (lines : List Text) :
    Utf8.encode ((line :: lines).flatMap (· ++ lineEnd)) =
      (Utf8.encode line ++ [carriageReturn]) ++
        lineFeed :: Utf8.encode (lines.flatMap (· ++ lineEnd)) := by
  have hend : Utf8.encode lineEnd = [carriageReturn, lineFeed] := by decide
  rw [List.flatMap_cons, Utf8.encode_append, Utf8.encode_append, hend]
  simp only [List.append_assoc, List.cons_append, List.nil_append]

/-- Lines that can be sent come out as they went in. -/
lemma map_lineText_lines (h : ∀ line ∈ lines, line.isSendable = true) :
    (Inlet.lines (Utf8.encode (lines.flatMap (· ++ lineEnd)))).map lineText = lines := by
  induction lines with
  | nil => rfl
  | cons line lines ih =>
    rw [List.forall_mem_cons] at h
    rw [encode_flatMap_cons, lines_append_cons (lineFeed_not_mem h.1), List.map_cons,
      lineText_append_carriageReturn, Utf8.decode_encode, ih h.2]

/-- No run between line feeds is longer than a line may be. -/
lemma short_encode (h : ∀ line ∈ lines, line.isSendable = true) :
    Short (Utf8.encode (lines.flatMap (· ++ lineEnd))) := by
  induction lines with
  | nil => unfold Short; decide
  | cons line lines ih =>
    rw [List.forall_mem_cons] at h
    rw [encode_flatMap_cons]
    refine Short.append_cons (lineFeed_not_mem h.1) ?_ (ih h.2)
    have hlength := Text.byteLength_le_of_isSendable h.1
    calc (Utf8.encode line ++ [carriageReturn]).length
        = line.byteLength + 1 := by rw [List.length_append, Utf8.length_encode]; rfl
      _ ≤ maxLine + 1 := Nat.add_le_add_right hlength 1
      _ ≤ maxInbound := by decide

/-- What is received of lines that were written are those that can be sent. -/
lemma received_flatMap_frame (lines : List Text) :
    received (Utf8.encode (lines.flatMap frame)) = lines.filter Text.isSendable := by
  rw [received, flatMap_frame, map_lineText_lines fun line hline => (List.mem_filter.1 hline).2]

end Inlet

/-! ### Both ends -/

/-- **What is written is read.**  Lines are written one after the other over a connection that does
not fail, though it may take less than it is given at once.  Each is accepted exactly if it has at most
510 bytes and holds neither of the two characters of a line end, and the wire holds the lines that were
accepted, each with its end, and nothing of the others.  However the wire cuts these bytes into reads,
with time-outs and interruptions anywhere, the reader hands out exactly the lines that were accepted, in
order and unchanged, reports each time-out once, and then the end. -/
theorem sendAll_readBack {w : Wire} (h : w.isReliable = true) (lines : List Text) :
    let o := ((⟨[], w⟩ : Outlet).sendAll lines).1
    let accepted := lines.filter Text.isSendable
    (∀ line : Text, line.isSendable = true ↔
      line.byteLength ≤ 510 ∧ '\r' ∉ line ∧ '\n' ∉ line) ∧
    List.Forall₂ (fun line answer => answer = .ok () ↔ line.isSendable = true) lines
      ((⟨[], w⟩ : Outlet).sendAll lines).2 ∧
    o.sent = Utf8.encode (accepted.flatMap (· ++ lineEnd)) ∧
    ∀ source : List Read, (∀ read ∈ source, read.Works) → Inlet.stream source = o.sent →
      ∃ results, Inlet.Yields ⟨[], source⟩ results ∧ results.reduceOption = accepted ∧
        results.count none = source.count .notYet := by
  intro o accepted
  obtain ⟨hwire, hanswers⟩ := Outlet.sendAll_of_isReliable (o := ⟨[], w⟩) h lines
  have haccepted : ∀ line ∈ accepted, line.isSendable = true :=
    fun line hline => (List.mem_filter.1 hline).2
  have hsent : o.sent = Utf8.encode (accepted.flatMap (· ++ lineEnd)) := by
    show ((⟨[], w⟩ : Outlet).sendAll lines).1.sent = _
    rw [hwire, flatMap_frame]
    rfl
  refine ⟨fun line => ?_, hanswers, hsent, fun source hworks hstream => ?_⟩
  · rw [Text.isSendable_iff_refusal?, refusal?_eq_none_iff, Text.isUnbroken_iff]
    rfl
  · rw [hsent] at hstream
    have hremaining : Inlet.remaining ⟨[], source⟩ =
        Utf8.encode (accepted.flatMap (· ++ lineEnd)) := hstream
    obtain ⟨results, hyields, hlines, hcount⟩ := Inlet.faithful hworks []
      (by rw [hremaining]; exact Inlet.short_encode haccepted)
    refine ⟨results, hyields, ?_, hcount⟩
    rw [hlines, hremaining, Inlet.map_lineText_lines haccepted]

/-- An empty line, one that is refused between two others, a connection that takes a byte at a time
and is interrupted, and cuts inside of a character and of a line end. -/
theorem sendAll_readBack_cut_stream :
    let w : Wire := ⟨[.takes 1, .fails ⟨.interrupted, "interrupted"⟩, .takes 1, .takes 7, .takes 1], []⟩
    let lines : List Text := ["", "PING :é", "a\nQUIT", "b "]
    let source : List Read := [.bytes [13], .notYet, .bytes [10, 80, 73, 78, 71, 32, 58, 195],
      .interrupted, .bytes [169, 13, 10, 98], .notYet, .bytes [32, 13, 10]]
    w.isReliable = true ∧ (∀ read ∈ source, read.Works) ∧
      Inlet.stream source = ((⟨[], w⟩ : Outlet).sendAll lines).1.sent ∧
      ∃ results, Inlet.Yields ⟨[], source⟩ results ∧
        results.reduceOption = ["", "PING :é", "b "] ∧ results.count none = 2 := by
  intro w lines source
  have hreliable : w.isReliable = true := by decide
  have hworks : ∀ read ∈ source, read.Works := by simp [source, Read.Works]
  have hstream : Inlet.stream source = ((⟨[], w⟩ : Outlet).sendAll lines).1.sent := by decide
  exact ⟨hreliable, hworks, hstream,
    (sendAll_readBack hreliable lines).2.2.2 source hworks hstream⟩

end ChatLink
