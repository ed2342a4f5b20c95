/-
# Frames that fit in a line

A network may claim any length for its nicks and for our host, and the room for a segment is
worked out from these claims.  However large or small they are, a segment keeps within its room,
so a frame fits in a line; and where the claims leave more than the least room, the frame still
fits once the network has put the sender in front of it.  Main statement: `frames_fit`.
-/
import Mathlib
import ChatLink.Config.Validate
import ChatLink.Outbox.Draft
import ChatLink.Proofs.Message.Relayed
import ChatLink.Proofs.Outbox.Segments

namespace ChatLink

/-! ### Segments keep within their room -/

namespace Split

variable {budget room later : Nat} {text p s : Text} {ps qs : List Text}

/-- The first of some parts is within its room, and all the others are within theirs. -/
def Fits (room later : Nat) : List Text → Prop
  | [] => True
  | p :: ps => p.byteLength ≤ room ∧ ∀ q ∈ ps, q.byteLength ≤ later

lemma Fits.forall_le (h : Fits room later ps) (hroom : later ≤ room) :
    ∀ p ∈ ps, p.byteLength ≤ room := by
  cases ps with
  | nil => simp
  | cons p ps =>
    obtain ⟨hp, hps⟩ := h
    intro q hq
    rcases List.mem_cons.1 hq with rfl | hq
    · exact hp
    · exact (hps q hq).trans hroom

lemma Fits.append (h : Fits room later ps) (hqs : ∀ q ∈ qs, q.byteLength ≤ later)
    (hroom : later ≤ room) : Fits room later (ps ++ qs) := by
  cases ps with
  | nil =>
    cases qs with
    | nil => trivial
    | cons q qs =>
      rw [List.forall_mem_cons] at hqs
      exact ⟨hqs.1.trans hroom, hqs.2⟩
  | cons p ps =>
    obtain ⟨hp, hps⟩ := h
    exact ⟨hp, List.forall_mem_append.2 ⟨hps, hqs⟩⟩

/-- A room that takes every single character is never exceeded. -/
lemma fits_cut (hlater : 4 ≤ later) (hroom : later ≤ room) (p : Text) :
    Fits room later (cut room later p) := by
  induction room, p using cut.induct later with
  | case1 room =>
    rw [cut]
    trivial
  | case2 room c t taken ih =>
    have hc : c.utf8Size ≤ 4 := Char.utf8Size_le_four c
    have htaken := Text.byteLength_splitBytes_le (room - c.utf8Size) t
    rw [cut]
    refine ⟨?_, (ih le_rfl).forall_le le_rfl⟩
    rw [Text.byteLength_cons]
    omega

lemma fits_cutAll (hlater : 4 ≤ later) (hroom : later ≤ room) (ps : List Text) :
    Fits room later (cutAll room later ps) := by
  induction ps generalizing room with
  | nil => trivial
  | cons p ps ih => exact (fits_cut hlater hroom p).append ((ih le_rfl).forall_le le_rfl) hroom

lemma byteLength_mark_le (h : Fits budget (budget - marker.byteLength) ps)
    (hmarker : marker.byteLength ≤ budget) (hs : s ∈ mark ps) : s.byteLength ≤ budget := by
  cases ps with
  | nil => cases hs
  | cons p ps =>
    obtain ⟨hp, hps⟩ := h
    rcases List.mem_cons.1 hs with rfl | hs
    · exact hp
    · obtain ⟨q, hq, rfl⟩ := List.mem_map.1 hs
      have hle := hps q hq
      rw [Text.byteLength_append]
      omega

/-- A segment keeps within the budget, or within the least one if that is larger. -/
lemma byteLength_le_of_mem_segments (hs : s ∈ segments budget text) :
    s.byteLength ≤ max budget minBudget := by
  have hmarker : marker.byteLength = 2 := by decide
  have hmin : minBudget = 6 := by decide
  have hlater : 4 ≤ max budget minBudget - marker.byteLength := by omega
  exact byteLength_mark_le (fits_cutAll hlater (Nat.sub_le _ _) (pieces text)) (by omega) hs

end Split

/-! ### What the network tells -/

/-- What a network tells about the length of senders. -/
inductive Lesson where
  /-- The longest nick. -/
  | maxNick (len : Nat)
  /-- The length of our user and host. -/
  | userHost (len : Nat)

namespace Lesson

def maxNick? : Lesson → Option Nat
  | maxNick len => some len
  | userHost _ => none

def userHost? : Lesson → Option Nat
  | maxNick _ => none
  | userHost len => some len

end Lesson

namespace Limits

def learn (l : Limits) : Lesson → Limits
  | .maxNick len => l.setMaxNick len
  | .userHost len => l.setUserHost len

/-- The limits after a sequence of lessons. -/
def learned (lessons : List Lesson) : Limits := lessons.foldl learn initial

variable {lessons : List Lesson} {lesson : Lesson} {before after : Nat}

lemma learned_concat : learned (lessons ++ [lesson]) = (learned lessons).learn lesson := by
  rw [learned, List.foldl_append, List.foldl_cons, List.foldl_nil, learned]

/-- The last lesson about nicks holds, unless it names less than the least limit. -/
lemma maxNick_learned (lessons : List Lesson) : (learned lessons).maxNick =
    ((lessons.filterMap Lesson.maxNick?).getLast?.map (max · minMaxNick)).getD
      defaultMaxNick := by
  induction lessons using List.reverseRecOn with
  | nil => rfl
  | append_singleton lessons lesson ih =>
    rw [learned_concat]
    cases lesson with
    | maxNick len => simp [learn, Lesson.maxNick?]
    | userHost len => simpa [learn, Lesson.maxNick?] using ih

/-- The last lesson about our user and host holds. -/
lemma userHost_learned (lessons : List Lesson) : (learned lessons).userHost =
    (lessons.filterMap Lesson.userHost?).getLast?.getD defaultUserHost := by
  induction lessons using List.reverseRecOn with
  | nil => rfl
  | append_singleton lessons lesson ih =>
    rw [learned_concat]
    cases lesson with
    | maxNick len => simpa [learn, Lesson.userHost?] using ih
    | userHost len => simp [learn, Lesson.userHost?]

/-! ### Budgets -/

/-- Taking away one length after the other, never below zero, comes to the difference itself,
since the budget is never below the least room anyhow. -/
lemma budget_eq (l : Limits) (before after : Nat) : (l.budget before after : ℤ) =
    max (minContent : ℤ) (maxLine - before - after - l.userHost - senderOverhead - l.maxNick) := by
  rw [budget]
  omega

lemma minContent_le_budget (l : Limits) (before after : Nat) :
    minContent ≤ l.budget before after := le_max_left _ _

lemma add_budget_le (l : Limits) (h : before + after + minContent ≤ maxLine) :
    before + l.budget before after + after ≤ maxLine := by
  rw [budget]
  omega

lemma add_budget_eq (l : Limits)
    (h : before + after + l.userHost + senderOverhead + l.maxNick + minContent ≤ maxLine) :
    l.userHost + senderOverhead + l.maxNick + (before + l.budget before after + after) =
      maxLine := by
  rw [budget]
  omega

end Limits

/-! ### Frames -/

namespace Draft

variable {d : Draft} {l : Limits} {target text line : Text}

lemma byteLength_le_of_mem_frames (h : line ∈ d.frames l) : line.byteLength ≤
    d.opening.byteLength + d.budget l + d.closing.byteLength := by
  obtain ⟨s, hs, rfl⟩ := List.mem_map.1 h
  have hsegment := Split.byteLength_le_of_mem_segments hs
  have hleast : Split.minBudget ≤ d.budget l :=
    le_trans (by decide) (l.minContent_le_budget _ _)
  rw [Text.byteLength_append, Text.byteLength_append]
  omega

lemma byteLength_opening_message :
    (message target text).opening.byteLength = target.byteLength + 10 := by
  rw [message, Command.byteLength_message, Text.byteLength_nil]

lemma byteLength_opening_action :
    (action target text).opening.byteLength = target.byteLength + 18 := by
  have hopen : Text.byteLength actionOpen = 8 := by decide
  rw [action, Command.byteLength_message, hopen]

/-- What stands around a segment leaves the least room for it. -/
lemma byteLength_around_le (h : target.byteLength ≤ maxChannel)
    (hd : d ∈ [message target text, action target text]) :
    d.opening.byteLength + d.closing.byteLength + minContent ≤ maxLine := by
  have hroom : maxChannel + 19 + minContent ≤ maxLine := by decide
  rw [List.mem_cons, List.mem_singleton] at hd
  rcases hd with rfl | rfl
  · have hclosing : (message target text).closing.byteLength = 0 := rfl
    rw [byteLength_opening_message]
    omega
  · have hclosing : (action target text).closing.byteLength = 1 := rfl
    rw [byteLength_opening_action]
    omega

end Draft

/-- A line as others receive it, from a user whose user name and host are one text. -/
def passedOn (nick userHost line : Text) : Text := ':' :: (nick ++ '!' :: (userHost ++ ' ' :: line))

lemma byteLength_passedOn (nick userHost line : Text) : (passedOn nick userHost line).byteLength =
    nick.byteLength + userHost.byteLength + senderOverhead + line.byteLength := by
  have hoverhead : senderOverhead = ':'.utf8Size + '!'.utf8Size + ' '.utf8Size := by decide
  simp only [passedOn, Text.byteLength_cons, Text.byteLength_append]
  omega

/-- **Frames fit in a line.**  Let the network tell whatever it likes about the length of senders,
as often as it likes; what it told last holds, a nick counting for nine bytes at least.  The room
for a segment is what the fixed bytes and the longest sender leave of a line, and sixty-four bytes
at least.  Every frame of a text for a channel fits in a line, said or done; and if the room was
not raised to the least, every frame fits in a line together with any sender within the limits. -/
theorem frames_fit (lessons : List Lesson) (target text : Text)
    (htarget : target.byteLength ≤ maxChannel) :
    let l := Limits.learned lessons
    l.maxNick = ((lessons.filterMap Lesson.maxNick?).getLast?.map (max · minMaxNick)).getD
        defaultMaxNick ∧
      l.userHost = (lessons.filterMap Lesson.userHost?).getLast?.getD defaultUserHost ∧
      (∀ before after : Nat, (l.budget before after : ℤ) = max (minContent : ℤ)
        (maxLine - before - after - l.userHost - senderOverhead - l.maxNick)) ∧
      ∀ d ∈ [Draft.message target text, Draft.action target text], ∀ line ∈ d.frames l,
        line.byteLength ≤ maxLine ∧
        (d.opening.byteLength + d.closing.byteLength + l.userHost + senderOverhead + l.maxNick +
            minContent ≤ maxLine →
          ∀ nick userHost : Text, nick.byteLength ≤ l.maxNick →
            userHost.byteLength ≤ l.userHost →
              (passedOn nick userHost line).byteLength ≤ maxLine) := by
  intro l
  refine ⟨Limits.maxNick_learned lessons, Limits.userHost_learned lessons, l.budget_eq, ?_⟩
  intro d hd line hline
  have hframe := Draft.byteLength_le_of_mem_frames hline
  constructor
  · exact hframe.trans (l.add_budget_le (Draft.byteLength_around_le htarget hd))
  · intro hroom nick userHost hnick huserHost
    have hbudget := l.add_budget_eq hroom
    rw [Draft.budget] at hframe
    rw [byteLength_passedOn]
    omega

/-- A network that names an absurd limit first and then one of sixteen bytes: the frames of an
action leave room for a sender of that length. -/
theorem frames_fit_after_lessons :
    let l := Limits.learned [.maxNick 0xFFFFFFFFFFFFFFFF, .userHost 0, .maxNick 16, .userHost 20]
    let d := Draft.action "#müll" "räumt auf\n♥ ♥ ♥"
    Text.byteLength "#müll" ≤ maxChannel ∧ l.maxNick = 16 ∧ l.userHost = 20 ∧ d.frames l ≠ [] ∧
      ∀ line ∈ d.frames l, line.byteLength ≤ maxLine ∧
        (passedOn "Quartermaster_16" "~quarter@example.org" line).byteLength ≤ maxLine := by
  intro l d
  have hfit := frames_fit [.maxNick 0xFFFFFFFFFFFFFFFF, .userHost 0, .maxNick 16, .userHost 20]
    "#müll" "räumt auf\n♥ ♥ ♥" (by decide)
  refine ⟨by decide, rfl, rfl, ?_, ?_⟩
  · rw [ne_eq, Draft.frames_eq_nil_iff]
    decide
  · intro line hline
    obtain ⟨hframe, hsender⟩ := hfit.2.2.2 d (by simp [d]) line hline
    exact ⟨hframe, hsender (by decide) _ _ (by decide) (by decide)⟩

end ChatLink
