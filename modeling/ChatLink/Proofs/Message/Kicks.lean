/-
# Lines that put someone out of a channel

Such a line names the channel and whoever has to leave it as its first two parameters, and both are
looked for by counting the words between single spaces.  If none of these words is empty up to there,
they are the tokens of the line, so both are found, whatever comes behind them.  Main statement:
`Kicks.message`.
-/
import Mathlib
import ChatLink.Proofs.Message.Traffic
import ChatLink.Proofs.Message.Words

namespace ChatLink

namespace Tokens

variable {rest w x u : Text} {ws : List Text} {n : Nat}

/-- If none of the words between single spaces is empty up to some place, they are the words up to
there. -/
lemma take_words (h : [] ∉ (Text.splitOn ' ' rest).take n) :
    (words rest).take n = (Text.splitOn ' ' rest).take n := by
  rw [words]
  generalize Text.splitOn ' ' rest = parts at h
  induction parts generalizing n with
  | nil => rfl
  | cons part parts ih =>
    cases n with
    | zero => rfl
    | succ n =>
      rw [List.take_succ_cons, List.mem_cons, not_or] at h
      rw [List.filter_cons_of_pos (by simpa using Ne.symm h.1), List.take_succ_cons,
        List.take_succ_cons, ih h.2]

lemma exists_splitOn_append (t : Text) (hu : EndsWord u) :
    ∃ parts, Text.splitOn ' ' (t ++ u) = Text.splitOn ' ' t ++ parts := by
  rcases hu with rfl | ⟨u, rfl⟩
  · exact ⟨[], by rw [List.append_nil, List.append_nil]⟩
  · refine ⟨Text.splitOn ' ' u, ?_⟩
    simp only [Text.splitOn_eq_splitOn]
    exact List.splitOn_append_cons_self t u

/-- In front of the trailing text no space has a colon behind it. -/
lemma cutTrailing_ne (rest before after : Text) :
    (cutTrailing rest).1 ≠ before ++ ' ' :: ':' :: after := by
  induction rest using cutTrailing.induct generalizing before with
  | case1 | case2 => simp [cutTrailing]
  | case3 c rest hc _ _ _ ih =>
    rw [cutTrailing.eq_3 c rest hc]
    intro h
    cases before with
    | nil =>
      obtain ⟨rfl, hhead⟩ := List.cons.inj h
      obtain ⟨u, -, hrest, -⟩ := exists_cutTrailing rest
      exact hc _ rfl (hrest.trans (by rw [hhead]; rfl))
    | cons d before => exact ih before (List.cons.inj h).2

/-- The first parameter has no colon in front. -/
lemma head?_ne_of_words (h : words (cutTrailing rest).1 = w :: x :: ws) : x.head? ≠ some ':' := by
  obtain ⟨before, u, hhead, -, hu, hwords⟩ := exists_of_words_eq_cons h
  obtain ⟨gap, v, rfl, hx, -, -⟩ := exists_of_words_eq_cons hwords
  obtain ⟨gap, rfl⟩ := Nat.exists_eq_add_one.2 (gap_pos hx hu)
  intro hcolon
  obtain ⟨x, rfl⟩ := List.head?_eq_some_iff.1 hcolon
  refine cutTrailing_ne rest (spaces before ++ w ++ spaces gap) (x ++ v) (hhead.trans ?_)
  simp [spaces, List.replicate_succ']

/-- The command and the first two parameters are the words in front of which there is none empty. -/
lemma exists_splitOn (hwords : words (cutTrailing rest).1 = w :: x :: u :: ws)
    (htight : [] ∉ (Text.splitOn ' ' rest).take 3) :
    ∃ parts, Text.splitOn ' ' rest = w :: x :: u :: parts := by
  obtain ⟨tail, htail, hrest, -⟩ := exists_cutTrailing rest
  obtain ⟨parts, hparts⟩ := exists_splitOn_append (cutTrailing rest).1 htail
  rw [← hrest] at hparts
  have hlength : 3 ≤ (Text.splitOn ' ' (cutTrailing rest).1).length := by
    have hle := List.length_filter_le (· ≠ []) (Text.splitOn ' ' (cutTrailing rest).1)
    rw [← words, hwords] at hle
    simp only [List.length_cons] at hle
    omega
  have htake : (Text.splitOn ' ' rest).take 3 = [w, x, u] := by
    rw [hparts, List.take_append_of_le_length hlength] at htight ⊢
    rw [← take_words htight, hwords]
    rfl
  refine ⟨(Text.splitOn ' ' rest).drop 3, ?_⟩
  rw [← List.take_append_drop 3 (Text.splitOn ' ' rest), htake]
  simp

end Tokens

variable {own line channel kicked : Text}

/-- Whoever puts someone out of a channel is named in the line. -/
lemma Kind.sender_of_kick {t : Tokens} (h : Kind.ofLine own line = .kick)
    (htokens : Tokens.ofText? line = some t) : t.sender.isSome = true := by
  obtain ⟨t', rule, htokens', hrule⟩ := Kind.exists_rule h (by decide)
  obtain rfl : t = t' := Option.some.inj (htokens.symm.trans htokens')
  have honly : ∀ rule ∈ Rule.table, Kind.kick ∈ rule.kinds → rule = .kick := by decide
  obtain rfl := honly rule rule.mem_table (Rule.mem_kinds hrule)
  obtain ⟨hcond, -⟩ := Rule.whenTrue_eq_some hrule
  rw [Bool.and_eq_true, Tokens.isCommand, Bool.and_eq_true] at hcond
  exact hcond.1.1

/-- A line that puts someone out of a channel, with single spaces between its tokens up to there. -/
structure Kicks (own line channel kicked : Text) : Prop where
  kind : Kind.ofLine own line = .kick
  params : ∃ t more, Tokens.ofText? line = some t ∧ t.params = channel :: kicked :: more
  /-- A second space would make an empty word. -/
  tight : [] ∉ (Text.splitOn ' ' line).take 4

/-- **What a session reads in such a line**: it is told of the channel and of whoever has to leave
it. -/
lemma Kicks.message (h : Kicks own line channel kicked) :
    (Message.ofLine own line).replyCode = none ∧ (Message.ofLine own line).kind = .kick ∧
      (Message.ofLine own line).channel = some channel ∧
      (Message.ofLine own line).word? 3 = some kicked := by
  obtain ⟨t, more, htokens, hparams⟩ := h.params
  obtain ⟨sender, hsender⟩ := Option.isSome_iff_exists.1 (Kind.sender_of_kick h.kind htokens)
  obtain ⟨rest, hline, hspace, hwords, -⟩ := Tokens.exists_of_ofText? htokens
  rw [hsender] at hline hspace
  rw [hparams] at hwords
  have hsplit : Text.splitOn ' ' line = (':' :: sender) :: Text.splitOn ' ' rest := by
    have hlead : ' ' ∉ ':' :: sender := by simp [hspace sender rfl]
    rw [hline, ← Text.splitOn_append_cons hlead]
    simp [Tokens.openSender]
  have htight := h.tight
  rw [hsplit, List.take_succ_cons, List.mem_cons, not_or] at htight
  obtain ⟨parts, hparts⟩ := Tokens.exists_splitOn hwords htight.2
  have hchannel : wordAt? line 2 = some channel := by rw [wordAt?, hsplit, hparts]; rfl
  have hne : channel ≠ [] := by
    rintro rfl
    exact htight.2 (by rw [hparts]; simp)
  refine ⟨Message.replyCode_of_isTraffic (congrArg Kind.isTraffic h.kind), h.kind, ?_, ?_⟩
  · show channelOf (Kind.ofLine own line) line = some channel
    rw [h.kind, channelOf_of_wordAt? rfl hchannel (Tokens.head?_ne_of_words hwords), if_neg hne]
  · show wordAt? line 3 = some kicked
    rw [wordAt?, hsplit, hparts]
    rfl

end ChatLink
