/-
# Nicks of a valid configuration

The first session wants the nick of the configuration, every other one the same with its number.
Only the nick of the last session is checked for its length: no other has a longer number.  So all
the nicks are right if that one is, no two of them are the same, and no number on the way to them is
too great for a word.  Main statement: `sessionNicks_of_validate`.
-/
import Mathlib
import ChatLink.Proofs.Config.Channels
import ChatLink.Proofs.Nick.Attempts

namespace ChatLink.Config

variable {c d : Config} {i j : Nat}

/-! ### The number of a session -/

/-- What a session adds to the nick of the configuration. -/
def sessionNumber (i : Nat) : Text := if i = 0 then [] else Decimal.digits (i + 1)

lemma sessionNumber_of_pos (h : 0 < i) : sessionNumber i = Decimal.digits (i + 1) :=
  if_neg h.ne'

lemma isDigit_of_mem_sessionNumber {x : Char} (h : x ∈ sessionNumber i) : x.isDigit = true := by
  rcases i.eq_zero_or_pos with rfl | hi
  · cases h
  · rw [sessionNumber_of_pos hi] at h
    exact Decimal.isDigit_of_mem_digits h

lemma map_toLower_sessionNumber (i : Nat) :
    (sessionNumber i).map Char.toLower = sessionNumber i :=
  (List.map_congr_left fun _ hx =>
    Decimal.toLower_of_isDigit (isDigit_of_mem_sessionNumber hx)).trans (List.map_id _)

lemma byteLength_sessionNumber (i : Nat) :
    (sessionNumber i).byteLength = (sessionNumber i).length :=
  Text.byteLength_eq_length fun _ hx =>
    Decimal.utf8Size_of_isDigit (isDigit_of_mem_sessionNumber hx)

/-- The first session adds nothing, and every other one some digits. -/
lemma sessionNumber_injective : Function.Injective sessionNumber := by
  have hne : ∀ {i : Nat}, 0 < i → sessionNumber i ≠ [] := by
    intro i hi
    rw [sessionNumber_of_pos hi]
    exact List.ne_nil_of_length_pos (Decimal.length_digits_pos _)
  intro i j h
  rcases i.eq_zero_or_pos with rfl | hi
  · rcases j.eq_zero_or_pos with rfl | hj
    · rfl
    · exact absurd h.symm (hne hj)
  · rcases j.eq_zero_or_pos with rfl | hj
    · exact absurd h (hne hi)
    · rw [sessionNumber_of_pos hi, sessionNumber_of_pos hj] at h
      exact Nat.succ_injective (Decimal.digits_injective h)

lemma length_sessionNumber_mono (h : i ≤ j) :
    (sessionNumber i).length ≤ (sessionNumber j).length := by
  rcases i.eq_zero_or_pos with rfl | hi
  · exact Nat.zero_le _
  · rw [sessionNumber_of_pos hi, sessionNumber_of_pos (hi.trans_le h)]
    exact Decimal.length_digits_mono (Nat.add_le_add_right h 1)

/-! ### The nick of a session -/

lemma sessionNick_eq (c : Config) (i : Nat) : c.sessionNick i = c.nick ++ sessionNumber i := by
  rw [sessionNick, sessionNumber]
  split
  · rw [List.append_nil]
  · rfl

lemma isValid_sessionNick (h : Nick.isValid c.nick = true) (i : Nat) :
    Nick.isValid (c.sessionNick i) = true := by
  rw [sessionNick_eq]
  exact Nick.isValid_append h fun x hx => Nick.isPart_of_isDigit (isDigit_of_mem_sessionNumber hx)

/-- The number of a session is the same in either case. -/
lemma sameName_sessionNick_iff :
    Text.sameName (c.sessionNick i) (c.sessionNick j) = true ↔ i = j := by
  rw [Text.sameName, beq_iff_eq, sessionNick_eq, sessionNick_eq, List.map_append, List.map_append,
    List.append_cancel_left_eq, map_toLower_sessionNumber, map_toLower_sessionNumber,
    sessionNumber_injective.eq_iff]

/-- The last session wants the longest nick. -/
lemma byteLength_sessionNick_le (h : i ≤ j) :
    (c.sessionNick i).byteLength ≤ (c.sessionNick j).byteLength := by
  rw [sessionNick_eq, sessionNick_eq, Text.byteLength_append, Text.byteLength_append,
    byteLength_sessionNumber, byteLength_sessionNumber]
  exact Nat.add_le_add_left (length_sessionNumber_mono h) _

lemma mem_sessionNicks {nick : Text} :
    nick ∈ c.sessionNicks ↔ ∃ i < c.sessionCount, c.sessionNick i = nick := by
  rw [sessionNicks, List.mem_map]
  simp only [List.mem_range]

/-! ### Counting in words -/

/-- The nick of a session, with its number counted in a word of 64 bits.  After the greatest word
comes zero. -/
def wordNick (c : Config) (i : UInt64) : Text :=
  if i = 0 then c.nick else c.nick ++ Decimal.digits (i + 1).toNat

/-- The last session, as a word.  Before zero comes the greatest word. -/
def wordLast (c : Config) : UInt64 := UInt64.ofNat c.sessionCount - 1

lemma wordNick_eq {w : UInt64} (h : w.toNat < maxWord) : c.wordNick w = c.sessionNick w.toNat := by
  have hzero : w = 0 ↔ w.toNat = 0 := UInt64.toNat_inj.symm
  have hnext : (w + 1).toNat = w.toNat + 1 := by
    rw [UInt64.toNat_add]
    exact Nat.mod_eq_of_lt (Nat.succ_lt_succ h)
  rw [wordNick, sessionNick, hnext]
  simp only [hzero]

lemma toNat_wordLast (hpos : 0 < c.sessionCount) (h : c.sessionCount ≤ maxWord) :
    c.wordLast.toNat = c.sessionCount - 1 := by
  have hcount : (UInt64.ofNat c.sessionCount).toNat = c.sessionCount :=
    UInt64.toNat_ofNat_of_lt' (Nat.lt_succ_of_le h)
  rw [wordLast, UInt64.toNat_sub_of_le _ _ (UInt64.le_iff_toNat_le.2 (by rwa [hcount])), hcount]
  rfl

/-! ### Valid configurations -/

/-- What validation sees to in the nick and the number of sessions. -/
lemma nick_of_validate (h : c.validate = .ok d) :
    0 < d.sessionCount ∧ Nick.isValid d.nick = true ∧
      (d.sessionNick (d.sessionCount - 1)).byteLength ≤ defaultMaxNick := by
  have hproblem := problem?_of_validate h
  simp only [problem?] at hproblem
  split at hproblem
  · cases hproblem
  split at hproblem
  · cases hproblem
  split at hproblem
  · cases hproblem
  next hcount =>
  split at hproblem
  · cases hproblem
  next hvalid =>
  split at hproblem
  · cases hproblem
  next hfits =>
  exact ⟨Nat.pos_of_ne_zero hcount, by simpa using hvalid, Nat.not_lt.1 hfits⟩

lemma byteLength_sessionNick_of_validate (h : c.validate = .ok d) (hi : i < d.sessionCount) :
    (d.sessionNick i).byteLength ≤ defaultMaxNick :=
  (byteLength_sessionNick_le (Nat.le_sub_one_of_lt hi)).trans (nick_of_validate h).2.2

/-- **The nicks that the sessions of a valid configuration want.**  However many there are, no two
of them are the same in whatever case; each is valid and no longer than a network that names no
limit allows; and as long as the number of sessions is a word, counting in words gives the nick of
every session, and finds the last session to check its nick. -/
theorem sessionNicks_of_validate (h : c.validate = .ok d) :
    d.sessionNicks.Pairwise (fun s t => Text.sameName s t = false) ∧
      (∀ nick ∈ d.sessionNicks, Nick.isValid nick = true ∧ nick.byteLength ≤ defaultMaxNick) ∧
      (d.sessionCount ≤ maxWord →
        (∀ w : UInt64, w.toNat < d.sessionCount → d.wordNick w = d.sessionNick w.toNat) ∧
          d.wordLast.toNat = d.sessionCount - 1) := by
  obtain ⟨hpos, hvalid, -⟩ := nick_of_validate h
  refine ⟨?_, ?_, fun hcount => ⟨fun w hw => wordNick_eq (hw.trans_le hcount), ?_⟩⟩
  · rw [sessionNicks, List.pairwise_map]
    refine List.nodup_range.imp fun hne => ?_
    rwa [Bool.eq_false_iff, Ne, sameName_sessionNick_iff]
  · intro nick hnick
    obtain ⟨i, hi, rfl⟩ := mem_sessionNicks.1 hnick
    exact ⟨isValid_sessionNick hvalid i, byteLength_sessionNick_of_validate h hi⟩
  · exact toNat_wordLast hpos hcount

/-- As many sessions as a word can count, and a nick of ten bytes, for which the number of the last
one leaves just enough room. -/
theorem sessionNicks_of_validate_maxWord :
    let c : Config := { Config.default with nick := "ServerBots", sessionCount := maxWord }
    c.validate = .ok c ∧ (c.sessionNick (maxWord - 1)).byteLength = defaultMaxNick ∧
      Nick.isValid (c.sessionNick (maxWord - 1)) = true ∧ c.wordLast.toNat = maxWord - 1 := by
  intro c
  have hvalid : c.validate = .ok c := by decide +kernel
  obtain ⟨-, hnicks, hwords⟩ := sessionNicks_of_validate hvalid
  have hlast : c.sessionNick (maxWord - 1) ∈ c.sessionNicks :=
    mem_sessionNicks.2 ⟨maxWord - 1, Nat.sub_one_lt_of_lt (Nat.zero_lt_succ _), rfl⟩
  exact ⟨hvalid, by decide +kernel, (hnicks _ hlast).1, (hwords le_rfl).2⟩

end ChatLink.Config
