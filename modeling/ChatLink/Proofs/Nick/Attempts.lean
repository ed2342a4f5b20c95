/-
# Attempts at a nick

Before the network knows a session by any nick, each refusal names the nick that was asked for
last.  The attempts that follow one another are valid, fit, and differ from all before them, so
that a network on which few nicks are taken gives in after at most so many refusals.
-/
import Mathlib
import ChatLink.Nick.Syntax
import ChatLink.Proofs.Nick.Numbers

namespace ChatLink

/-! ### Valid nicks -/

namespace Nick

variable {s t : Text}

lemma isStart_cases {c : Char} (h : isStart c = true) : c.isAlpha = true ∨ c ∈ specials := by
  rwa [isStart, Bool.or_eq_true, List.contains_iff_mem] at h

lemma isPart_cases {c : Char} (h : isPart c = true) : isStart c = true ∨ c.isDigit = true := by
  rwa [isPart, Bool.or_eq_true] at h

lemma isPart_of_isDigit {c : Char} (h : c.isDigit = true) : isPart c = true := by
  rw [isPart, h, Bool.or_true]

lemma utf8Size_of_isAlpha {c : Char} (h : c.isAlpha = true) : c.utf8Size = 1 := by
  rw [Char.isAlpha, Bool.or_eq_true] at h
  rw [Char.utf8Size_eq_one_iff]
  rcases h with hupper | hlower
  · rw [Char.isUpper, decide_eq_true_eq] at hupper
    exact Nat.le_trans hupper.2 (by decide)
  · rw [Char.isLower, Bool.and_eq_true, decide_eq_true_eq, decide_eq_true_eq] at hlower
    exact Nat.le_trans hlower.2 (by decide)

lemma utf8Size_of_mem_specials {c : Char} (h : c ∈ specials) : c.utf8Size = 1 := by
  have hall : ∀ c ∈ specials, c.utf8Size = 1 := by simp [specials, Char.utf8Size_eq_one_iff]
  exact hall c h

lemma utf8Size_of_isPart {c : Char} (h : isPart c = true) : c.utf8Size = 1 := by
  rcases isPart_cases h with hstart | hdigit
  · exact (isStart_cases hstart).elim utf8Size_of_isAlpha utf8Size_of_mem_specials
  · exact Decimal.utf8Size_of_isDigit hdigit

lemma isValid_cons_iff {c : Char} :
    isValid (c :: t) = true ↔ isStart c = true ∧ ∀ d ∈ t, isPart d = true := by
  rw [isValid, Bool.and_eq_true, List.all_eq_true]

lemma isPart_of_mem {c : Char} (h : isValid t = true) (hc : c ∈ t) : isPart c = true := by
  rcases t with _ | ⟨d, t⟩
  · cases hc
  · obtain ⟨hd, ht⟩ := isValid_cons_iff.1 h
    rcases List.mem_cons.1 hc with rfl | hc
    · rw [isPart, hd, Bool.true_or]
    · exact ht c hc

lemma isValid_append (hs : isValid s = true) (ht : ∀ c ∈ t, isPart c = true) :
    isValid (s ++ t) = true := by
  rcases s with _ | ⟨c, s⟩
  · cases hs
  · obtain ⟨hc, hs⟩ := isValid_cons_iff.1 hs
    refine isValid_cons_iff.2 ⟨hc, fun d hd => ?_⟩
    exact (List.mem_append.1 hd).elim (hs d) (ht d)

/-- What is left of a valid nick is valid as long as one byte of it is left. -/
lemma isValid_takeBytes {n : Nat} (hn : 0 < n) (h : isValid t = true) :
    isValid (Text.takeBytes n t) = true := by
  rcases t with _ | ⟨c, t⟩
  · cases h
  · have hsize := utf8Size_of_isPart (isPart_of_mem h List.mem_cons_self)
    obtain ⟨hc, ht⟩ := isValid_cons_iff.1 h
    rw [Text.takeBytes_cons (hsize.trans_le hn)]
    exact isValid_cons_iff.2
      ⟨hc, fun d hd => ht d ((Text.takeBytes_prefix _ t).subset hd)⟩

/-- A star is no nick, in whatever case. -/
lemma sameName_star (h : isValid t = true) : Text.sameName ['*'] t = false := by
  rcases t with _ | ⟨c, t⟩
  · rfl
  · rw [Bool.eq_false_iff]
    intro hsame
    rw [Text.sameName, beq_iff_eq, List.map_cons, List.map_cons] at hsame
    have hstar : '*'.toLower = c.toLower := (List.cons.inj hsame).1
    rcases isStart_cases (isValid_cons_iff.1 h).1 with halpha | hspecial
    · rw [← Char.isAlpha_toLower_eq_isAlpha, ← hstar] at halpha
      exact absurd halpha (by decide)
    · have hall : ∀ c ∈ specials, '*'.toLower ≠ c.toLower := by simp [specials]
      exact hall c hspecial hstar

end Nick

lemma cutNick_eq_takeBytes {nick : Text} {maxLen : Nat} (h : Nick.isValid nick = true)
    (hmax : 0 < maxLen) : cutNick nick maxLen = Text.takeBytes maxLen nick := by
  rcases nick with _ | ⟨c, t⟩
  · cases h
  · have hsize := Nick.utf8Size_of_isPart (Nick.isPart_of_mem h List.mem_cons_self)
    rw [cutNick, Text.takeBytes_cons (hsize.trans_le hmax)]

namespace NickSearch

variable {n t : NickSearch} {desired : Text} {maxLen k : Nat} {taken : Finset Text}

/-! ### Numbered nicks -/

lemma isValid_numbered (h : Nick.isValid desired = true)
    (hk : (Decimal.digits k).length < maxLen) :
    Nick.isValid (numbered desired maxLen k) = true := by
  rw [numbered, Text.byteLength_digits]
  exact Nick.isValid_append (Nick.isValid_takeBytes (Nat.sub_pos_of_lt hk) h) fun c hc =>
    Nick.isPart_of_isDigit (Decimal.isDigit_of_mem_digits hc)

lemma byteLength_numbered_le_max (desired : Text) (maxLen k : Nat) :
    (numbered desired maxLen k).byteLength ≤ max maxLen (Decimal.digits k).length := by
  have hbase := Text.byteLength_takeBytes_le (maxLen - (Decimal.digits k).length) desired
  rw [numbered, Text.byteLength_append, Text.byteLength_digits]
  omega

lemma byteLength_numbered_le (hk : (Decimal.digits k).length ≤ maxLen) :
    (numbered desired maxLen k).byteLength ≤ maxLen :=
  (byteLength_numbered_le_max desired maxLen k).trans (max_le le_rfl hk)

/-- A numbered nick fits unless its number alone is too long. -/
lemma byteLength_numbered_le_iff (hmax : 0 < maxLen) :
    (numbered desired maxLen k).byteLength ≤ maxLen ↔ k < 10 ^ maxLen := by
  have hdigits : (Decimal.digits k).length ≤ maxLen ↔ k < 10 ^ maxLen :=
    Nat.length_toDigits_le_iff (by decide) hmax
  rw [← hdigits]
  refine ⟨fun h => ?_, byteLength_numbered_le⟩
  rw [numbered, Text.byteLength_append, Text.byteLength_digits] at h
  omega

/-! ### One refusal -/

/-- After a refusal that a search does not answer by keeping its nick, it remembers what was refused
and what was in use.  It asks for the last attempt with an underscore, if no number was used yet and
that fits, or for the wanted nick with a new number that makes it a new nick. -/
lemma afterRefusal_ask {current rejected x : Text}
    (h : n.afterRefusal current rejected maxLen = (t, .ask x)) :
    t.configured = n.configured ∧ t.desired = n.desired ∧ t.actual = x ∧
      t.tried = n.tried ++ [rejected, n.actual] ∧
      ((n.lastNumber = 0 ∧ t.lastNumber = 0 ∧ x = n.actual ++ ['_'] ∧
          n.actual.byteLength < max maxLen 1) ∨
        (n.lastNumber < t.lastNumber ∧ x = numbered n.desired (max maxLen 1) t.lastNumber ∧
          wasTried t.tried x = false)) := by
  rw [afterRefusal] at h
  split at h
  · cases h
  dsimp only at h
  split at h
  · next hgrow =>
    cases h
    exact ⟨rfl, rfl, rfl, rfl, .inl ⟨hgrow.1, hgrow.1, rfl, hgrow.2⟩⟩
  · obtain ⟨j, hj, hlt, -, hfresh⟩ :=
      firstFree_spec (n.tried ++ [rejected, n.actual]) n.desired (max maxLen 1) n.lastNumber
    rw [hj] at h
    cases h
    exact ⟨rfl, rfl, rfl, rfl, .inr ⟨hlt, rfl, hfresh⟩⟩

/-- An attempt after a refusal fits, unless its number alone is too long. -/
lemma byteLength_le_iff_of_ask {current rejected x : Text}
    (h : n.afterRefusal current rejected maxLen = (t, .ask x))
    (hmax : 0 < maxLen) : x.byteLength ≤ maxLen ↔ t.lastNumber < 10 ^ maxLen := by
  obtain ⟨-, -, -, -, ⟨-, hzero, rfl, hlt⟩ | ⟨-, rfl, -⟩⟩ := afterRefusal_ask h
  · refine iff_of_true ?_ ?_
    · rw [Text.byteLength_append]
      exact hlt.trans_le (max_le le_rfl hmax)
    · rw [hzero]
      exact Nat.pow_pos (by decide)
  · rw [max_eq_left hmax]
    exact byteLength_numbered_le_iff hmax

/-- The numbers that are passed over on a refusal give nicks that were tried. -/
lemma afterRefusal_passed {current rejected x : Text}
    (h : n.afterRefusal current rejected maxLen = (t, .ask x)) :
    ∀ k, n.lastNumber < k → k < t.lastNumber →
      wasTried t.tried (numbered n.desired (max maxLen 1) k) = true := by
  rw [afterRefusal] at h
  split at h
  · cases h
  dsimp only at h
  split at h
  · cases h
    intro k hk hlt
    exact absurd hlt (not_lt_of_gt hk)
  · obtain ⟨j, hj, -, hpassed, -⟩ :=
      firstFree_spec (n.tried ++ [rejected, n.actual]) n.desired (max maxLen 1) n.lastNumber
    rw [hj] at h
    cases h
    exact hpassed

lemma length_eq_of_sameName {s t : Text} (h : Text.sameName s t = true) : s.length = t.length := by
  rw [Text.sameName, beq_iff_eq] at h
  simpa using congrArg List.length h

/-- The nicks that were asked for, the last one included. -/
def asked (n : NickSearch) : Finset Text := insert n.actual n.tried.toFinset

/-- A search before the network knows us by a nick.  The last attempt is valid, fits and is new;
while no number was used the attempts grow; and every number up to the last names a nick that was
asked for. -/
structure Searching (desired : Text) (maxLen : Nat) (n : NickSearch) : Prop where
  desired_eq : n.desired = desired
  valid : Nick.isValid n.actual = true
  fits : n.actual.byteLength ≤ maxLen
  fresh : wasTried n.tried n.actual = false
  longest : n.lastNumber = 0 → ∀ x ∈ n.tried, x.length < n.actual.length
  numbers : ∀ k, 1 ≤ k → k ≤ n.lastNumber → ∃ x ∈ n.asked, Names desired maxLen x k

/-- The network refuses the nick that was asked for and knows us by no other. -/
def refuse (n : NickSearch) (maxLen : Nat) : NickSearch × NickStep :=
  n.afterRefusal ['*'] n.actual maxLen

lemma mem_asked_iff {x : Text} : x ∈ n.asked ↔ x = n.actual ∨ x ∈ n.tried := by
  rw [asked, Finset.mem_insert, List.mem_toFinset]

/-- After a refusal the nick that was refused counts as tried. -/
lemma asked_of_tried (h : t.tried = n.tried ++ [n.actual, n.actual]) :
    t.asked = insert t.actual n.asked := by
  ext x
  simp only [mem_asked_iff, Finset.mem_insert, h, List.mem_append, List.mem_cons, List.not_mem_nil]
  tauto

lemma mem_tried_iff {x : Text} (h : t.tried = n.tried ++ [n.actual, n.actual]) :
    x ∈ t.tried ↔ x ∈ n.asked := by
  simp only [mem_asked_iff, h, List.mem_append, List.mem_cons, List.not_mem_nil]
  tauto

/-- Numbers that were passed over name nicks that were tried, and the last one names the nick in use. -/
lemma names_of_passed {i : Nat} (hactual : t.actual = numbered desired maxLen t.lastNumber)
    (hpassed : ∀ k, i < k → k < t.lastNumber →
      wasTried t.tried (numbered desired maxLen k) = true) :
    ∀ k, i < k → k ≤ t.lastNumber → ∃ x ∈ t.asked, Names desired maxLen x k := by
  intro k hk hle
  rcases hle.lt_or_eq with hlt | rfl
  · obtain ⟨x, hx, hsame⟩ := wasTried_iff.1 (hpassed k hk hlt)
    exact ⟨x, mem_asked_iff.2 (.inr hx), hsame⟩
  · exact ⟨t.actual, mem_asked_iff.2 (.inl rfl), by rw [Names, ← hactual]; exact Text.sameName_refl _⟩

/-- The first refusals append an underscore, which gives a longer nick than all before. -/
lemma Searching.underscore (h : Searching desired maxLen n) (hzero : n.lastNumber = 0)
    (hlt : n.actual.byteLength < maxLen) (hactual : t.actual = n.actual ++ ['_'])
    (htried : t.tried = n.tried ++ [n.actual, n.actual]) (hdesired : t.desired = n.desired)
    (hnumber : t.lastNumber = n.lastNumber) : Searching desired maxLen t := by
  have hlonger : ∀ x ∈ t.tried, x.length < t.actual.length := by
    intro x hx
    rw [hactual, List.length_append]
    rcases mem_asked_iff.1 ((mem_tried_iff htried).1 hx) with rfl | hx
    · exact Nat.lt_succ_self _
    · exact (h.longest hzero x hx).trans (Nat.lt_succ_self _)
  refine ⟨hdesired.trans h.desired_eq, ?_, ?_, ?_, fun _ => hlonger, ?_⟩
  · rw [hactual]
    exact Nick.isValid_append h.valid (by simp [Nick.isPart, Nick.isStart, Nick.specials])
  · rw [hactual, Text.byteLength_append]
    exact hlt
  · rw [Bool.eq_false_iff]
    intro hsame
    obtain ⟨x, hx, hsame⟩ := wasTried_iff.1 hsame
    exact (hlonger x hx).ne (length_eq_of_sameName hsame)
  · intro k hk hle
    omega

/-- Later refusals use the next number that gives a new nick; there were so few attempts that
this number has at most seven digits. -/
lemma Searching.number (h : Searching desired maxLen n) (hvalid : Nick.isValid desired = true)
    (hmax : 9 ≤ maxLen) (hcard : n.asked.card < 10 ^ 6)
    (htried : t.tried = n.tried ++ [n.actual, n.actual]) (hdesired : t.desired = n.desired)
    (hactual : t.actual = numbered desired maxLen t.lastNumber)
    (hlt : n.lastNumber < t.lastNumber)
    (hpassed : ∀ k, n.lastNumber < k → k < t.lastNumber →
      wasTried t.tried (numbered desired maxLen k) = true)
    (hfresh : wasTried t.tried t.actual = false) : Searching desired maxLen t := by
  have hnumbers : ∀ k, 1 ≤ k → k ≤ t.lastNumber → ∃ x ∈ t.asked, Names desired maxLen x k := by
    intro k hk hle
    by_cases hold : k ≤ n.lastNumber
    · obtain ⟨x, hx, hnames⟩ := h.numbers k hk hold
      exact ⟨x, asked_of_tried htried ▸ Finset.mem_insert_of_mem hx, hnames⟩
    · exact names_of_passed hactual hpassed k (not_le.1 hold) hle
  have hdigits : (Decimal.digits t.lastNumber).length ≤ 7 := by
    have hinsert : t.asked.card ≤ n.asked.card + 1 := by
      rw [asked_of_tried htried]
      exact Finset.card_insert_le _ _
    have hbound := le_of_forall_endsIn (i := 0) (w := 7) (by decide) (by omega) fun k hk hle =>
      (hnumbers k hk hle).imp fun x hx => hx.imp_right Names.endsIn
    exact Decimal.length_digits_le (by decide) (by omega)
  refine ⟨hdesired.trans h.desired_eq, ?_, ?_, hfresh, by omega, hnumbers⟩
  · rw [hactual]
    exact isValid_numbered hvalid (by omega)
  · rw [hactual]
    exact byteLength_numbered_le (by omega)

/-- A refusal is answered by a further attempt, as good as those before it. -/
lemma Searching.refuse (h : Searching desired maxLen n) (hvalid : Nick.isValid desired = true)
    (hmax : 9 ≤ maxLen) (hcard : n.asked.card < 10 ^ 6) :
    ∃ t, n.refuse maxLen = (t, .ask t.actual) ∧
      t.tried = n.tried ++ [n.actual, n.actual] ∧ Searching desired maxLen t := by
  have hstar := Nick.sameName_star h.valid
  rw [NickSearch.refuse, afterRefusal, if_neg (by simp [hstar]), max_eq_left (by omega)]
  dsimp only
  split
  · next hgrow => exact ⟨_, rfl, rfl, h.underscore hgrow.1 hgrow.2 rfl rfl rfl rfl⟩
  · obtain ⟨k, hk, hlt, hpassed, hfresh⟩ :=
      firstFree_spec (n.tried ++ [n.actual, n.actual]) n.desired maxLen n.lastNumber
    rw [h.desired_eq] at hk hpassed hfresh
    rw [h.desired_eq, hk]
    exact ⟨_, rfl, rfl, h.number hvalid hmax hcard rfl h.desired_eq.symm rfl hlt hpassed hfresh⟩

/-! ### One refusal after another -/

/-- The search after `j` refusals. -/
def refused (n : NickSearch) (maxLen : Nat) : Nat → NickSearch
  | 0 => n.reset maxLen
  | j + 1 => ((n.refused maxLen j).refuse maxLen).1

/-- The nick that is asked for after `j` refusals. -/
def attempt (n : NickSearch) (maxLen j : Nat) : Text := (n.refused maxLen j).actual

lemma isValid_cutNick {nick : Text} (h : Nick.isValid nick = true) (hmax : 0 < maxLen) :
    Nick.isValid (cutNick nick maxLen) = true := by
  rw [cutNick_eq_takeBytes h hmax]
  exact Nick.isValid_takeBytes hmax h

lemma searching_reset (hvalid : Nick.isValid n.configured = true) (hmax : 0 < maxLen) :
    Searching (cutNick n.configured maxLen) maxLen (n.reset maxLen) where
  desired_eq := rfl
  valid := isValid_cutNick hvalid hmax
  fits := by
    rw [actual_reset, cutNick_eq_takeBytes hvalid hmax]
    exact Text.byteLength_takeBytes_le _ _
  fresh := rfl
  longest _ x hx := by cases hx
  numbers k hk hle := absurd (hk.trans hle) (Nat.not_succ_le_zero 0)

/-- As long as there were fewer than a million refusals the search goes well, and the nicks that
it remembers are the earlier attempts. -/
lemma searching_refused (hvalid : Nick.isValid n.configured = true) (hmax : 9 ≤ maxLen) {j : Nat}
    (hj : j < 10 ^ 6) :
    Searching (cutNick n.configured maxLen) maxLen (n.refused maxLen j) ∧
      (n.refused maxLen j).asked.card ≤ j + 1 ∧
      ∀ x, x ∈ (n.refused maxLen j).tried ↔ ∃ i < j, n.attempt maxLen i = x := by
  have hpos : 0 < maxLen := by omega
  induction j with
  | zero =>
    refine ⟨searching_reset hvalid hpos, ?_, fun x => ?_⟩
    · exact (Finset.card_insert_le _ _).trans (by simp [refused, reset, confirm])
    · simp [refused, reset, confirm]
  | succ j ih =>
    obtain ⟨hsearching, hcard, htried⟩ := ih (by omega)
    -- so far at most `j + 1` nicks were asked for, so the next number stays short
    obtain ⟨t, hrefuse, ht, hnext⟩ :=
      hsearching.refuse (isValid_cutNick hvalid hpos) hmax (by omega)
    have hstep : n.refused maxLen (j + 1) = t := by rw [refused, hrefuse]
    rw [hstep]
    refine ⟨hnext, ?_, fun x => ?_⟩
    · rw [asked_of_tried ht]
      exact (Finset.card_insert_le _ _).trans (Nat.succ_le_succ hcard)
    · rw [mem_tried_iff ht, mem_asked_iff, htried]
      constructor
      · rintro (rfl | ⟨i, hi, rfl⟩)
        · exact ⟨j, Nat.lt_succ_self j, rfl⟩
        · exact ⟨i, hi.trans (Nat.lt_succ_self j), rfl⟩
      · rintro ⟨i, hi, rfl⟩
        rcases (Nat.lt_succ_iff.1 hi).lt_or_eq with hi | rfl
        · exact Or.inr ⟨i, hi, rfl⟩
        · exact Or.inl rfl

/-- No attempt repeats an earlier one. -/
lemma sameName_attempt (hvalid : Nick.isValid n.configured = true) (hmax : 9 ≤ maxLen) {i j : Nat}
    (hj : j < 10 ^ 6) (hij : i < j) :
    Text.sameName (n.attempt maxLen i) (n.attempt maxLen j) = false := by
  obtain ⟨hsearching, -, htried⟩ := searching_refused hvalid hmax hj
  rw [Bool.eq_false_iff]
  intro hsame
  have hfresh := hsearching.fresh
  rw [Bool.eq_false_iff] at hfresh
  exact hfresh (wasTried_iff.2 ⟨n.attempt maxLen i, (htried _).2 ⟨i, hij, rfl⟩, hsame⟩)

lemma refuse_refused (hvalid : Nick.isValid n.configured = true) (hmax : 9 ≤ maxLen) {j : Nat}
    (hj : j + 1 < 10 ^ 6) :
    ((n.refused maxLen j).refuse maxLen).2 = .ask (n.attempt maxLen (j + 1)) := by
  obtain ⟨hsearching, hcard, -⟩ := searching_refused hvalid hmax (Nat.lt_of_succ_lt hj)
  obtain ⟨t, hrefuse, -, -⟩ :=
    hsearching.refuse (isValid_cutNick hvalid (by omega)) hmax (by omega)
  rw [attempt, refused, hrefuse]

/-! ### Taken nicks -/

/-- The nick is one of those taken, in whatever case. -/
def IsTaken (taken : Finset Text) (nick : Text) : Prop :=
  ∃ t ∈ taken, Text.sameName t nick = true

/-- One of the first attempts is free: each taken nick stops one attempt at most. -/
lemma exists_not_isTaken (hvalid : Nick.isValid n.configured = true) (hmax : 9 ≤ maxLen)
    (htaken : taken.card < 10 ^ 6) : ∃ j ≤ taken.card, ¬ IsTaken taken (n.attempt maxLen j) := by
  by_contra hall
  simp only [not_exists, not_and, not_not] at hall
  choose! owner howner hsame using hall
  have hmaps : Set.MapsTo owner (Finset.range (taken.card + 1)) taken := by
    intro j hj
    exact howner j (Nat.lt_succ_iff.1 (Finset.mem_range.1 hj))
  have hlt : taken.card < (Finset.range (taken.card + 1)).card := by
    rw [Finset.card_range]
    exact Nat.lt_succ_self _
  -- two attempts that the same taken nick stops would be the same up to case
  obtain ⟨i, hi, j, hj, hne, heq⟩ := Finset.exists_ne_map_eq_of_card_lt_of_maps_to hlt hmaps
  have hle : ∀ k ∈ Finset.range (taken.card + 1), k ≤ taken.card := by
    intro k hk
    exact Nat.lt_succ_iff.1 (Finset.mem_range.1 hk)
  have hij : Text.sameName (n.attempt maxLen i) (n.attempt maxLen j) = true := by
    have hfirst := hsame i (hle i hi)
    rw [heq, Text.sameName_comm] at hfirst
    exact Text.sameName_trans hfirst (hsame j (hle j hj))
  rcases hne.lt_or_gt with hlt | hlt
  · rw [sameName_attempt hvalid hmax ((hle j hj).trans_lt htaken) hlt] at hij
    cases hij
  · rw [Text.sameName_comm, sameName_attempt hvalid hmax ((hle i hi).trans_lt htaken) hlt] at hij
    cases hij

/-- **The search for a nick succeeds.**  Let fewer than a million nicks be taken, and let the
network allow nine bytes or more.  Then the attempts reach a free nick after at most as many
refusals as there are taken nicks.  Every refusal on the way is answered by a further attempt, and
every attempt fits, is valid, and differs from all before it by more than case. -/
theorem exists_free_attempt (n : NickSearch) (maxLen : Nat) (taken : Finset Text)
    (hvalid : Nick.isValid n.configured = true) (hmax : 9 ≤ maxLen)
    (htaken : taken.card < 10 ^ 6) :
    ∃ j ≤ taken.card, ¬ IsTaken taken (n.attempt maxLen j) ∧
      (∀ i < j, IsTaken taken (n.attempt maxLen i) ∧
        ((n.refused maxLen i).refuse maxLen).2 = .ask (n.attempt maxLen (i + 1))) ∧
      ∀ i ≤ j, (n.attempt maxLen i).byteLength ≤ maxLen ∧
        Nick.isValid (n.attempt maxLen i) = true ∧
        ∀ k < i, Text.sameName (n.attempt maxLen k) (n.attempt maxLen i) = false := by
  classical
  have hfree := exists_not_isTaken hvalid hmax htaken
  -- the first free attempt: all before it are taken
  obtain ⟨hle, hnot⟩ := Nat.find_spec hfree
  refine ⟨Nat.find hfree, hle, hnot, fun i hi => ⟨?_, ?_⟩, fun i hi => ?_⟩
  · by_contra hfirst
    exact Nat.find_min hfree hi ⟨hi.le.trans hle, hfirst⟩
  · exact refuse_refused hvalid hmax (by omega)
  · have hlt : i < 10 ^ 6 := (hi.trans hle).trans_lt htaken
    obtain ⟨hsearching, -, -⟩ := searching_refused hvalid hmax hlt
    exact ⟨hsearching.fits, hsearching.valid, fun k hk => sameName_attempt hvalid hmax hlt hk⟩

/-- A nick that leaves no room for an underscore, and that ends in a number itself. -/
theorem exists_free_attempt_at_limit :
    ∃ j ≤ 2, ¬ IsTaken {↑"abcdefg12", ↑"ABCDEFG11"} ((ofNick "Abcdefg12").attempt 9 j) ∧
      (∀ i < j, IsTaken {↑"abcdefg12", ↑"ABCDEFG11"} ((ofNick "Abcdefg12").attempt 9 i) ∧
        (((ofNick "Abcdefg12").refused 9 i).refuse 9).2 =
          .ask ((ofNick "Abcdefg12").attempt 9 (i + 1))) ∧
      ∀ i ≤ j, ((ofNick "Abcdefg12").attempt 9 i).byteLength ≤ 9 ∧
        Nick.isValid ((ofNick "Abcdefg12").attempt 9 i) = true ∧
        ∀ k < i, Text.sameName ((ofNick "Abcdefg12").attempt 9 k)
          ((ofNick "Abcdefg12").attempt 9 i) = false := by
  have hcard : ({↑"abcdefg12", ↑"ABCDEFG11"} : Finset Text).card = 2 := by decide
  have hfree := exists_free_attempt (ofNick "Abcdefg12") 9 {↑"abcdefg12", ↑"ABCDEFG11"}
    (by decide) (by decide) (by rw [hcard]; decide)
  rwa [hcard] at hfree

/-- The number two would give the wanted nick again and is passed over. -/
example : (List.range 4).map ((ofNick "Abcdefg12").attempt 9) =
    ["Abcdefg12", "Abcdefg11", "Abcdefg13", "Abcdefg14"] := by decide

end NickSearch
end ChatLink
