/-
# The rounds of a count

Where a search counts, it goes round and round: it adds one to its counter, cuts the wanted nick at
a byte so that the number fits behind it, and stops if that nick was not tried.  Here is the loop as
such: its counter has 32 bits, a cut may fall inside a character, and nothing bounds the rounds.  It
comes to the same as the search that runs, after at most one round more than the tried nicks have
bytes.  Main statement: `counting_ends`.
-/
import Mathlib
import ChatLink.Proofs.Nick.Attempts

namespace ChatLink

/-! ### Cutting at a byte -/

namespace Text

variable {s t : Text} {i m n : Nat}

/-- The byte index lies between two characters of the text, or at one of its ends. -/
def IsBoundary (t : Text) (i : Nat) : Prop := ∃ s, s <+: t ∧ byteLength s = i

/-- What stands before a byte index.  There is nothing if it lies inside a character or behind the
end. -/
def before? : Text → Nat → Option Text
  | _, 0 => some []
  | [], _ + 1 => none
  | c :: t, i + 1 =>
    if c.utf8Size ≤ i + 1 then (before? t (i + 1 - c.utf8Size)).map (c :: ·) else none

/-- The last boundary at a byte index or before it. -/
def floor (t : Text) : Nat → Nat
  | 0 => 0
  | i + 1 => if (before? t (i + 1)).isSome then i + 1 else floor t i

lemma byteLength_eq_zero_iff : byteLength t = 0 ↔ t = [] := by
  refine ⟨fun h => ?_, fun h => h ▸ rfl⟩
  exact List.eq_nil_of_length_eq_zero (Nat.le_zero.1 ((length_le_byteLength t).trans h.le))

lemma before?_eq_some_iff : before? t i = some s ↔ s <+: t ∧ byteLength s = i := by
  fun_induction before? t i generalizing s with
  | case1 t =>
    rw [Option.some.injEq, byteLength_eq_zero_iff]
    exact ⟨fun h => h ▸ ⟨List.nil_prefix, rfl⟩, fun h => h.2.symm⟩
  | case2 i =>
    refine iff_of_false (by simp) ?_
    rintro ⟨hs, hlength⟩
    rw [List.prefix_nil.1 hs] at hlength
    cases hlength
  | case3 c t i hle ih =>
    rw [Option.map_eq_some_iff]
    constructor
    · rintro ⟨u, hu, rfl⟩
      obtain ⟨hu, hlength⟩ := ih.1 hu
      refine ⟨List.cons_prefix_cons.2 ⟨rfl, hu⟩, ?_⟩
      rw [byteLength_cons]
      omega
    · rintro ⟨hs, hlength⟩
      cases s with
      | nil => cases hlength
      | cons d s =>
        obtain ⟨rfl, htail⟩ := List.cons_prefix_cons.1 hs
        rw [byteLength_cons] at hlength
        exact ⟨s, ih.2 ⟨htail, by omega⟩, rfl⟩
  | case4 c t i hlt =>
    refine iff_of_false (by simp) ?_
    rintro ⟨hs, hlength⟩
    cases s with
    | nil => cases hlength
    | cons d s =>
      obtain ⟨rfl, -⟩ := List.cons_prefix_cons.1 hs
      rw [byteLength_cons] at hlength
      omega

lemma isSome_before?_iff : (before? t i).isSome = true ↔ IsBoundary t i := by
  rw [Option.isSome_iff_exists]
  exact exists_congr fun s => before?_eq_some_iff

/-- A smaller budget that what is taken fits makes no difference. -/
lemma takeBytes_of_le (hle : m ≤ n) (h : byteLength (takeBytes n t) ≤ m) :
    takeBytes m t = takeBytes n t := by
  induction t generalizing m n with
  | nil => rfl
  | cons c t ih =>
    by_cases hc : c.utf8Size ≤ n
    · rw [takeBytes_cons hc, byteLength_cons] at h
      have htail : byteLength (takeBytes (n - c.utf8Size) t) ≤ m - c.utf8Size := by omega
      rw [takeBytes_cons hc, takeBytes_cons (by omega), ih (Nat.sub_le_sub_right hle _) htail]
    · rw [takeBytes, takeBytes, splitBytes, splitBytes, if_neg hc, if_neg (by omega)]

/-- A whole number of characters is taken as it is. -/
lemma takeBytes_byteLength (h : s <+: t) : takeBytes (byteLength s) t = s := by
  induction s generalizing t with
  | nil =>
    have hlength := byteLength_takeBytes_le (byteLength []) t
    exact byteLength_eq_zero_iff.1 (Nat.le_zero.1 hlength)
  | cons c s ih =>
    obtain ⟨u, rfl⟩ := h
    rw [List.cons_append, byteLength_cons, takeBytes_cons (Nat.le_add_right _ _),
      Nat.add_sub_cancel_left, ih (List.prefix_append s u)]

/-- The last boundary is where the longest beginning ends that fits. -/
lemma floor_eq (t : Text) (i : Nat) : floor t i = byteLength (takeBytes i t) := by
  induction i with
  | zero => exact (Nat.le_zero.1 (byteLength_takeBytes_le 0 t)).symm
  | succ i ih =>
    rw [floor]
    split
    · next hsome =>
      obtain ⟨s, hs, hlength⟩ := isSome_before?_iff.1 hsome
      rw [← hlength, takeBytes_byteLength hs]
    · next hnone =>
      have hle := byteLength_takeBytes_le (i + 1) t
      have hne : byteLength (takeBytes (i + 1) t) ≠ i + 1 := fun hlength =>
        hnone (isSome_before?_iff.2 ⟨_, takeBytes_prefix (i + 1) t, hlength⟩)
      have hfits : byteLength (takeBytes (i + 1) t) ≤ i := by omega
      rw [ih, takeBytes_of_le (Nat.le_succ i) hfits]

lemma before?_floor (t : Text) (i : Nat) : before? t (floor t i) = some (takeBytes i t) := by
  have hbegins := takeBytes_prefix i t
  exact before?_eq_some_iff.2 ⟨hbegins, (floor_eq t i).symm⟩

lemma isBoundary_floor (t : Text) (i : Nat) : IsBoundary t (floor t i) :=
  isSome_before?_iff.1 (Option.isSome_of_eq_some (before?_floor t i))

/-- A budget beyond the end is one up to the end. -/
lemma takeBytes_min (n : Nat) (t : Text) : takeBytes (min n (byteLength t)) t = takeBytes n t := by
  rcases le_total n (byteLength t) with hle | hle
  · rw [min_eq_left hle]
  · rw [min_eq_right hle, takeBytes_of_byteLength_le le_rfl, takeBytes_of_byteLength_le hle]

end Text

namespace NickSearch

variable {n : NickSearch} {tried : List Text} {current rejected desired x : Text} {maxLen j k : Nat}

/-! ### The loop -/

/-- Where the wanted nick is cut to make room for a number: the byte index is moved back to a boundary. -/
def cutIndex (desired : Text) (maxLen k : Nat) : Nat :=
  Text.floor desired (min (maxLen - (Decimal.digits k).byteLength) desired.byteLength)

/-- What stands before that index, and the number. -/
def numbered? (desired : Text) (maxLen k : Nat) : Option Text :=
  (Text.before? desired (cutIndex desired maxLen k)).map (· ++ Decimal.digits k)

/-- So many rounds at most.  There is no result if they do not suffice, if the counter has no successor
in 32 bits, or if a cut fails. -/
def rounds? (tried : List Text) (desired : Text) (maxLen : Nat) : Nat → Nat → Option (Nat × Text)
  | 0, _ => none
  | rounds + 1, k =>
    if k + 1 < 2 ^ 32 then
      match numbered? desired maxLen (k + 1) with
      | none => none
      | some candidate =>
        if wasTried tried candidate then rounds? tried desired maxLen rounds (k + 1)
        else some (k + 1, candidate)
    else none

/-- No cut fails. -/
lemma numbered?_eq (desired : Text) (maxLen k : Nat) :
    numbered? desired maxLen k = some (numbered desired maxLen k) := by
  rw [numbered?, cutIndex, Text.before?_floor, Option.map_some, Text.takeBytes_min, numbered]

/-- The loop ends at the first number that was not tried, after one round for each number. -/
lemma rounds?_eq (hlt : k < j) (hj : j < 2 ^ 32)
    (hpassed : ∀ i, k < i → i < j → wasTried tried (numbered desired maxLen i) = true)
    (hfresh : wasTried tried (numbered desired maxLen j) = false) (rounds : Nat) :
    rounds? tried desired maxLen rounds k =
      if j ≤ k + rounds then some (j, numbered desired maxLen j) else none := by
  induction rounds generalizing k with
  | zero => rw [rounds?, Nat.add_zero, if_neg (not_le.2 hlt)]
  | succ rounds ih =>
    rw [rounds?, if_pos (by omega), numbered?_eq]
    dsimp only
    by_cases hnext : k + 1 = j
    · rw [hnext, if_neg (by simp [hfresh]), if_pos (by omega)]
    · rw [if_pos (hpassed (k + 1) (by omega) (by omega)),
        ih (by omega) fun i hi hij => hpassed i (by omega) hij, Nat.add_right_comm, Nat.add_assoc]

/-! ### A refusal after which the search counts -/

/-- The refusal is neither one after which the nick in use is kept nor one that is answered with an
underscore. -/
def CountsAfter (n : NickSearch) (current rejected : Text) (maxLen : Nat) : Prop :=
  ¬ (Text.sameName current n.actual = true ∧ Text.sameName rejected n.desired = true) ∧
    ¬ (n.lastNumber = 0 ∧ n.actual.byteLength < max maxLen 1)

/-- The search counts up to `j` and asks for `x`. -/
structure CountsTo (n : NickSearch) (current rejected : Text) (maxLen j : Nat) (x : Text) :
    Prop where
  /-- The counter is incremented. -/
  ahead : n.lastNumber < j
  /-- It is incremented once, and once for each byte of the tried nicks at most. -/
  few : j ≤ n.lastNumber + (1 + totalLength (n.tried ++ [rejected, n.actual]))
  /-- This is what the refusal makes of the search. -/
  asks : n.afterRefusal current rejected maxLen =
    ({ n with actual := x, lastNumber := j, tried := n.tried ++ [rejected, n.actual] }, .ask x)
  /-- The loop gives the same as soon as it is given a round for each increment. -/
  ends : j < 2 ^ 32 → ∀ rounds,
    rounds? (n.tried ++ [rejected, n.actual]) n.desired (max maxLen 1) rounds n.lastNumber =
      if j ≤ n.lastNumber + rounds then some (j, x) else none
  /-- It cuts the wanted nick between two characters, or at an end. -/
  cuts : ∀ k, Text.IsBoundary n.desired (cutIndex n.desired (max maxLen 1) k)
  /-- What it asks for fits, unless the number alone is too long. -/
  fits : x.byteLength ≤ max (max maxLen 1) (Decimal.digits j).length

lemma afterRefusal_of_countsAfter (h : n.CountsAfter current rejected maxLen) :
    n.afterRefusal current rejected maxLen =
      let found := firstFree (n.tried ++ [rejected, n.actual]) n.desired (max maxLen 1)
        (totalLength (n.tried ++ [rejected, n.actual])) n.lastNumber
      ({ n with actual := found.2, lastNumber := found.1, tried := n.tried ++ [rejected, n.actual] },
        .ask found.2) := by
  rw [afterRefusal, if_neg (by rw [Bool.and_eq_true]; exact h.1)]
  dsimp only
  rw [if_neg h.2]

/-- **Counting ends.**  A search that counts after a refusal increments its counter at least once, and
at most once more than the nicks that it then remembers have bytes.  The loop ends with this result,
however many rounds more it is allowed, as long as the counter fits in 32 bits: no cut of the wanted
nick fails.  The nick that it gives is no longer than allowed, or than its number. -/
theorem counting_ends (h : n.CountsAfter current rejected maxLen) :
    ∃ j x, n.CountsTo current rejected maxLen j x := by
  obtain ⟨j, hfound, hlt, hpassed, hfresh⟩ :=
    firstFree_spec (n.tried ++ [rejected, n.actual]) n.desired (max maxLen 1) n.lastNumber
  have hle := le_of_passed hpassed
  refine ⟨j, numbered n.desired (max maxLen 1) j, hlt, by omega, ?_, ?_, ?_, ?_⟩
  · rw [afterRefusal_of_countsAfter h, hfound]
  · intro hj rounds
    exact rounds?_eq hlt hj hpassed hfresh rounds
  · intro k
    exact Text.isBoundary_floor _ _
  · exact byteLength_numbered_le_max _ _ _

/-- A cut inside a character, after which two numbers give nicks that were tried. -/
theorem counting_ends_cut :
    let n : NickSearch := ⟨"Bøt", "Bøt", "Bøt", 0, ["B1", "b2"]⟩
    n.CountsAfter "*" "Bøt" 3 ∧ n.CountsTo "*" "Bøt" 3 3 "B3" := by
  intro n
  have hcounts : n.CountsAfter "*" "Bøt" 3 := ⟨by decide, by decide⟩
  obtain ⟨j, x, hto⟩ := counting_ends hcounts
  have hstep : (n.afterRefusal "*" "Bøt" 3).1.lastNumber = 3 ∧
      (n.afterRefusal "*" "Bøt" 3).2 = .ask "B3" := by decide
  rw [hto.asks] at hstep
  obtain ⟨rfl, hx⟩ := hstep
  cases hx
  exact ⟨hcounts, hto⟩

end NickSearch
end ChatLink
