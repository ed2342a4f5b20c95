/-
# How far a search counts

A number that a search passes over names a nick that it remembers, and a nick ends in few numbers.  So
with few refusals a search counts on by little, whatever the network refused, whatever limits it named
and however often the wanted nick was cut.  Hence the nicks that a search asks for fit every limit of
nine bytes or more, as long as it had room to count when it began (`HasRoom`).
Main statement: `Met.fits`.
-/
import Mathlib
import ChatLink.Proofs.Nick.Repeats

namespace ChatLink.NickSearch

variable {n t : NickSearch} {current rejected x : Text} {maxLen first few : Nat}

/-- A search that remembers or uses this many nicks at most, and all of whose numbers after the first
few end one of them. -/
structure Counts (first few : Nat) (n : NickSearch) : Prop where
  few : n.asked.card ≤ few
  numbers : ∀ k, first < k → k ≤ n.lastNumber → ∃ x ∈ n.asked, EndsIn x k

/-- Wherever a search stands, it counts on from there. -/
lemma counts_self (n : NickSearch) : Counts n.lastNumber n.asked.card n :=
  ⟨le_rfl, fun _ hlt hle => absurd hle (not_le_of_gt hlt)⟩

lemma counts_confirm (n : NickSearch) (nick : Text) (first : Nat) (hfew : 0 < few) :
    Counts first few (n.confirm nick) where
  few := (Finset.card_insert_le _ _).trans hfew
  numbers _ hk hle := absurd ((Nat.zero_le first).trans_lt hk) (Nat.not_lt.2 hle)

lemma Counts.fit (h : Counts first few n) (maxLen : Nat) : Counts first few (n.fit maxLen) :=
  ⟨h.few, h.numbers⟩

lemma Counts.mono {more : Nat} (h : Counts first few n) (hle : few ≤ more) : Counts first more n :=
  ⟨h.few.trans hle, h.numbers⟩

lemma asked_of_report (htried : t.tried = n.tried ++ [rejected, n.actual]) :
    t.asked = insert t.actual (insert rejected n.asked) := by
  ext x
  simp only [mem_asked_iff, Finset.mem_insert, htried, List.mem_append, List.mem_cons,
    List.not_mem_nil]
  tauto

/-- A report adds two nicks, and numbers that name nicks among those that are remembered then. -/
lemma Counts.ask (h : Counts first few n)
    (hask : n.afterRefusal current rejected maxLen = (t, .ask x)) : Counts first (few + 2) t := by
  have hpassed := afterRefusal_passed hask
  obtain ⟨-, -, hactual, htried, hnext⟩ := afterRefusal_ask hask
  have hasked := asked_of_report htried
  refine ⟨?_, fun k hk hle => ?_⟩
  · have hfew := h.few
    have hcurrent := Finset.card_insert_le t.actual (insert rejected n.asked)
    have hrejected := Finset.card_insert_le rejected n.asked
    rw [hasked]
    omega
  by_cases hold : k ≤ n.lastNumber
  · obtain ⟨y, hy, hends⟩ := h.numbers k hk hold
    refine ⟨y, ?_, hends⟩
    rw [hasked]
    exact Finset.mem_insert_of_mem (Finset.mem_insert_of_mem hy)
  · rcases hnext with ⟨-, hzero, -⟩ | ⟨-, hx, -⟩
    · omega
    · obtain ⟨y, hy, hnames⟩ := names_of_passed (hactual.trans hx) hpassed k (not_le.1 hold) hle
      exact ⟨y, hy, hnames.endsIn⟩

lemma Counts.report (h : Counts first few n) (current rejected : Text) (maxLen : Nat) :
    Counts first (few + 2) (n.afterRefusal current rejected maxLen).1 := by
  rcases hstep : n.afterRefusal current rejected maxLen with ⟨t, _ | x⟩
  · have hkeep := afterRefusal_keep (congrArg Prod.snd hstep)
    rw [hstep] at hkeep
    rw [hkeep]
    exact h.mono (Nat.le_add_right few 2)
  · exact h.ask hstep

/-- The numbers have nine digits at most, as long as the nicks are not too many. -/
lemma Counts.lastNumber_le (h : Counts first few n) (hroom : first + few * 9 + 1 < 10 ^ 9) :
    n.lastNumber ≤ first + few * 9 := by
  have hfew := h.few
  have hle := le_of_forall_endsIn (w := 9) (by decide) (by omega) h.numbers
  omega

/-- So an attempt fits every limit that is not less. -/
lemma Counts.fits (h : Counts first few n) (hroom : first + (few + 2) * 9 + 1 < 10 ^ 9)
    (hmax : 9 ≤ maxLen) (hask : n.afterRefusal current rejected maxLen = (t, .ask x)) :
    x.byteLength ≤ maxLen := by
  rw [byteLength_le_iff_of_ask hask (by omega)]
  have hlast := (h.ask hask).lastNumber_le hroom
  have hnine : t.lastNumber < 10 ^ 9 := by omega
  exact hnine.trans_le (Nat.pow_le_pow_right (by decide) hmax)

lemma Met.counts {past : List Report} (h : Met past n) : Counts 0 (2 * past.length + 1) n := by
  induction h with
  | confirm n nick => exact counts_confirm n nick 0 (Nat.succ_pos _)
  | fit _ maxLen ih => exact ih.fit maxLen
  | @report past r _ ih =>
    rw [List.length_append, List.length_singleton]
    exact ih.report r.current r.rejected r.maxLen

/-- **Attempts fit.**  A search that met fewer than fifty million reports since it was last confirmed
or reset asks for nicks that fit, if it is allowed nine bytes or more: the numbers behind the wanted
nick stay below ten digits. -/
theorem Met.fits {past : List Report} {r : Report} (h : Met past r.search)
    (hpast : past.length < 5 * 10 ^ 7) (hmax : 9 ≤ r.maxLen) (hask : r.outcome.2 = .ask x) :
    x.byteLength ≤ r.maxLen :=
  h.counts.fits (by omega) hmax (t := r.outcome.1) (Prod.ext rfl hask)

/-! ### Room to count -/

/-- The numbers of a search stay below ten digits for another million refusals: each nick that it
remembers or uses may make it pass over nine numbers. -/
def HasRoom (n : NickSearch) : Prop := n.lastNumber + 9 * n.asked.card ≤ 98 * 10 ^ 7

/-- A search has room if it began less than 27 million refusals ago. -/
lemma Met.hasRoom {past : List Report} (h : Met past n) (hpast : past.length ≤ 27 * 10 ^ 6) :
    n.HasRoom := by
  have hfew := h.counts.few
  have hlast := h.counts.lastNumber_le (by omega)
  rw [HasRoom]
  omega

end ChatLink.NickSearch
