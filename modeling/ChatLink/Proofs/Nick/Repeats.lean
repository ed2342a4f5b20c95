/-
# Nicks that were refused before

Between two confirmations a search remembers what the network reports as refused, and what was in
use then, so that it does not ask for it again.  But it remembers nothing of a refusal after which
it keeps its nick, and an attempt that only grows by an underscore is compared with nothing: that
one is new among the nicks in use because it is longer than all of them.  Main statement:
`NickSearch.ask_repeats`.
-/
import Mathlib
import ChatLink.Proofs.Nick.Attempts

namespace ChatLink.NickSearch

variable {n t : NickSearch} {current rejected x : Text} {maxLen : Nat}

/-- A search that keeps its nick changes nothing. -/
lemma afterRefusal_keep (h : (n.afterRefusal current rejected maxLen).2 = .keep) :
    (n.afterRefusal current rejected maxLen).1 = n := by
  rw [afterRefusal] at h ⊢
  split
  · rfl
  · next hother =>
    rw [if_neg hother] at h
    dsimp only at h
    split_ifs at h

/-! ### All refusals since a confirmation -/

/-- A refusal as it reaches a search. -/
structure Report where
  /-- The search as it stood then. -/
  search : NickSearch
  /-- The nick that the network knows us by. -/
  current : Text
  /-- The nick that it refuses. -/
  rejected : Text
  /-- How many bytes it allows. -/
  maxLen : Nat

/-- What the search makes of a report. -/
def Report.outcome (r : Report) : NickSearch × NickStep :=
  r.search.afterRefusal r.current r.rejected r.maxLen

/-- The reports that a search has met since it was last confirmed or reset, and the search now.  In
between its wanted nick may have been cut anew. -/
inductive Met : List Report → NickSearch → Prop where
  | confirm (n : NickSearch) (nick : Text) : Met [] (n.confirm nick)
  | fit {past : List Report} {n : NickSearch} (h : Met past n) (maxLen : Nat) :
    Met past (n.fit maxLen)
  | report {past : List Report} {r : Report} (h : Met past r.search) :
    Met (past ++ [r]) r.outcome.1

/-- A reset confirms the wanted nick. -/
lemma met_reset (n : NickSearch) (maxLen : Nat) : Met [] (n.reset maxLen) := .confirm _ _

/-- A new search is one whose nick was just confirmed. -/
lemma met_ofNick (nick : Text) : Met [] (ofNick nick) := .confirm (ofNick nick) nick

/-- What a search knows of the reports that it has met: the nicks that were in use, and those that
were refused unless the search kept its nick then.  Before it uses numbers, no nick that was in use
is longer than the present one. -/
structure Remembers (past : List Report) (n : NickSearch) : Prop where
  used : ∀ r ∈ past, r.search.actual = n.actual ∨ r.search.actual ∈ n.tried
  refused : ∀ r ∈ past, r.outcome.2 = .keep ∨ r.rejected ∈ n.tried
  longest : n.lastNumber = 0 → ∀ r ∈ past, r.search.actual.length ≤ n.actual.length

variable {past : List Report} {r : Report}

/-- A search that asks for a nick has tried all nicks that were in use until then, and all that were
refused unless it kept its nick. -/
lemma Remembers.tried (h : Remembers past r.search)
    (htried : t.tried = r.search.tried ++ [r.rejected, r.search.actual]) :
    (∀ e ∈ past ++ [r], e.search.actual ∈ t.tried) ∧
      ∀ e ∈ past ++ [r], e.outcome.2 = .keep ∨ e.rejected ∈ t.tried := by
  rw [htried, List.forall_mem_append, List.forall_mem_append, List.forall_mem_singleton,
    List.forall_mem_singleton]
  refine ⟨⟨fun e he => ?_, by simp⟩, fun e he => ?_, by simp⟩
  · rcases h.used e he with hsame | hmem
    · simp [hsame]
    · exact List.mem_append_left _ hmem
  · exact (h.refused e he).imp_right (List.mem_append_left _)

lemma Remembers.longest_report (h : Remembers past r.search) (hzero : r.search.lastNumber = 0) :
    ∀ e ∈ past ++ [r], e.search.actual.length ≤ r.search.actual.length := by
  rw [List.forall_mem_append, List.forall_mem_singleton]
  exact ⟨h.longest hzero, le_rfl⟩

/-- A further report is remembered with the others. -/
lemma Remembers.report (h : Remembers past r.search) : Remembers (past ++ [r]) r.outcome.1 := by
  rcases houtcome : r.outcome with ⟨t, _ | x⟩
  · -- nothing changes: the nick is kept in use
    have hkeep : r.outcome.2 = .keep := by rw [houtcome]
    obtain rfl : t = r.search := by
      rw [← afterRefusal_keep hkeep, ← Report.outcome, houtcome]
    refine ⟨?_, ?_, fun hzero => h.longest_report hzero⟩
    · rw [List.forall_mem_append, List.forall_mem_singleton]
      exact ⟨h.used, .inl rfl⟩
    · rw [List.forall_mem_append, List.forall_mem_singleton]
      exact ⟨h.refused, .inl hkeep⟩
  · obtain ⟨-, -, hactual, htried, hnext⟩ := afterRefusal_ask houtcome
    obtain ⟨hused, hrefused⟩ := h.tried htried
    refine ⟨fun e he => .inr (hused e he), hrefused, fun hzero e he => ?_⟩
    rcases hnext with ⟨hstart, -, rfl, -⟩ | ⟨hlt, -⟩
    · rw [hactual, List.length_append]
      exact (h.longest_report hstart e he).trans (Nat.le_add_right _ _)
    · exact absurd hzero (Nat.ne_zero_of_lt hlt)

lemma Met.remembers (h : Met past n) : Remembers past n := by
  induction h with
  | confirm n nick => exact ⟨by simp, by simp, by simp⟩
  | fit h maxLen ih => exact ⟨ih.used, ih.refused, ih.longest⟩
  | report h ih => exact ih.report

/-- **What a search may ask for again.**  A nick that a search asks for is, even up to case, none
that was in use at any report since the last confirmation.  And it is none that one of these
reports refused, unless it is the nick in use with an underscore, or the search kept its nick on
that report. -/
theorem ask_repeats (h : Met past r.search) (hask : r.outcome.2 = .ask x) :
    ∀ e ∈ past ++ [r], Text.sameName e.search.actual x = false ∧
      (Text.sameName e.rejected x = true →
        x = r.search.actual ++ ['_'] ∨ e.outcome.2 = .keep) := by
  rcases houtcome : r.outcome with ⟨t, _ | y⟩
  · rw [houtcome] at hask
    cases hask
  obtain rfl : y = x := by
    rw [houtcome] at hask
    exact NickStep.ask.inj hask
  obtain ⟨-, -, -, htried, hnext⟩ := afterRefusal_ask houtcome
  obtain ⟨hused, hrefused⟩ := h.remembers.tried htried
  intro e he
  rcases hnext with ⟨hzero, -, rfl, -⟩ | ⟨-, -, hfresh⟩
  · refine ⟨?_, fun _ => .inl rfl⟩
    -- longer by a character than all that were in use
    rw [Bool.eq_false_iff]
    intro hsame
    have hlength := length_eq_of_sameName hsame
    have hle := h.remembers.longest_report hzero e he
    rw [List.length_append, List.length_singleton] at hlength
    omega
  · have hnew : ∀ a ∈ t.tried, Text.sameName a y = false := by
      intro a ha
      rw [Bool.eq_false_iff] at hfresh ⊢
      exact fun hsame => hfresh (wasTried_iff.2 ⟨a, ha, hsame⟩)
    refine ⟨hnew _ (hused e he), fun hsame => .inr ?_⟩
    refine (hrefused e he).resolve_right fun hmem => ?_
    rw [hnew _ hmem] at hsame
    cases hsame

/-- Two refusals in a row after a reset: the nick with an underscore, and then a number in its place. -/
theorem ask_repeats_bot :
    let first : Report := ⟨(ofNick "Bot").reset 4, "*", "Bot", 4⟩
    let second : Report := ⟨first.outcome.1, "*", "Bot_", 4⟩
    Met [first] second.search ∧ second.outcome.2 = .ask "Bot1" ∧
      ∀ e ∈ [first] ++ [second], Text.sameName e.search.actual "Bot1" = false ∧
        (Text.sameName e.rejected "Bot1" = true →
          "Bot1".toList = second.search.actual ++ ['_'] ∨ e.outcome.2 = .keep) := by
  intro first second
  have hmet : Met [first] second.search := @Met.report [] first (met_reset _ 4)
  have hask : second.outcome.2 = .ask "Bot1" := by decide
  exact ⟨hmet, hask, ask_repeats hmet hask⟩

/-- A search asks for the very nick that a report refuses, where this is the nick in use with an
underscore; and it asks for a nick that an earlier report refused, where it kept its nick then. -/
theorem asks_refused :
    (Met [] (ofNick "Bot") ∧
      (⟨ofNick "Bot", "*", "Bot_", 30⟩ : Report).outcome.2 = .ask "Bot_") ∧
    let kept : Report := ⟨(ofNick "B1").confirm "XY", "XY", "B1", 2⟩
    let next : Report := ⟨kept.outcome.1, "*", "Z", 2⟩
    Met [kept] next.search ∧ next.outcome.2 = .ask kept.rejected := by
  refine ⟨⟨met_ofNick "Bot", by decide⟩, ?_⟩
  intro kept next
  have hmet : Met [kept] next.search := @Met.report [] kept (.confirm (ofNick "B1") "XY")
  exact ⟨hmet, by decide⟩

end ChatLink.NickSearch
