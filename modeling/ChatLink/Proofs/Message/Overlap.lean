/-
# Rules that overlap

Which rules can recognise the same line.  Every rule is about one command, and two rules about the
same command are one a special case of the other: an action is a request, which is a message, and
a client-to-client reply is a notice.  So the first rule of a list to apply is the most special of
those that apply, wherever the others stand, as long as special cases stand first.  Main statement:
`specialFirst_iff`.
-/
import Mathlib
import ChatLink.Proofs.Message.Rules

namespace ChatLink

/-- The kind of a line by a list of rules. -/
def Kind.ofLineBy (rules : List Rule) (own line : Text) : Kind :=
  match Tokens.ofText? line with
  | some t => Rule.classifyBy rules own t
  | none => .unknown

namespace Rule

variable {own line name : Text} {t : Tokens} {a b r r' : Rule} {k k' : Kind}
  {rules rules' : List Rule}

/-- The rule applies to a line. -/
def recognises (r : Rule) (own line : Text) : Bool :=
  (Tokens.ofText? line).any fun t => (r.kind? own t).isSome

/-- Every rule with each rule that it is a special case of. -/
def specialCases : List (Rule × Rule) :=
  [(action, ctcpRequest), (action, message), (ctcpRequest, message), (ctcpReply, notice)]

/-- In the list, every rule stands before those that it is a special case of. -/
def SpecialFirst (rules : List Rule) : Prop := ∀ p ∈ specialCases, [p.1, p.2].Sublist rules

instance (rules : List Rule) : Decidable (SpecialFirst rules) :=
  inferInstanceAs (Decidable (∀ p ∈ specialCases, [p.1, p.2].Sublist rules))

lemma recognises_iff : r.recognises own line = true ↔
    ∃ t, Tokens.ofText? line = some t ∧ (r.kind? own t).isSome = true := by
  rw [recognises, Option.any_eq_true]

/-! ### Which rules overlap -/

/-- The rule for numeric replies applies to lines with a number only. -/
lemma isSome_ofToken?_of_isSome (h : (numericReply.kind? own t).isSome = true) :
    (ReplyCode.ofToken? t.command).isSome = true := by
  rw [kind?] at h
  split at h
  · next hcode =>
    rw [hcode]
    rfl
  · cases h

/-- A numeric reply has no command. -/
lemma command?_eq_none_of_isSome (hnumeric : (numericReply.kind? own t).isSome = true)
    (h : (r.kind? own t).isSome = true) : r.command? = none := by
  cases hname : r.command? with
  | none => rfl
  | some name =>
    exfalso
    have hcode := isSome_ofToken?_of_isSome hnumeric
    rw [ofToken?_of_command? h hname] at hcode
    cases hcode

/-- Two rules that apply to the same line are about the same command. -/
lemma command?_eq (h : (r.kind? own t).isSome = true) (h' : (r'.kind? own t).isSome = true) :
    r.command? = r'.command? := by
  have hwords : ∀ r ∈ table, ∀ r' ∈ table, ∀ name ∈ r.command?, ∀ name' ∈ r'.command?,
      Text.sameName name name' = true → r.command? = r'.command? := by
    decide +kernel
  cases hname : r.command? with
  | none =>
    rw [eq_numericReply_of_command? hname] at h
    rw [command?_eq_none_of_isSome h h']
  | some name =>
    cases hname' : r'.command? with
    | none =>
      rw [eq_numericReply_of_command? hname'] at h'
      rw [command?_eq_none_of_isSome h' h] at hname
      cases hname
    | some name' =>
      have hsame : Text.sameName name name' = true :=
        Text.sameName_trans ((Text.sameName_comm _ _).trans (sameName_of_isSome h hname))
          (sameName_of_isSome h' hname')
      rw [← hname, ← hname']
      exact hwords r r.mem_table r' r'.mem_table name hname name' hname' hsame

/-- Of two rules that apply to the same line one is a special case of the other. -/
lemma specialCases_of_isSome (hne : r ≠ r') (h : (r.kind? own t).isSome = true)
    (h' : (r'.kind? own t).isSome = true) :
    (r, r') ∈ specialCases ∨ (r', r) ∈ specialCases := by
  have hcommand : ∀ r ∈ table, ∀ r' ∈ table, r ≠ r' → r.command? = r'.command? →
      (r, r') ∈ specialCases ∨ (r', r) ∈ specialCases := by
    decide +kernel
  exact hcommand r r.mem_table r' r'.mem_table hne (command?_eq h h')

lemma isSome_ctcpRequest_of_action (h : (action.kind? own t).isSome = true) :
    (ctcpRequest.kind? own t).isSome = true := by
  simp only [kind?, isSome_whenTrue, isSome_ite_none, isSome_byTarget, Bool.and_eq_true,
    Option.any_eq_true] at h ⊢
  obtain ⟨⟨hcommand, text, htext, hctcp, -⟩, htarget⟩ := h
  exact ⟨⟨hcommand, htarget⟩, text, htext, hctcp⟩

lemma isSome_message_of_ctcpRequest (h : (ctcpRequest.kind? own t).isSome = true) :
    (message.kind? own t).isSome = true := by
  simp only [kind?, isSome_whenTrue, isSome_ite_none, isSome_byTarget, Bool.and_eq_true] at h ⊢
  obtain ⟨⟨hcommand, htarget⟩, hctcp⟩ := h
  exact ⟨⟨hcommand, Option.isSome_of_any hctcp⟩, htarget⟩

lemma isSome_notice_of_ctcpReply (h : (ctcpReply.kind? own t).isSome = true) :
    (notice.kind? own t).isSome = true := by
  simp only [kind?, isSome_whenTrue, isSome_ite_none, isSome_byTarget, Bool.and_eq_true] at h ⊢
  obtain ⟨⟨hcommand, htarget⟩, hctcp⟩ := h
  exact ⟨⟨hcommand, Option.isSome_of_any hctcp⟩, htarget⟩

/-- Where a special case applies, so does every rule that it is a special case of. -/
lemma isSome_of_specialCases (hspecial : (a, b) ∈ specialCases)
    (h : (a.kind? own t).isSome = true) : (b.kind? own t).isSome = true := by
  simp only [specialCases, List.mem_cons, List.not_mem_nil, or_false, Prod.mk.injEq] at hspecial
  rcases hspecial with ⟨rfl, rfl⟩ | ⟨rfl, rfl⟩ | ⟨rfl, rfl⟩ | ⟨rfl, rfl⟩
  · exact isSome_ctcpRequest_of_action h
  · exact isSome_message_of_ctcpRequest (isSome_ctcpRequest_of_action h)
  · exact isSome_message_of_ctcpRequest h
  · exact isSome_notice_of_ctcpReply h

/-! ### The first rule to apply -/

lemma mem_of_pair_sublist {before after : List Rule} (hnodup : (before ++ a :: after).Nodup)
    (hpair : [b, a].Sublist (before ++ a :: after)) : b ∈ before := by
  have hafter : a ∉ after := (List.nodup_cons.1 (List.nodup_append.1 hnodup).2.1).1
  obtain ⟨_ | ⟨c, l⟩, l', hl, hbefore, hrest⟩ := List.sublist_append_iff.1 hpair
  · -- neither of the two stands in front, so `a` stands again after itself
    exfalso
    rw [List.nil_append] at hl
    rw [← hl, List.cons_sublist_cons'] at hrest
    rcases hrest with hrest | ⟨-, hrest⟩
    · exact hafter (hrest.subset (by simp))
    · exact hafter (hrest.subset (by simp))
  · obtain ⟨rfl, -⟩ := List.cons.inj hl
    exact hbefore.subset List.mem_cons_self

lemma specialCases_asymm (h : (a, b) ∈ specialCases) : (b, a) ∉ specialCases := by
  have hall : ∀ p ∈ specialCases, (p.2, p.1) ∉ specialCases := by decide
  exact hall _ h

/-- In a list with special cases first, the first rule to apply is a special case of every other
that applies. -/
lemma exists_first (hnodup : rules.Nodup) (hfirst : SpecialFirst rules)
    (h : rules.findSome? (kind? own t) = some k) :
    ∃ r ∈ rules, r.kind? own t = some k ∧
      ∀ r' ∈ rules, r' ≠ r → (r'.kind? own t).isSome = true → (r, r') ∈ specialCases := by
  obtain ⟨before, r, after, rfl, hr, hbefore⟩ := List.findSome?_eq_some_iff.1 h
  refine ⟨r, by simp, hr, ?_⟩
  intro r' hr' hne happlies
  rcases specialCases_of_isSome hne happlies (Option.isSome_of_eq_some hr) with hspecial | hspecial
  · -- a special case of `r` would stand before it, where no rule applies
    exfalso
    have hmem := mem_of_pair_sublist hnodup (hfirst _ hspecial)
    rw [hbefore r' hmem] at happlies
    cases happlies
  · exact hspecial

/-- Lists of the same rules, both with special cases first, decide alike. -/
lemma findSome?_eq_of_specialFirst (hperm : rules.Perm rules') (hnodup : rules.Nodup)
    (hfirst : SpecialFirst rules) (hfirst' : SpecialFirst rules') :
    rules.findSome? (kind? own t) = rules'.findSome? (kind? own t) := by
  cases h : rules.findSome? (kind? own t) with
  | none =>
    rw [List.findSome?_eq_none_iff] at h
    rw [eq_comm, List.findSome?_eq_none_iff]
    exact fun r hr => h r (hperm.mem_iff.2 hr)
  | some k =>
    obtain ⟨r, hr, hrk, hrleast⟩ := exists_first hnodup hfirst h
    cases h' : rules'.findSome? (kind? own t) with
    | none =>
      exfalso
      rw [List.findSome?_eq_none_iff.1 h' r (hperm.mem_iff.1 hr)] at hrk
      cases hrk
    | some k' =>
      obtain ⟨r', hr', hrk', hrleast'⟩ := exists_first (hperm.nodup_iff.1 hnodup) hfirst' h'
      -- of two rules that both come first each would be a special case of the other
      have heq : r = r' := by
        by_contra hne
        have hspecial :=
          hrleast r' (hperm.mem_iff.2 hr') (Ne.symm hne) (Option.isSome_of_eq_some hrk')
        have hspecial' := hrleast' r (hperm.mem_iff.1 hr) hne (Option.isSome_of_eq_some hrk)
        exact specialCases_asymm hspecial hspecial'
      subst heq
      rw [← hrk, hrk']

/-! ### Lines that show the order -/

/-- For every special case there is a line to which the more general rule applies as well, but of
which the special case alone gives the kind. -/
lemma exists_telling_line (h : (a, b) ∈ specialCases) : ∃ line t k, Tokens.ofText? line = some t ∧
    table.findSome? (kind? [] t) = some k ∧ k ≠ .unknown ∧ (b.kind? [] t).isSome = true ∧
      ∀ r ∈ table, r.kind? [] t = some k → r = a := by
  simp only [specialCases, List.mem_cons, List.not_mem_nil, or_false, Prod.mk.injEq] at h
  rcases h with ⟨rfl, rfl⟩ | ⟨rfl, rfl⟩ | ⟨rfl, rfl⟩ | ⟨rfl, rfl⟩
  · exact ⟨":a!b@c PRIVMSG #d :\x01ACTION e\x01", _, _, rfl, rfl, by decide, by decide, by decide⟩
  · exact ⟨":a!b@c PRIVMSG #d :\x01ACTION e\x01", _, _, rfl, rfl, by decide, by decide, by decide⟩
  · exact ⟨":a!b@c PRIVMSG #d :\x01PING e\x01", _, _, rfl, rfl, by decide, by decide, by decide⟩
  · exact ⟨":a!b@c NOTICE #d :\x01PING e\x01", _, _, rfl, rfl, by decide, by decide, by decide⟩

/-- A rule that alone gives the kind on which a list decides stands before all that apply. -/
lemma pair_sublist_of_findSome? (hperm : rules.Perm table)
    (h : rules.findSome? (kind? own t) = some k) (hb : (b.kind? own t).isSome = true)
    (hne : a ≠ b) (honly : ∀ r ∈ table, r.kind? own t = some k → r = a) :
    [a, b].Sublist rules := by
  have hmem : b ∈ rules := hperm.mem_iff.2 b.mem_table
  obtain ⟨before, r, after, rfl, hr, hbefore⟩ := List.findSome?_eq_some_iff.1 h
  obtain rfl : r = a := honly r r.mem_table hr
  have hafter : b ∈ after := by
    rcases List.mem_append.1 hmem with hmem | hmem
    · rw [hbefore b hmem] at hb
      cases hb
    · exact (List.mem_cons.1 hmem).resolve_left (Ne.symm hne)
  exact ((List.singleton_sublist.2 hafter).cons_cons r).trans (List.sublist_append_right _ _)

/-! ### Lines -/

/-- Every line to which a special case applies is one of the more general rule. -/
lemma recognises_of_specialCases (h : (a, b) ∈ specialCases) (ha : a.recognises own line = true) :
    b.recognises own line = true := by
  obtain ⟨t, ht, happlies⟩ := recognises_iff.1 ha
  exact recognises_iff.2 ⟨t, ht, isSome_of_specialCases h happlies⟩

lemma exists_recognises_of_specialCases (h : (a, b) ∈ specialCases) :
    ∃ own line, a.recognises own line = true ∧ b.recognises own line = true := by
  obtain ⟨line, t, k, ht, hfind, -, -, honly⟩ := exists_telling_line h
  obtain ⟨r, hr, hrk⟩ := List.exists_of_findSome?_eq_some hfind
  obtain rfl := honly r hr hrk
  have hline := recognises_iff.2 ⟨t, ht, Option.isSome_of_eq_some hrk⟩
  exact ⟨[], line, hline, recognises_of_specialCases h hline⟩

lemma specialCases_of_recognises (hne : r ≠ r') (h : r.recognises own line = true)
    (h' : r'.recognises own line = true) : (r, r') ∈ specialCases ∨ (r', r) ∈ specialCases := by
  obtain ⟨t, ht, happlies⟩ := recognises_iff.1 h
  obtain ⟨t', ht', happlies'⟩ := recognises_iff.1 h'
  obtain rfl : t = t' := Option.some.inj (ht.symm.trans ht')
  exact specialCases_of_isSome hne happlies happlies'

lemma ofLineBy_of_ofText? (h : Tokens.ofText? line = some t) :
    Kind.ofLineBy rules own line = (rules.findSome? (kind? own t)).getD .unknown := by
  rw [Kind.ofLineBy, h]
  rfl

/-- A list with special cases first gives every line the kind that the table gives it. -/
lemma ofLineBy_eq_ofLine (hperm : rules.Perm table) (hfirst : SpecialFirst rules)
    (own line : Text) : Kind.ofLineBy rules own line = Kind.ofLine own line := by
  have htable : SpecialFirst table := by decide
  have hnodup : rules.Nodup := hperm.nodup_iff.2 (by decide)
  rw [Kind.ofLine]
  cases ht : Tokens.ofText? line with
  | none => rw [Kind.ofLineBy, ht]
  | some t =>
    rw [ofLineBy_of_ofText? ht, findSome?_eq_of_specialFirst hperm hnodup hfirst htable]
    rfl

/-- A list that gives every line the kind that the table gives it has special cases first. -/
lemma specialFirst_of_ofLineBy_eq (hperm : rules.Perm table)
    (hsame : ∀ own line, Kind.ofLineBy rules own line = Kind.ofLine own line) :
    SpecialFirst rules := by
  rintro ⟨a, b⟩ hspecial
  obtain ⟨line, t, k, ht, hfind, hknown, hb, honly⟩ := exists_telling_line hspecial
  have hk : (rules.findSome? (kind? [] t)).getD .unknown = k := by
    rw [← ofLineBy_of_ofText? ht, hsame, Kind.ofLine, ht]
    dsimp only
    rw [classifyBy, hfind, Option.getD_some]
  have hne : a ≠ b := by
    rintro rfl
    exact specialCases_asymm hspecial hspecial
  cases hrules : rules.findSome? (kind? [] t) with
  | none =>
    rw [hrules] at hk
    exact absurd hk.symm hknown
  | some k' =>
    rw [hrules, Option.getD_some] at hk
    subst hk
    exact pair_sublist_of_findSome? hperm hrules hb hne honly

/-- **The order of the rules.**  Two rules can apply to the same line only if one is a special case
of the other: an action of a request and of a message, a request of a message, a client-to-client
reply of a notice; then lines to which both apply do exist, and every line to which the special
case applies is one.  So a list of all rules in another order gives every line the same kind,
whatever the own nick is, exactly if in it too every rule stands before those that it is a special
case of. -/
theorem specialFirst_iff :
    (∀ r r' : Rule, r ≠ r' →
      ((∃ own line, r.recognises own line = true ∧ r'.recognises own line = true) ↔
        (r, r') ∈ specialCases ∨ (r', r) ∈ specialCases)) ∧
    (∀ r r' : Rule, (r, r') ∈ specialCases → ∀ own line,
      r.recognises own line = true → r'.recognises own line = true) ∧
    ∀ rules : List Rule, rules.Perm table →
      (SpecialFirst rules ↔
        ∀ own line, Kind.ofLineBy rules own line = Kind.ofLine own line) := by
  refine ⟨fun r r' hne => ⟨?_, ?_⟩, ?_, fun rules hperm => ⟨?_, ?_⟩⟩
  · rintro ⟨own, line, h, h'⟩
    exact specialCases_of_recognises hne h h'
  · rintro (hspecial | hspecial)
    · exact exists_recognises_of_specialCases hspecial
    · obtain ⟨own, line, h, h'⟩ := exists_recognises_of_specialCases hspecial
      exact ⟨own, line, h', h⟩
  · intro r r' hspecial own line h
    exact recognises_of_specialCases hspecial h
  · exact ofLineBy_eq_ofLine hperm
  · exact specialFirst_of_ofLineBy_eq hperm

/-- The rules from the last to the first, but special cases still first: this order serves as well
as the one in use, and the table turned round does not. -/
theorem specialFirst_iff_turned :
    let turned : List Rule := [kill, quit, modeChange, part, kick, nickChange, topicChange, join,
      invite, ctcpReply, notice, action, ctcpRequest, message, serverError, ping, numericReply]
    turned.Perm table ∧ table.reverse.Perm table ∧
      (∀ own line, Kind.ofLineBy turned own line = Kind.ofLine own line) ∧
      ¬ ∀ own line, Kind.ofLineBy table.reverse own line = Kind.ofLine own line := by
  intro turned
  have hturned : turned.Perm table := by decide
  have hreverse : table.reverse.Perm table := List.reverse_perm table
  refine ⟨hturned, hreverse, (specialFirst_iff.2.2 turned hturned).1 (by decide), ?_⟩
  rw [← specialFirst_iff.2.2 table.reverse hreverse]
  decide

end Rule
end ChatLink
