/-
# Lines that tell what users do

Messages, actions, arrivals, departures and changes of nick.  The own nick decides on modes only,
so every session understands such a line alike, and no such line is a numeric reply.
-/
import Mathlib
import ChatLink.Proofs.Message.Rules

namespace ChatLink

/-- The kinds of lines that tell what users do. -/
def Kind.isTraffic : Kind → Bool
  | channelMessage | channelAction | queryMessage | queryAction | ctcpRequest => true
  | join | part | quit | kick | nickChange => true
  | _ => false

variable {own own' line command name : Text} {t : Tokens} {k : Kind} {rule : Rule}

/-! ### The own nick -/

namespace Rule

/-- Only the rule for modes looks at the own nick. -/
lemma kind?_own (own own' : Text) (t : Tokens) (h : rule ≠ .modeChange) :
    rule.kind? own t = rule.kind? own' t := by
  cases rule with
  | modeChange => exact absurd rfl h
  | _ => rfl

lemma kind?_modeChange_cases (h : modeChange.kind? own t = some k) :
    k = .userModeChange ∨ k = .channelModeChange := by
  simpa [kinds] using mem_kinds h

lemma isTraffic_modeChange (h : modeChange.kind? own t = some k) : k.isTraffic = false := by
  rcases kind?_modeChange_cases h with rfl | rfl <;> rfl

lemma kind?_modeChange_eq_none (h : modeChange.kind? own t = none) :
    modeChange.kind? own' t = none := by
  rw [kind?] at h ⊢
  split
  · next hcond =>
    rw [if_pos hcond] at h
    split at h
    · cases h
    · rfl
  · rfl

/-- A rule that finds another kind than a mode decides for every own nick. -/
lemma findSome?_own {rules : List Rule} (own' : Text)
    (hfind : rules.findSome? (kind? own t) = some k)
    (hmode : ∀ own, modeChange.kind? own t ≠ some k) :
    rules.findSome? (kind? own' t) = some k := by
  -- the rule that decides is not the one for modes, and no earlier one applies for either nick
  obtain ⟨before, rule, after, hrules, hrule, hbefore⟩ := List.findSome?_eq_some_iff.1 hfind
  have hne : rule ≠ .modeChange := by
    rintro rfl
    exact hmode own hrule
  refine List.findSome?_eq_some_iff.2 ⟨before, rule, after, hrules, ?_, ?_⟩
  · rw [kind?_own own' own t hne, hrule]
  · intro other hother
    by_cases hmode' : other = .modeChange
    · subst hmode'
      exact kind?_modeChange_eq_none (hbefore _ hother)
    · rw [kind?_own own' own t hmode', hbefore _ hother]

/-- The kind of traffic is the same for every session. -/
lemma classifyBy_own {rules : List Rule} (own' : Text)
    (h : (classifyBy rules own t).isTraffic = true) :
    classifyBy rules own' t = classifyBy rules own t := by
  rw [classifyBy] at h ⊢
  cases hfind : rules.findSome? (kind? own t) with
  | none =>
    rw [hfind] at h
    cases h
  | some k =>
    rw [hfind, Option.getD_some] at h
    have hmode : ∀ own, modeChange.kind? own t ≠ some k := by
      intro own hk
      rw [isTraffic_modeChange hk] at h
      cases h
    rw [classifyBy, findSome?_own own' hfind hmode, hfind]

/-- A line that one session does not recognise is recognised by none. -/
lemma classifyBy_eq_unknown {rules : List Rule} (own' : Text)
    (h : classifyBy rules own t = .unknown) : classifyBy rules own' t = .unknown := by
  rw [classifyBy] at h ⊢
  cases hfind : rules.findSome? (kind? own t) with
  | none =>
    have hnone : rules.findSome? (kind? own' t) = none := by
      rw [List.findSome?_eq_none_iff] at hfind ⊢
      intro rule hrule
      by_cases hmode : rule = .modeChange
      · subst hmode
        exact kind?_modeChange_eq_none (hfind _ hrule)
      · rw [kind?_own own' own t hmode, hfind _ hrule]
    rw [hnone, Option.getD_none]
  | some k =>
    rw [hfind, Option.getD_some] at h
    have hmode : ∀ own, modeChange.kind? own t ≠ some k := by
      intro own hk
      rcases kind?_modeChange_cases hk with rfl | rfl <;> cases h
    rw [findSome?_own own' hfind hmode, Option.getD_some, h]

end Rule

/-! ### Numeric codes -/

/-- A rule that finds traffic has seen a command in words. -/
lemma Rule.ofToken?_of_isTraffic (h : rule.kind? own t = some k) (hk : k.isTraffic = true) :
    ReplyCode.ofToken? t.command = none := by
  cases hname : rule.command? with
  | none =>
    have hreplies : ∀ k ∈ Rule.kinds .numericReply, k.isTraffic = false := by decide
    rw [eq_numericReply_of_command? hname] at h
    rw [hreplies k (mem_kinds h)] at hk
    cases hk
  | some name => exact ofToken?_of_command? (Option.isSome_of_eq_some h) hname

/-! ### Messages -/

lemma Kind.ofLine_own (own' : Text) (h : (Kind.ofLine own line).isTraffic = true) :
    Kind.ofLine own' line = Kind.ofLine own line := by
  rw [ofLine] at h ⊢
  cases ht : Tokens.ofText? line with
  | none => rw [ofLine, ht]
  | some t =>
    rw [ht] at h
    rw [ofLine, ht]
    exact Rule.classifyBy_own own' h

lemma Kind.ofLine_eq_unknown (own' : Text) (h : Kind.ofLine own line = .unknown) :
    Kind.ofLine own' line = .unknown := by
  rw [ofLine] at h ⊢
  cases ht : Tokens.ofText? line with
  | none => rfl
  | some t =>
    rw [ht] at h
    exact Rule.classifyBy_eq_unknown own' h

/-- A line of traffic is understood alike whatever the own nick is. -/
lemma Message.ofLine_own (own' : Text) (h : (ofLine own line).kind.isTraffic = true) :
    ofLine own' line = ofLine own line := by
  have hkind : Kind.ofLine own' line = Kind.ofLine own line := Kind.ofLine_own own' h
  rw [ofLine, ofLine, hkind]

/-- A line of traffic is no numeric reply. -/
lemma Message.replyCode_of_isTraffic (h : (ofLine own line).kind.isTraffic = true) :
    (ofLine own line).replyCode = none := by
  have hknown : (ofLine own line).kind ≠ .unknown := by
    intro hunknown
    rw [hunknown] at h
    cases h
  obtain ⟨t, rule, htokens, hrule⟩ := Kind.exists_rule rfl hknown
  show (Tokens.ofText? line).bind (fun t => ReplyCode.ofToken? t.command) = none
  rw [htokens, Option.bind_some, Rule.ofToken?_of_isTraffic hrule h]

end ChatLink
