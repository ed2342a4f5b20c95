/-
# What rules are about

Every rule is about one command, or about numeric replies, and gives a line one of a few kinds.  So
the kind of a line tells which rules may have found it, and with them the command of the line.
-/
import Mathlib
import ChatLink.Message.Basic

namespace ChatLink

variable {own line command name : Text} {t : Tokens} {k k' : Kind} {r : Rule}

/-! ### Numeric codes -/

lemma ReplyCode.ofToken?_eq_none (h : command.length ≠ 3) : ofToken? command = none := by
  match command with
  | [] => rfl
  | [_] => rfl
  | [_, _] => rfl
  | [_, _, _] => exact absurd rfl h
  | _ :: _ :: _ :: _ :: _ => rfl

lemma ReplyCode.ofToken?_of_sameName (h : Text.sameName command name = true)
    (hname : name.length ≠ 3) : ofToken? command = none := by
  rw [Text.sameName, beq_iff_eq] at h
  have hlength := congrArg List.length h
  rw [List.length_map, List.length_map] at hlength
  exact ReplyCode.ofToken?_eq_none (by rwa [hlength])

/-- The kinds of numeric replies. -/
def ReplyCode.kinds : List Kind := .unknown :: kindRanges.map fun entry => entry.2.2

lemma ReplyCode.mem_kinds (code : ReplyCode) : code.kind ∈ kinds := by
  rw [ReplyCode.kind, kinds]
  split
  · split
    · next hfind =>
      exact List.mem_cons_of_mem _ (List.mem_map_of_mem (List.mem_of_find?_eq_some hfind))
    · exact List.mem_cons_self
  · exact List.mem_cons_self

namespace Rule

lemma mem_table (r : Rule) : r ∈ table := by
  cases r <;> decide

/-! ### The kinds of a rule -/

lemma whenTrue_eq_some {b : Bool} (h : whenTrue b k = some k') : b = true ∧ k = k' := by
  rw [whenTrue] at h
  split at h
  · next hb => exact ⟨hb, Option.some.inj h⟩
  · cases h

/-- What the first parameter decides about the kind. -/
lemma byTarget_eq_some {channel user : Kind} (h : byTarget t channel user = some k) :
    ∃ target, t.target? = some target ∧ k = if isChannelTarget target then channel else user := by
  rw [byTarget] at h
  split at h
  · next target htarget => exact ⟨target, htarget, (Option.some.inj h).symm⟩
  · cases h

/-- The kinds that a rule can give. -/
def kinds : Rule → List Kind
  | numericReply => ReplyCode.kinds
  | ping => [.ping]
  | serverError => [.serverError]
  | action => [.channelAction, .queryAction]
  | ctcpRequest => [.ctcpRequest]
  | message => [.channelMessage, .queryMessage]
  | ctcpReply => [.ctcpReply]
  | notice => [.channelNotice, .queryNotice]
  | invite => [.invite]
  | join => [.join]
  | topicChange => [.topicChange]
  | nickChange => [.nickChange]
  | kick => [.kick]
  | part => [.part]
  | modeChange => [.userModeChange, .channelModeChange]
  | quit => [.quit]
  | kill => [.kill]

lemma mem_kinds (h : r.kind? own t = some k) : k ∈ r.kinds := by
  have hpair : ∀ {p : Prop} [Decidable p] {a b : Kind}, (if p then a else b) ∈ [a, b] := by
    intro p _ a b
    split <;> simp
  cases r with
  | numericReply =>
    rw [kind?] at h
    split at h
    · next code _ _ =>
      obtain ⟨-, rfl⟩ := whenTrue_eq_some h
      exact code.mem_kinds
    · cases h
  | action | message | notice =>
    rw [kind?] at h
    split at h
    · obtain ⟨target, -, rfl⟩ := byTarget_eq_some h
      exact hpair
    · cases h
  | modeChange =>
    rw [kind?] at h
    split at h
    · split at h
      · cases h
        exact hpair
      · cases h
    · cases h
  | _ =>
    obtain ⟨-, rfl⟩ := whenTrue_eq_some h
    exact List.mem_singleton_self _

/-! ### The command of a rule -/

/-- The command that a rule is about; a numeric reply has a number in its place. -/
def command? : Rule → Option Text
  | numericReply => none
  | ping => some "PING"
  | serverError => some "ERROR"
  | action | ctcpRequest | message => some "PRIVMSG"
  | ctcpReply | notice => some "NOTICE"
  | invite => some "INVITE"
  | join => some "JOIN"
  | topicChange => some "TOPIC"
  | nickChange => some "NICK"
  | kick => some "KICK"
  | part => some "PART"
  | modeChange => some "MODE"
  | quit => some "QUIT"
  | kill => some "KILL"

lemma eq_numericReply_of_command? (h : r.command? = none) : r = numericReply := by
  cases r <;> first | rfl | cases h

@[simp] lemma isSome_whenTrue (b : Bool) (k : Kind) : (whenTrue b k).isSome = b := by
  cases b <;> rfl

@[simp] lemma isSome_byTarget (t : Tokens) (k k' : Kind) :
    (byTarget t k k').isSome = t.target?.isSome := by
  rw [byTarget]
  cases t.target? <;> rfl

@[simp] lemma isSome_ite_none {p : Prop} [Decidable p] {x : Option Kind} :
    (if p then x else none).isSome = true ↔ p ∧ x.isSome = true := by
  split <;> simp_all

/-- A rule applies to lines with its command only, in any case. -/
lemma sameName_of_isSome (h : (r.kind? own t).isSome = true) (hname : r.command? = some name) :
    Text.sameName t.command name = true := by
  have hcommand : ∀ {word : Text}, t.isCommand word = true →
      Text.sameName t.command word = true := by
    intro word hword
    rw [Tokens.isCommand, Bool.and_eq_true] at hword
    exact hword.2
  cases r with
  | numericReply => cases hname
  | ping =>
    cases hname
    simp only [kind?, isSome_whenTrue, Bool.and_eq_true, beq_iff_eq] at h
    rw [h.1.2, Text.sameName_refl]
  | serverError =>
    cases hname
    simp only [kind?, isSome_whenTrue, Bool.and_eq_true, beq_iff_eq] at h
    rw [h.2, Text.sameName_refl]
  | quit =>
    cases hname
    simp only [kind?, isSome_whenTrue] at h
    exact hcommand h
  | invite | join | nickChange | kick | part | kill =>
    cases hname
    simp only [kind?, isSome_whenTrue, Bool.and_eq_true] at h
    exact hcommand h.1
  | action | ctcpRequest | message | ctcpReply | notice | topicChange | modeChange =>
    cases hname
    simp only [kind?, isSome_whenTrue, isSome_ite_none, Bool.and_eq_true] at h
    exact hcommand h.1.1

/-- No command of a rule can be taken for a number. -/
lemma ofToken?_of_command? (h : (r.kind? own t).isSome = true) (hname : r.command? = some name) :
    ReplyCode.ofToken? t.command = none := by
  have hlength : ∀ r ∈ table, ∀ name ∈ r.command?, name.length ≠ 3 := by decide
  exact ReplyCode.ofToken?_of_sameName (sameName_of_isSome h hname)
    (hlength r r.mem_table name hname)

end Rule

/-- A line of a known kind has it from a rule. -/
lemma Kind.exists_rule (h : Kind.ofLine own line = k) (hk : k ≠ .unknown) :
    ∃ t r, Tokens.ofText? line = some t ∧ Rule.kind? own t r = some k := by
  rw [ofLine] at h
  split at h
  · next t htokens =>
    rw [Rule.classifyBy] at h
    cases hfind : Rule.table.findSome? (Rule.kind? own t) with
    | none =>
      rw [hfind] at h
      exact absurd h.symm hk
    | some k' =>
      rw [hfind, Option.getD_some] at h
      obtain ⟨r, -, hr⟩ := List.exists_of_findSome?_eq_some hfind
      exact ⟨t, r, htokens, h ▸ hr⟩
  · exact absurd h.symm hk

end ChatLink
