/-
# Words that are counted

A line tells its parameters apart in two ways.  To the tokens a run of spaces is one gap; the words
that are counted stand between single spaces, so that each further space makes an empty word and
moves those behind it.  This file finds the command and the first parameter in the text of any line
that has both, and says which word stands where the parameter is looked for.  Main statement:
`channel_of_said`.
-/
import Mathlib
import ChatLink.Proofs.Message.Layout
import ChatLink.Proofs.Message.Rules

namespace ChatLink

namespace Tokens

variable {w x t u rest line : Text} {ws : List Text} {tokens : Tokens}

/-! ### Words in their places -/

lemma EndsWord.append (ht : EndsWord t) (hu : EndsWord u) : EndsWord (t ++ u) := by
  rcases ht with rfl | ⟨v, rfl⟩
  · exact hu
  · exact .inr ⟨v ++ u, rfl⟩

/-- The first word of a text, with the spaces in front of it. -/
lemma exists_of_words_eq_cons (h : words t = w :: ws) :
    ∃ n u, t = spaces n ++ (w ++ u) ∧ (w ≠ [] ∧ ' ' ∉ w) ∧ EndsWord u ∧ words u = ws := by
  induction t with
  | nil => cases h
  | cons c t ih =>
    by_cases hc : c = ' '
    · -- a space in front is one more of those before the word
      subst hc
      have hskip : words (' ' :: t) = words t := words_spaces_append 1 t
      obtain ⟨n, u, rfl, hw⟩ := ih (hskip ▸ h)
      exact ⟨n + 1, u, rfl, hw⟩
    · obtain ⟨v, u, hsplit, hv, hu⟩ : ∃ v u, c :: t = v ++ u ∧ ' ' ∉ v ∧ EndsWord u := by
        by_cases hspace : ' ' ∈ c :: t
        · obtain ⟨v, u, hsplit, hv⟩ := List.eq_append_cons_of_mem hspace
          exact ⟨v, ' ' :: u, hsplit, hv, .inr ⟨u, rfl⟩⟩
        · exact ⟨c :: t, [], (List.append_nil _).symm, hspace, .inl rfl⟩
      have hne : v ≠ [] := by
        rintro rfl
        rcases hu with rfl | ⟨u, rfl⟩
        · cases hsplit
        · exact hc (List.cons.inj hsplit).1
      rw [hsplit, words_append hne hv hu] at h
      obtain ⟨rfl, hws⟩ := List.cons.inj h
      exact ⟨0, u, hsplit, ⟨hne, hv⟩, hu, hws⟩

/-- What is cut off is the trailing text with what stands in front of it. -/
lemma exists_cutTrailing (t : Text) : ∃ u, EndsWord u ∧ t = (cutTrailing t).1 ++ u ∧
    ∀ text ∈ (cutTrailing t).2, u = ' ' :: ':' :: text := by
  induction t using cutTrailing.induct with
  | case1 => exact ⟨[], .inl rfl, rfl, nofun⟩
  | case2 t =>
    refine ⟨' ' :: ':' :: t, .inr ⟨_, rfl⟩, rfl, ?_⟩
    rintro text ⟨⟩
    rfl
  | case3 c t hc _ _ _ ih =>
    obtain ⟨u, hu, ht, htext⟩ := ih
    refine ⟨u, hu, ?_, ?_⟩
    · rw [cutTrailing]
      · exact congrArg (c :: ·) ht
      · exact hc
    · rw [cutTrailing]
      · exact htext
      · exact hc

/-! ### The command and the first parameter -/

/-- A text that starts with a command and a parameter, and how many spaces it has in front of the
command, and between the two beyond the one that must be there. -/
structure Opening where
  before : Nat
  command : Text
  gap : Nat
  target : Text
  more : Text
  command_word : command ≠ [] ∧ ' ' ∉ command
  target_word : target ≠ [] ∧ ' ' ∉ target
  /-- The parameter is not longer. -/
  more_ends : EndsWord more

namespace Opening

/-- The text. -/
def text (o : Opening) : Text :=
  spaces o.before ++ (o.command ++ (spaces (o.gap + 1) ++ (o.target ++ o.more)))

/-- There is no space but the one that must be there. -/
def IsTight (o : Opening) : Prop := o.before = 0 ∧ o.gap = 0

instance (o : Opening) : Decidable o.IsTight :=
  inferInstanceAs (Decidable (o.before = 0 ∧ o.gap = 0))

/-- The word that stands after the first one. -/
def second (o : Opening) : Text :=
  if o.IsTight then o.target else if o.before = 1 then o.command else []

lemma wordAt?_one (o : Opening) : wordAt? o.text 1 = some o.second := by
  obtain ⟨before, command, gap, target, more, ⟨-, hcommand⟩, ⟨-, htarget⟩, hmore⟩ := o
  have hspace : ∀ t : Text, Text.splitOn ' ' (' ' :: t) = [] :: Text.splitOn ' ' t := fun t => rfl
  match before, gap with
  | 0, 0 =>
    rw [wordAt?, text, spaces_zero, List.nil_append, spaces_succ, List.cons_append,
      Text.splitOn_append_cons hcommand, spaces_zero, List.nil_append]
    obtain ⟨parts, hparts⟩ := splitOn_append htarget hmore
    rw [hparts]
    rfl
  | 0, gap + 1 =>
    rw [wordAt?, text, spaces_zero, List.nil_append, spaces_succ, List.cons_append,
      Text.splitOn_append_cons hcommand, spaces_succ, List.cons_append, hspace]
    rfl
  | 1, gap =>
    rw [wordAt?, text, spaces_succ, List.cons_append, hspace, spaces_zero, List.nil_append,
      spaces_succ, List.cons_append, Text.splitOn_append_cons hcommand]
    rfl
  | before + 2, gap =>
    rw [wordAt?, text, spaces_succ, List.cons_append, hspace, spaces_succ, List.cons_append, hspace]
    rfl

end Opening

@[simp] lemma byteLength_spaces (n : Nat) : (spaces n).byteLength = n :=
  Text.byteLength_replicate n rfl

lemma Opening.byteLength_text (o : Opening) : o.text.byteLength =
    o.before + o.command.byteLength + (o.gap + 1) + o.target.byteLength + o.more.byteLength := by
  rw [text]
  simp only [Text.byteLength_append, byteLength_spaces]
  omega

/-- A word that follows another one has a space in front of it. -/
lemma gap_pos {gap : Nat} (hx : x ≠ [] ∧ ' ' ∉ x) (h : EndsWord (spaces gap ++ (x ++ u))) :
    0 < gap := by
  cases gap with
  | zero =>
    -- what ends a word starts with a space, and another word does not
    exfalso
    obtain ⟨c, x, rfl⟩ := List.exists_cons_of_ne_nil hx.1
    rcases h with h | ⟨v, h⟩
    · cases h
    · obtain ⟨rfl, -⟩ := List.cons.inj h
      exact hx.2 List.mem_cons_self
  | succ gap => exact gap.succ_pos

/-- Two words at the start of a text open it. -/
lemma exists_opening (h : words (cutTrailing rest).1 = w :: x :: ws) :
    ∃ o : Opening, o.command = w ∧ o.target = x ∧ rest = o.text := by
  obtain ⟨before, u, hhead, hw, hu, hwords⟩ := exists_of_words_eq_cons h
  obtain ⟨gap, v, rfl, hx, hv, -⟩ := exists_of_words_eq_cons hwords
  obtain ⟨gap, rfl⟩ := Nat.exists_eq_add_one.2 (gap_pos hx hu)
  obtain ⟨tail, htail, hrest, -⟩ := exists_cutTrailing rest
  refine ⟨⟨before, w, gap, x, v ++ tail, hw, hx, hv.append htail⟩, rfl, rfl, ?_⟩
  rw [hrest, hhead]
  simp [Opening.text]

/-- A line with a sender and what follows the sender. -/
def openSender : Option Text → Text
  | some sender => ':' :: (sender ++ [' '])
  | none => []

lemma eq_openSender_append {sender : Option Text} (h : cutSender? line = some (sender, rest)) :
    line = openSender sender ++ rest ∧ ∀ s ∈ sender, ' ' ∉ s := by
  rw [cutSender?.eq_def] at h
  split at h
  · split at h
    · next hcut =>
      cases h
      obtain ⟨rfl, hspace⟩ := Text.eq_append_cons_of_cut? hcut
      refine ⟨by simp [openSender], ?_⟩
      rintro s ⟨⟩
      exact hspace
    · cases h
  · cases h
    exact ⟨rfl, fun s hs => by cases hs⟩

/-- What of a line its tokens are made from. -/
lemma exists_of_ofText? (h : ofText? line = some tokens) :
    ∃ rest, line = openSender tokens.sender ++ rest ∧ (∀ s ∈ tokens.sender, ' ' ∉ s) ∧
      words (cutTrailing rest).1 = tokens.command :: tokens.params ∧
      (cutTrailing rest).2 = tokens.trailing := by
  rw [ofText?] at h
  split at h
  · cases h
  · next sender rest hsender =>
    obtain ⟨hline, hspace⟩ := eq_openSender_append hsender
    dsimp only at h
    split at h
    · cases h
    · next command params hwords =>
      cases h
      exact ⟨rest, hline, hspace, hwords, rfl⟩

/-- **The command and the first parameter in a line.** -/
lemma exists_opening_of_ofText? (h : ofText? line = some tokens) (htarget : tokens.target? = some x) :
    ∃ o : Opening, o.command = tokens.command ∧ o.target = x ∧
      line = openSender tokens.sender ++ o.text ∧ ∀ s ∈ tokens.sender, ' ' ∉ s := by
  obtain ⟨rest, hline, hspace, hwords, -⟩ := exists_of_ofText? h
  obtain ⟨params, hparams⟩ := List.head?_eq_some_iff.1 htarget
  rw [hparams] at hwords
  obtain ⟨o, hcommand, hx, rfl⟩ := exists_opening hwords
  exact ⟨o, hcommand, hx, hline, hspace⟩

/-- The trailing text stands behind the command. -/
lemma exists_of_trailing {text : Text} (h : ofText? line = some tokens)
    (htrailing : tokens.trailing = some text) :
    ∃ before between, line = before ++ tokens.command ++ between ++ (" :" ++ text) := by
  obtain ⟨rest, hline, -, hwords, hcut⟩ := exists_of_ofText? h
  obtain ⟨u, -, hrest, htext⟩ := exists_cutTrailing rest
  obtain ⟨n, between, hhead, -, -, -⟩ := exists_of_words_eq_cons hwords
  refine ⟨openSender tokens.sender ++ spaces n, between, ?_⟩
  rw [hline, hrest, hhead, htext text (hcut.trans htrailing)]
  simp

end Tokens

/-! ### What is said in a channel -/

/-- The kinds of what is said or done in a channel. -/
def Kind.isSaid : Kind → Bool
  | channelMessage | channelAction | channelNotice => true
  | _ => false

variable {own line : Text} {t : Tokens} {kind : Kind} {rule : Rule}

lemma Rule.cases_of_isSaid (h : rule.kind? own t = some kind) (hsaid : kind.isSaid = true) :
    rule = .action ∨ rule = .message ∨ rule = .notice := by
  have hrules : ∀ rule ∈ Rule.table, ∀ k ∈ rule.kinds, k.isSaid = true →
      rule = .action ∨ rule = .message ∨ rule = .notice := by decide
  exact hrules rule rule.mem_table kind (mem_kinds h) hsaid

/-- What is said in a channel has a sender, and a channel as its target. -/
lemma Rule.target_of_isSaid (h : rule.kind? own t = some kind) (hsaid : kind.isSaid = true) :
    t.sender.isSome = true ∧ ∃ target, t.target? = some target ∧ isChannelTarget target = true := by
  have hsender : ∀ {name : Text} {b : Bool}, (t.isCommand name && b) = true →
      t.sender.isSome = true := by
    intro name b hcond
    rw [Bool.and_eq_true, Tokens.isCommand, Bool.and_eq_true] at hcond
    exact hcond.1.1
  have htarget : ∀ {channel user : Kind}, byTarget t channel user = some kind →
      user.isSaid = false → ∃ target, t.target? = some target ∧ isChannelTarget target = true := by
    intro channel user hkind huser
    obtain ⟨target, htarget, rfl⟩ := byTarget_eq_some hkind
    split at hsaid
    · next hchannel => exact ⟨target, htarget, hchannel⟩
    · rw [huser] at hsaid
      cases hsaid
  rcases cases_of_isSaid h hsaid with rfl | rfl | rfl
  all_goals
    rw [kind?] at h
    split at h
    · next hcond => exact ⟨hsender hcond, htarget h rfl⟩
    · cases h

lemma head?_ne_of_isChannelTarget {target : Text} (h : isChannelTarget target = true) :
    target.head? ≠ some ':' := by
  intro hcolon
  obtain ⟨target, rfl⟩ := List.head?_eq_some_iff.1 hcolon
  exact absurd h (by decide : ¬ channelSigils.contains ':' = true)

/-- The commands by which something is said start with a letter. -/
lemma Rule.command_of_isSaid (h : rule.kind? own t = some kind) (hsaid : kind.isSaid = true) :
    t.command.head? ≠ some ':' ∧ isChannelTarget t.command = false := by
  have hletter : ∃ c command, t.command = c :: command ∧ (c.toLower = 'p' ∨ c.toLower = 'n') := by
    have hname : Text.sameName t.command "PRIVMSG" = true ∨
        Text.sameName t.command "NOTICE" = true := by
      have hsome := Option.isSome_of_eq_some h
      rcases cases_of_isSaid h hsaid with rfl | rfl | rfl
      · exact .inl (sameName_of_isSome hsome rfl)
      · exact .inl (sameName_of_isSome hsome rfl)
      · exact .inr (sameName_of_isSome hsome rfl)
    cases hcommand : t.command with
    | nil =>
      rw [hcommand] at hname
      rcases hname with hname | hname <;> cases hname
    | cons c command =>
      rw [hcommand, Text.sameName, Text.sameName, beq_iff_eq, beq_iff_eq] at hname
      exact ⟨c, command, rfl, hname.imp (List.cons.inj · |>.1) (List.cons.inj · |>.1)⟩
  obtain ⟨c, command, hcommand, hlower⟩ := hletter
  have hmem : c ∉ ':' :: channelSigils := by
    intro hmem
    simp only [channelSigils, List.mem_cons, List.not_mem_nil, or_false] at hmem
    rcases hmem with rfl | rfl | rfl | rfl | rfl <;> exact absurd hlower (by decide)
  rw [List.mem_cons, not_or] at hmem
  rw [hcommand]
  exact ⟨fun hc => hmem.1 (Option.some.inj hc), by simpa [isChannelTarget] using hmem.2⟩

/-- A word without a colon in front is read as the name of a channel as it is. -/
lemma channelOf_of_wordAt? {i : Nat} {word : Text} (hpos : kind.channelPosition? = some i)
    (hword : wordAt? line i = some word) (hcolon : word.head? ≠ some ':') :
    channelOf kind line = if word = [] then none else some word := by
  have hdrop : Text.dropLead ':' word = word := by
    cases word with
    | nil => rfl
    | cons c word => exact if_neg fun hc => hcolon (congrArg some hc)
  rw [channelOf, hpos]
  dsimp only
  rw [hword]
  dsimp only
  rw [hdrop]

/-- The channel of a line that says something in one is looked for in the second word after the
sender. -/
lemma channelOf_openSender {sender : Text} (hkind : kind.isSaid = true) (hspace : ' ' ∉ sender)
    (o : Tokens.Opening) (hcommand : o.command.head? ≠ some ':')
    (htarget : o.target.head? ≠ some ':') :
    channelOf kind (':' :: (sender ++ ' ' :: o.text)) =
      if o.IsTight then some o.target else if o.before = 1 then some o.command else none := by
  have hpos : kind.channelPosition? = some 2 := by
    cases kind <;> first | rfl | cases hkind
  have hword : wordAt? (':' :: (sender ++ ' ' :: o.text)) 2 = some o.second := by
    have hlead : ' ' ∉ ':' :: sender := by simp [hspace]
    rw [wordAt?, ← List.cons_append, Text.splitOn_append_cons hlead]
    exact o.wordAt?_one
  have hcolon : o.second.head? ≠ some ':' := by
    rw [Tokens.Opening.second]
    split
    · exact htarget
    · split
      · exact hcommand
      · exact nofun
  rw [channelOf_of_wordAt? hpos hword hcolon, Tokens.Opening.second]
  split
  · rw [if_neg o.target_word.1]
  · split
    · rw [if_neg o.command_word.1]
    · rw [if_pos rfl]

/-- **The channel of what is said in one.**  A line that says or does something in a channel has a
sender, and its first parameter is a channel.  The message is about that channel exactly if there is
one space between the sender and the command, and one between the command and the parameter.  With
one more in front of the command, the command is taken for the channel; with any other spaces no
channel is found. -/
theorem channel_of_said (own line : Text) (h : (Message.ofLine own line).kind.isSaid = true) :
    ∃ (t : Tokens) (o : Tokens.Opening) (sender : Text),
      Tokens.ofText? line = some t ∧ t.sender = some sender ∧ t.command = o.command ∧
      t.target? = some o.target ∧ isChannelTarget o.target = true ∧
      line = ':' :: (sender ++ ' ' :: o.text) ∧ ' ' ∉ sender ∧
      (Message.ofLine own line).channel =
        (if o.IsTight then some o.target else if o.before = 1 then some o.command else none) ∧
      ((Message.ofLine own line).channel = some o.target ↔ o.IsTight) := by
  have hknown : (Message.ofLine own line).kind ≠ .unknown := by
    intro hunknown
    rw [hunknown] at h
    cases h
  obtain ⟨t, rule, htokens, hrule⟩ := Kind.exists_rule rfl hknown
  obtain ⟨hsender, x, htarget, hchannel⟩ := Rule.target_of_isSaid hrule h
  obtain ⟨hcolon, huser⟩ := Rule.command_of_isSaid hrule h
  obtain ⟨sender, hsender⟩ := Option.isSome_iff_exists.1 hsender
  obtain ⟨o, hcommand, rfl, hline, hspace⟩ := Tokens.exists_opening_of_ofText? htokens htarget
  rw [hsender] at hline hspace
  rw [← hcommand] at hcolon huser
  have hline : line = ':' :: (sender ++ ' ' :: o.text) := by simpa [Tokens.openSender] using hline
  have hresult : (Message.ofLine own line).channel =
      if o.IsTight then some o.target else if o.before = 1 then some o.command else none := by
    show channelOf (Message.ofLine own line).kind line = _
    conv_lhs => rw [hline]
    exact channelOf_openSender (hline ▸ h) (hspace sender rfl) o hcolon
      (head?_ne_of_isChannelTarget hchannel)
  refine ⟨t, o, sender, htokens, hsender, hcommand.symm, htarget, hchannel, hline,
    hspace sender rfl, hresult, ?_⟩
  rw [hresult]
  split
  · next htight => exact iff_of_true rfl htight
  · next hloose =>
    refine iff_of_false ?_ hloose
    split
    · -- the command is not the channel, as it is none
      intro hsame
      rw [Option.some.inj hsame, hchannel] at huser
      cases huser
    · simp

/-- An action with two spaces in front of its command, and one in front of its target. -/
theorem channel_of_said_action :
    let line : Text := ":bob!b@h  privmsg #a :\x01ACTION waves\x01"
    (Message.ofLine [] line).kind.isSaid = true ∧
      ∃ (t : Tokens) (o : Tokens.Opening), Tokens.ofText? line = some t ∧
        t.target? = some o.target ∧ ¬ o.IsTight ∧
        (Message.ofLine [] line).channel = some ("privmsg" : Text) := by
  intro line
  have hsaid : (Message.ofLine [] line).kind.isSaid = true := by decide
  obtain ⟨t, o, -, htokens, -, -, htarget, hchannel, -, -, -, hiff⟩ := channel_of_said [] line hsaid
  have hcommand : (Message.ofLine [] line).channel = some ("privmsg" : Text) := by decide
  refine ⟨hsaid, t, o, htokens, htarget, fun htight => ?_, hcommand⟩
  have hsame := Option.some.inj (hcommand.symm.trans (hiff.2 htight))
  rw [← hsame] at hchannel
  exact absurd hchannel (by decide)

/-- The same message with one space between its words, with two in front of the channel, and with
two in front of the command. -/
theorem channel_of_doubled_space :
    let told : Text → Kind × Option Text := fun line =>
      ((Message.ofLine [] line).kind, (Message.ofLine [] line).channel)
    told ":bob!b@host PRIVMSG #a :hi" = (Kind.channelMessage, some ("#a" : Text)) ∧
      told ":bob!b@host PRIVMSG  #a :hi" = (Kind.channelMessage, none) ∧
      told ":bob!b@host  PRIVMSG #a :hi" = (Kind.channelMessage, some ("PRIVMSG" : Text)) := by
  decide

end ChatLink
