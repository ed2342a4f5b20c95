/-
# Channels of a valid configuration

A configuration is checked where it stands, and more than once on its way to a bridge.  A check that
finds something wrong leaves it as it was.  One that does not changes nothing but the channels, and
brings these into the form in which a line can name them: a hash sign and then no space, and not too
long.  The next check finds them in that form and leaves them.  Main statement: `check_spec`.
-/
import Mathlib
import ChatLink.Bridge.Basic
import ChatLink.Config.Reader
import ChatLink.Proofs.Message.Relayed
import ChatLink.Proofs.Text.Trim

namespace ChatLink.Config

variable {c d : Config} {name raw channel : Text} {raws names : List Text}

/-! ### Channels in form -/

/-- A channel in form. -/
structure IsFormed (name : Text) : Prop where
  size : 2 ≤ name.byteLength ∧ name.byteLength ≤ maxChannel
  trimmed : Text.trim name = name
  hash : name.head? = some '#'
  clean : ' ' ∉ name ∧ ',' ∉ name ∧ '\x07' ∉ name

/-- The channels that are not blank, trimmed and with a hash sign in front. -/
def formed (raws : List Text) : List Text :=
  (raws.filter fun raw => !raw.isBlank).map fun raw => withHash (Text.trim raw)

/-- Every channel that is not blank can be brought into form. -/
def AllFormable (raws : List Text) : Prop :=
  ∀ raw ∈ raws, raw.isBlank = false → isChannel (withHash (Text.trim raw)) = true

lemma head?_withHash (name : Text) : (withHash name).head? = some '#' := by
  fun_cases withHash name <;> rfl

lemma withHash_of_hash (h : name.head? = some '#') : withHash name = name := by
  obtain ⟨rest, rfl⟩ := List.head?_eq_some_iff.1 h
  rfl

lemma trim_withHash (raw : Text) :
    Text.trim (withHash (Text.trim raw)) = withHash (Text.trim raw) := by
  have htrimmed := Text.trim_trim raw
  generalize Text.trim raw = name at htrimmed
  fun_cases withHash name with
  | case1 => exact htrimmed
  | case2 => exact Text.trim_cons (by decide) htrimmed

lemma isChannel_iff : isChannel name = true ↔
    (2 ≤ name.byteLength ∧ name.byteLength ≤ maxChannel) ∧
      (' ' ∉ name ∧ ',' ∉ name ∧ '\x07' ∉ name) := by
  have hclean : name.any isBadInChannel = false ↔ ' ' ∉ name ∧ ',' ∉ name ∧ '\x07' ∉ name := by
    rw [List.any_eq_false]
    constructor
    · intro h
      exact ⟨fun hc => h _ hc rfl, fun hc => h _ hc rfl, fun hc => h _ hc rfl⟩
    · rintro ⟨hspace, hcomma, hbell⟩ c hc hbad
      rw [isBadInChannel, Bool.or_eq_true, Bool.or_eq_true, beq_iff_eq, beq_iff_eq,
        beq_iff_eq] at hbad
      rcases hbad with (rfl | rfl) | rfl
      · exact hspace hc
      · exact hcomma hc
      · exact hbell hc
  rw [isChannel, Bool.and_eq_true, Bool.and_eq_true, decide_eq_true_eq, decide_eq_true_eq,
    Bool.not_eq_true', hclean]

lemma isFormed_withHash (h : isChannel (withHash (Text.trim raw)) = true) :
    IsFormed (withHash (Text.trim raw)) where
  size := (isChannel_iff.1 h).1
  trimmed := trim_withHash raw
  hash := head?_withHash _
  clean := (isChannel_iff.1 h).2

lemma AllFormable.isFormed (h : AllFormable raws) : ∀ name ∈ formed raws, IsFormed name := by
  intro name hname
  obtain ⟨raw, hraw, rfl⟩ := List.mem_map.1 hname
  obtain ⟨hmem, hblank⟩ := List.mem_filter.1 hraw
  exact isFormed_withHash (h raw hmem (by simpa using hblank))

namespace IsFormed

lemma isBlank_eq_false (h : IsFormed name) : name.isBlank = false := by
  obtain ⟨rest, rfl⟩ := List.head?_eq_some_iff.1 h.hash
  rfl

/-- There is nothing to be done about a channel in form. -/
lemma withHash_trim (h : IsFormed name) : withHash (Text.trim name) = name := by
  rw [h.trimmed, withHash_of_hash h.hash]

end IsFormed

lemma formed_of_isFormed (h : ∀ name ∈ names, IsFormed name) : formed names = names := by
  have hfilter : (names.filter fun raw => !raw.isBlank) = names := by
    rw [List.filter_eq_self]
    intro name hname
    rw [(h name hname).isBlank_eq_false]
    rfl
  rw [formed, hfilter]
  exact (List.map_congr_left fun name hname => (h name hname).withHash_trim).trans (List.map_id _)

lemma allFormable_of_isFormed (h : ∀ name ∈ names, IsFormed name) : AllFormable names := by
  intro name hname _
  rw [(h name hname).withHash_trim]
  exact isChannel_iff.2 ⟨(h name hname).size, (h name hname).clean⟩

/-! ### Bringing channels into form -/

/-- Either all channels are brought into form, or there is one that cannot be. -/
lemma normalizeChannels_eq_ok_iff :
    normalizeChannels raws = .ok names ↔ AllFormable raws ∧ formed raws = names := by
  induction raws generalizing names with
  | nil =>
    rw [normalizeChannels, Except.ok.injEq]
    exact (and_iff_right fun raw hraw => absurd hraw List.not_mem_nil).symm
  | cons raw raws ih =>
    have hcons : AllFormable (raw :: raws) ↔
        (raw.isBlank = false → isChannel (withHash (Text.trim raw)) = true) ∧ AllFormable raws :=
      List.forall_mem_cons
    rw [normalizeChannels, hcons]
    by_cases hblank : raw.isBlank = true
    · -- a blank channel is left out
      have hformed : formed (raw :: raws) = formed raws := by simp [formed, hblank]
      rw [if_pos (Text.trim_eq_nil_iff.2 hblank), ih, hformed, hblank]
      simp
    rw [if_neg (mt Text.trim_eq_nil_iff.1 hblank)]
    rw [Bool.not_eq_true] at hblank
    have hformed : formed (raw :: raws) = withHash (Text.trim raw) :: formed raws := by
      simp [formed, hblank]
    rw [hformed]
    by_cases hchannel : isChannel (withHash (Text.trim raw)) = true
    · rw [if_pos hchannel]
      cases hrest : normalizeChannels raws with
      | ok rest =>
        obtain ⟨hall, hnames⟩ := ih.1 hrest
        rw [hnames, Except.ok.injEq]
        exact (and_iff_right ⟨fun _ => hchannel, hall⟩).symm
      | error e =>
        refine iff_of_false nofun fun h => ?_
        have hok := ih.2 ⟨h.1.2, rfl⟩
        rw [hrest] at hok
        cases hok
    · rw [if_neg hchannel]
      exact iff_of_false nofun fun h => hchannel (h.1.1 hblank)

/-! ### Checking a configuration -/

lemma check_of_error {e : ConfigError} (h : c.check.2 = .error e) : c.check.1 = c := by
  rw [check] at h ⊢
  split at h
  · rfl
  split at h
  · rfl
  · rfl
  · cases h

/-- A check that finds nothing wrong brings the channels into form, and there is one at least. -/
lemma check_eq_ok_iff : c.check = (d, .ok ()) ↔
    (c.problem? = none ∧ formed c.channels ≠ [] ∧ AllFormable c.channels) ∧
      d = { c with channels := formed c.channels } := by
  rw [check]
  cases hproblem : c.problem? with
  | some e => exact iff_of_false nofun fun h => by cases h.1.1
  | none =>
    dsimp only
    cases hnames : normalizeChannels c.channels with
    | error e =>
      refine iff_of_false nofun fun h => ?_
      rw [normalizeChannels_eq_ok_iff.2 ⟨h.1.2.2, rfl⟩] at hnames
      cases hnames
    | ok names =>
      obtain ⟨hall, rfl⟩ := normalizeChannels_eq_ok_iff.1 hnames
      cases hformed : formed c.channels with
      | nil => exact iff_of_false nofun fun h => h.1.2.1 rfl
      | cons name names =>
        rw [and_iff_right ⟨rfl, List.cons_ne_nil _ _, hall⟩, Prod.mk.injEq, and_iff_left rfl, eq_comm]

/-- Validation gives what such a check makes of the configuration. -/
lemma validate_eq_ok_iff : c.validate = .ok d ↔ c.check = (d, .ok ()) := by
  rw [validate]
  rcases c.check with ⟨d', _ | ⟨⟩⟩
  · simp
  · simp

lemma isFormed_of_check (h : c.check = (d, .ok ())) : ∀ name ∈ d.channels, IsFormed name := by
  obtain ⟨⟨-, -, hall⟩, rfl⟩ := check_eq_ok_iff.1 h
  exact hall.isFormed

/-- The next check finds nothing to do. -/
lemma check_of_check (h : c.check = (d, .ok ())) : d.check = (d, .ok ()) := by
  have hforms := isFormed_of_check h
  obtain ⟨⟨hproblem, hne, -⟩, hd⟩ := check_eq_ok_iff.1 h
  have hchannels : formed d.channels = d.channels := formed_of_isFormed hforms
  refine check_eq_ok_iff.2 ⟨⟨?_, ?_, allFormable_of_isFormed hforms⟩, ?_⟩
  · -- what else is checked does not depend on the channels
    rw [hd]
    exact hproblem
  · rw [hchannels, hd]
    exact hne
  · rw [hchannels]

/-! ### Valid configurations -/

lemma problem?_of_validate (h : c.validate = .ok d) : d.problem? = none :=
  (check_eq_ok_iff.1 (check_of_check (validate_eq_ok_iff.1 h))).1.1

lemma isFormed_of_validate (h : c.validate = .ok d) (hchannel : channel ∈ d.channels) :
    IsFormed channel :=
  isFormed_of_check (validate_eq_ok_iff.1 h) channel hchannel

/-- Every channel of a valid configuration can be named in a line. -/
lemma channelName_of_validate (h : c.validate = .ok d) (hchannel : channel ∈ d.channels) :
    ChannelName channel :=
  ⟨(isFormed_of_validate h hchannel).hash, (isFormed_of_validate h hchannel).clean.1⟩

/-- No channel of a valid configuration has a name that is too long. -/
lemma byteLength_le_of_validate (h : c.validate = .ok d) (hchannel : channel ∈ d.channels) :
    channel.byteLength ≤ maxChannel :=
  (isFormed_of_validate h hchannel).size.2

/-- A bridge takes a configuration that was read as it is. -/
lemma ofConfig_of_ofText {t : Text} (h : ofText t = .ok c) :
    Bridge.ofConfig c = .ok ⟨.fresh c, false, []⟩ := by
  rw [ofText, load] at h
  split at h
  · have hagain := validate_eq_ok_iff.2 (check_of_check (validate_eq_ok_iff.1 h))
    rw [Bridge.ofConfig, hagain]
  · cases h

/-- **What a check does to a configuration.**  If it finds something wrong, the configuration is left
as it was.  It finds nothing wrong exactly if all but the channels is right, one channel at least is
not blank, and each that is not blank can be brought into form.  Then it changes nothing but the
channels: the blank ones are left out, and the others are trimmed and given a hash sign where they
have none.  Each is then in form, and another check finds nothing wrong and changes nothing; so a
bridge takes a configuration that was read as it is. -/
theorem check_spec (c : Config) :
    (∀ e, c.check.2 = .error e → c.check.1 = c) ∧
    (c.check.2 = .ok () ↔
      c.problem? = none ∧ formed c.channels ≠ [] ∧ AllFormable c.channels) ∧
    (c.check.2 = .ok () →
      c.check.1 = { c with channels := formed c.channels } ∧ c.check.1.channels ≠ [] ∧
      (∀ name ∈ c.check.1.channels, IsFormed name) ∧ c.check.1.check = (c.check.1, .ok ())) ∧
    ∀ t, ofText t = .ok c → Bridge.ofConfig c = .ok ⟨.fresh c, false, []⟩ := by
  have hpair : c.check.2 = .ok () → c.check = (c.check.1, .ok ()) := fun h => Prod.ext rfl h
  refine ⟨fun e => check_of_error, ⟨fun h => (check_eq_ok_iff.1 (hpair h)).1, fun h => ?_⟩,
    fun h => ?_, fun t => ofConfig_of_ofText⟩
  · rw [check_eq_ok_iff.2 ⟨h, rfl⟩]
  · obtain ⟨⟨-, hne, -⟩, hd⟩ := check_eq_ok_iff.1 (hpair h)
    refine ⟨hd, ?_, isFormed_of_check (hpair h), check_of_check (hpair h)⟩
    rw [hd]
    exact hne

/-- Channels with blanks around them, without a hash sign, and blank throughout. -/
theorem check_spec_untidy :
    let c : Config := { Config.default with channels := ["test", " \t ", "\u3000#Other "] }
    c.check.2 = .ok () ∧ c.check.1 = { c with channels := ["#test", "#Other"] } ∧
      c.check.1.check = (c.check.1, .ok ()) := by
  intro c
  have hok : c.check.2 = .ok () := rfl
  obtain ⟨hd, -, -, hagain⟩ := (check_spec c).2.2.1 hok
  exact ⟨hok, hd, hagain⟩

end ChatLink.Config
