/-
# What a line does to a session

Few lines change how a session stands with the network, or make it ask for a nick, and each of them
does so in one of a few ways.  This file lists these ways, with what the line must be for each.  What
holds whatever a session hears is shown for one way after the other.
-/
import Mathlib
import ChatLink.Proofs.Session.Standing

namespace ChatLink

namespace Message

variable {m : Message} {code : ReplyCode}

/-- The network refuses a nick as malformed that may be too long. -/
def refusesLong (m : Message) : Bool :=
  m.replyCode == some .erroneousNick && minMaxNick < ((m.word? 3).getD []).byteLength

/-- The network tells a session that its nick has changed. -/
def Renames (m : Message) (own : Text) : Prop :=
  m.replyCode = none ∧ m.kind = .nickChange ∧ Seat.newNick m ≠ [] ∧
    m.nick.any (Text.sameName · own) = true

instance (m : Message) (own : Text) : Decidable (m.Renames own) :=
  inferInstanceAs (Decidable (_ ∧ _ ∧ _ ∧ _))

lemma not_renames_of_replyCode {own : Text} (h : m.replyCode = some code) : ¬ m.Renames own := by
  rintro ⟨hnone, -⟩
  rw [h] at hnone
  cases hnone

lemma refusesLong_of_ne (h : m.replyCode ≠ some .erroneousNick) : m.refusesLong = false := by
  rw [refusesLong, beq_eq_false_iff_ne.2 h, Bool.false_and]

lemma refusesLong_of_isNickConflict (h : m.replyCode = some code) (hcode : code.isNickConflict = true) :
    m.refusesLong = false := by
  refine refusesLong_of_ne fun herroneous => ?_
  obtain rfl := Option.some.inj (h.symm.trans herroneous)
  cases hcode

lemma replyCode_of_refusesLong (h : m.refusesLong = true) : m.replyCode = some .erroneousNick := by
  rw [refusesLong, Bool.and_eq_true, beq_iff_eq] at h
  exact h.1

end Message

namespace Standing

variable {st : Standing} {m : Message} {code : ReplyCode}

/-- What a line may do to a session, and the nicks that the session asks for on it. -/
inductive Change (st : Standing) (m : Message) : Standing × List Text → Prop where
  /-- Registration is complete, under a nick that the line names or the one at hand. -/
  | welcomed (hreply : m.replyCode = some .welcome) :
    Change st m
      ({ st with nick := st.nick.confirm ((m.word? 2).getD st.nick.actual), ready := true }, [])
  /-- The session is told how long a nick may be. -/
  | limited {len : Nat} (hreply : m.replyCode = some .features)
    (hlen : Seat.advertisedNickLen? m.line = some len) :
    Change st m ({ st with maxNick := max len minMaxNick }, [])
  /-- A nick is taken, and the search goes on to the next one. -/
  | passed {code : ReplyCode} {nick : NickSearch} {next : Text} (hreply : m.replyCode = some code)
    (hcode : code.isNickConflict = true)
    (hask : st.nick.afterRefusal ((m.word? 2).getD ['*']) ((m.word? 3).getD []) st.maxNick =
      (nick, .ask next)) :
    Change st m ({ st with nick }, [next])
  /-- A nick is too long for a session that has one: it cuts the nick that it wants. -/
  | cut {maxNick : Nat} (hlong : m.refusesLong = true) (hready : st.ready = true)
    (hmax : maxNick = max (((m.word? 3).getD []).byteLength - 1) minMaxNick) :
    Change st m ({ st with maxNick, nick := st.nick.fit maxNick }, [])
  /-- A nick is too long for a session without one: it goes back to the nick that it wants. -/
  | restarted {maxNick : Nat} (hlong : m.refusesLong = true) (hready : st.ready = false)
    (hmax : maxNick = max (((m.word? 3).getD []).byteLength - 1) minMaxNick) :
    Change st m
      ({ st with maxNick, nick := st.nick.reset maxNick }, [(st.nick.reset maxNick).actual])
  /-- Someone leaves, and with them the nick that is wanted. -/
  | reclaimed (hreply : m.replyCode = none) (hkind : m.kind = .quit) (hwants : st.wants = true) :
    Change st m (st, [st.nick.desired])
  /-- The session's own nick has changed. -/
  | renamed (hrenames : m.Renames st.nick.actual) :
    Change st m ({ st with nick := st.nick.confirm (Seat.newNick m) }, [])
  /-- All is left as it was. -/
  | nothing (hwelcome : m.replyCode ≠ some .welcome) (hlong : m.refusesLong = false)
    (hrenames : ¬ m.Renames st.nick.actual) :
    Change st m (st, [])

lemma change_hearReply (hreply : m.replyCode = some code) : st.Change m (st.hearReply code m) := by
  have hnothing : code ≠ .welcome → m.refusesLong = false → st.Change m (st, []) := by
    intro hwelcome hlong
    refine .nothing ?_ hlong (Message.not_renames_of_replyCode hreply)
    exact fun h => hwelcome (Option.some.inj (hreply.symm.trans h))
  rw [hearReply]
  by_cases hwelcome : code = .welcome
  · rw [if_pos hwelcome]
    exact .welcomed (hwelcome ▸ hreply)
  rw [if_neg hwelcome]
  by_cases hfeatures : code = .features
  · rw [if_pos hfeatures]
    subst hfeatures
    cases hlen : Seat.advertisedNickLen? m.line with
    | some len => exact .limited hreply hlen
    | none => exact hnothing hwelcome (Message.refusesLong_of_ne (by rw [hreply]; decide))
  rw [if_neg hfeatures]
  by_cases hconflict : code.isNickConflict = true
  · rw [if_pos hconflict]
    split
    · exact hnothing hwelcome (Message.refusesLong_of_isNickConflict hreply hconflict)
    · next hask => exact .passed hreply hconflict hask
  rw [if_neg hconflict]
  by_cases herroneous : code = .erroneousNick
  · rw [if_pos herroneous]
    subst herroneous
    have hlong : m.refusesLong = decide (minMaxNick < ((m.word? 3).getD []).byteLength) := by
      rw [Message.refusesLong, hreply]
      rfl
    split
    · next h =>
      rw [decide_eq_true h] at hlong
      split
      · next hready => exact .cut hlong hready rfl
      · next hready => exact .restarted hlong (Bool.not_eq_true _ ▸ hready) rfl
    · next h => exact hnothing hwelcome (hlong.trans (decide_eq_false h))
  · rw [if_neg herroneous]
    exact hnothing hwelcome (Message.refusesLong_of_ne (by rw [hreply]; simpa using herroneous))

/-- **What a line does** is one of these. -/
lemma change_hear (st : Standing) (m : Message) : st.Change m (st.hear m) := by
  rw [hear]
  cases hreply : m.replyCode with
  | some code => exact change_hearReply hreply
  | none =>
    have hnothing : ¬ m.Renames st.nick.actual → st.Change m (st, []) := fun hrenames =>
      .nothing (by simp [hreply]) (Message.refusesLong_of_ne (by simp [hreply])) hrenames
    dsimp only
    split
    · next hkind =>
      have hrenames : ¬ m.Renames st.nick.actual := by
        rintro ⟨-, hchange, -⟩
        rw [hkind] at hchange
        cases hchange
      cases m.nick with
      | none => exact hnothing hrenames
      | some nick =>
        rw [Option.elim_some, hearQuit]
        split
        · next hown => exact .reclaimed hreply hkind (Bool.and_eq_true _ _ ▸ hown).1
        · exact hnothing hrenames
    · next hkind =>
      rw [hearRename]
      split
      · next hown => exact .renamed ⟨hreply, hkind, hown⟩
      · next hother => exact hnothing fun hrenames => hother hrenames.2.2
    · next hkind => exact hnothing fun hrenames => hkind hrenames.2.1

end Standing
end ChatLink
