/-
# Nicks that can be named

A session goes by a nick that it asked for, or by one that the network gave it.  Those it asks for
are made of the nick of a valid configuration, so that each can be named in a line.  Those that it
is given are words of a line or a trailing text, and nothing sees to it that they are nicks: a line
with a space too many welcomes a session under no nick, and one with a space in its trailing text
renames the session to something that no line can name.  Main statement: `actual_isName_iff`.
-/
import Mathlib
import ChatLink.Proofs.Session.Agreement
import ChatLink.Proofs.Session.NickLimit

namespace ChatLink

/-- A nick that can be named in a line. -/
structure Text.IsName (x : Text) : Prop where
  ne_nil : x ≠ []
  no_space : ' ' ∉ x

instance (x : Text) : Decidable x.IsName :=
  decidable_of_iff (x ≠ [] ∧ ' ' ∉ x) ⟨fun h => ⟨h.1, h.2⟩, fun h => ⟨h.ne_nil, h.no_space⟩⟩

/-- What is made of a nick that can be named can be named. -/
lemma lasts_isName : NickSearch.Lasts Text.IsName where
  cut h hxy hx := ⟨hx, fun hc => h.no_space (hxy.subset hc)⟩
  append {x y} h hy := by
    refine ⟨fun hnil => h.ne_nil (List.append_eq_nil_iff.1 hnil).1, ?_⟩
    rw [List.mem_append]
    exact not_or.2 ⟨h.no_space, not_mem_of_ne hy (by decide) rfl⟩
  digits k := ⟨Decimal.digits_ne_nil k,
    not_mem_of_ne (fun c hc => .inr (Decimal.isDigit_of_mem_digits hc)) (by decide) rfl⟩

/-- A session is given a nick that cannot be named.  Either it is welcomed under an empty word, or
it is told that it has become something with a space. -/
def Message.Misnames (m : Message) (own : Text) : Prop :=
  (m.replyCode = some .welcome ∧ m.word? 2 = some []) ∨
    (m.Renames own ∧ ' ' ∈ Seat.newNick m)

instance (m : Message) (own : Text) : Decidable (m.Misnames own) :=
  inferInstanceAs (Decidable (_ ∨ _))

namespace Message

variable {m : Message} {code : ReplyCode} {own : Text}

lemma not_misnames (hwelcome : m.replyCode ≠ some .welcome) (hrenames : ¬ m.Renames own) :
    ¬ m.Misnames own := by
  rintro (⟨hreply, -⟩ | ⟨hrename, -⟩)
  · exact hwelcome hreply
  · exact hrenames hrename

lemma not_misnames_of_replyCode (h : m.replyCode = some code) (hcode : code ≠ .welcome) :
    ¬ m.Misnames own := by
  refine not_misnames (fun hwelcome => hcode ?_) (not_renames_of_replyCode h)
  exact Option.some.inj (h.symm.trans hwelcome)

lemma misnames_welcome (h : m.replyCode = some .welcome) : m.Misnames own ↔ m.word? 2 = some [] := by
  rw [Misnames, and_iff_right h, or_iff_left fun hrename => not_renames_of_replyCode h hrename.1]

lemma misnames_renamed (h : m.Renames own) : m.Misnames own ↔ ' ' ∈ Seat.newNick m := by
  have hwelcome : m.replyCode ≠ some .welcome := by
    rw [h.1]
    nofun
  rw [Misnames, or_iff_right fun hreplied => hwelcome hreplied.1, and_iff_right h]

end Message

lemma space_not_mem_of_word? {m : Message} {i : Nat} {word : Text} (h : m.word? i = some word) :
    ' ' ∉ word :=
  Text.not_mem_of_mem_splitOn (List.mem_of_getElem? h)

/-! ### One deed -/

namespace Standing

variable {st : Standing} {m : Message} {code : ReplyCode} {d : Deed}

/-- What the configuration gives the session can be named. -/
structure Named (st : Standing) : Prop where
  configured : st.nick.configured.IsName
  desired : st.nick.desired.IsName

lemma Named.perform (h : st.Named) (d : Deed) : (st.perform d).Named := by
  have hpursues := st.pursues_perform d
  refine ⟨hpursues.configured ▸ h.configured, ?_⟩
  rw [hpursues.desired]
  split
  · exact lasts_isName.cutNick h.configured _
  · exact h.desired

/-- Only a welcome and a change of nick can give the session a nick that cannot be named. -/
lemma Change.isName_iff {result : Standing × List Text} (hchange : st.Change m result)
    (h : st.Named) (hactual : st.nick.actual.IsName) :
    result.1.nick.actual.IsName ↔ ¬ m.Misnames st.nick.actual := by
  cases hchange with
  | welcomed hreply =>
    rw [Message.misnames_welcome hreply]
    show ((m.word? 2).getD st.nick.actual).IsName ↔ _
    cases hword : m.word? 2 with
    | none => exact iff_of_true hactual fun hempty => by cases hempty
    | some word =>
      rw [Option.getD_some, Option.some.injEq]
      exact ⟨fun hname => hname.ne_nil, fun hne => ⟨hne, space_not_mem_of_word? hword⟩⟩
  | renamed hrenames =>
    rw [Message.misnames_renamed hrenames]
    exact ⟨fun hname => hname.no_space, fun hspace => ⟨hrenames.2.2.1, hspace⟩⟩
  | limited hreply =>
    exact iff_of_true hactual (Message.not_misnames_of_replyCode hreply (by decide))
  | passed hreply hcode hask =>
    refine iff_of_true ?_ (Message.not_misnames_of_replyCode hreply ?_)
    · obtain ⟨-, -, hnext, -⟩ := NickSearch.afterRefusal_ask hask
      rw [hnext]
      exact lasts_isName.ask hask hactual h.desired
    · rintro rfl
      cases hcode
  | cut hlong =>
    have hreply := Message.replyCode_of_refusesLong hlong
    exact iff_of_true hactual (Message.not_misnames_of_replyCode hreply (by decide))
  | restarted hlong =>
    have hreply := Message.replyCode_of_refusesLong hlong
    refine iff_of_true ?_ (Message.not_misnames_of_replyCode hreply (by decide))
    exact lasts_isName.cutNick h.configured _
  | reclaimed hreply hkind =>
    refine iff_of_true hactual (Message.not_misnames (by simp [hreply]) ?_)
    rintro ⟨-, hnick, -⟩
    rw [hkind] at hnick
    cases hnick
  | nothing hwelcome _ hrenames => exact iff_of_true hactual (Message.not_misnames hwelcome hrenames)

/-- Of all deeds, only hearing a line can leave a session with a nick that cannot be named. -/
lemma Named.isName_perform (h : st.Named) (hactual : st.nick.actual.IsName) (d : Deed) :
    (st.perform d).nick.actual.IsName ↔
      ∀ line, d = .hear line → ¬ (Message.ofLine st.nick.actual line).Misnames st.nick.actual := by
  cases d with
  | hear line =>
    rw [Standing.perform, (st.change_hear _).isName_iff h hactual]
    exact ⟨fun hgood _ heq => by cases heq; exact hgood, fun hall => hall line rfl⟩
  | register wire => exact iff_of_true (lasts_isName.cutNick h.configured _) nofun
  | resetNick => exact iff_of_true (lasts_isName.cutNick h.configured _) nofun
  | _ => exact iff_of_true hactual nofun

end Standing

/-! ### A run -/

lemma Config.isName_sessionNick {c : Config} (h : Nick.isValid c.nick = true) (i : Nat) :
    (c.sessionNick i).IsName := by
  have hvalid := isValid_sessionNick h i
  refine ⟨fun hnil => ?_, fun hspace => absurd (Nick.isPart_of_mem hvalid hspace) (by decide)⟩
  rw [hnil] at hvalid
  cases hvalid

namespace Run

variable {r : Run} {i : Nat} {e : Entry} {s : Seat} {history : List Entry} {hub : Hub} {c : Config}

/-- There is such a session, and what the configuration gives it can be named. -/
def Named (r : Run) (i : Nat) : Prop := ∃ s, r.seat? i = some s ∧ s.standing.Named

lemma actual?_of_seat? (hs : r.seat? i = some s) : r.actual? i = some s.actual := by
  rw [actual?, (seat?_eq_some_iff.1 hs).1]
  rfl

lemma Named.of_sessions {r' : Run} (h : r.Named i) (hsame : r'.sessions[i]? = r.sessions[i]?) :
    r'.Named i := by
  obtain ⟨s, hs, hnamed⟩ := h
  refine ⟨⟨s.session, r'.hub⟩, seat?_eq_some_iff.2 ⟨?_, rfl⟩, hnamed.configured, hnamed.desired⟩
  rw [hsame, (seat?_eq_some_iff.1 hs).1]

lemma Named.advance (h : r.Named i) (e : Entry) : (r.advance e).Named i := by
  cases e with
  | enqueue lines => exact h.of_sessions rfl
  | deed j now d =>
    by_cases hj : j = i
    · subst hj
      obtain ⟨s, hs, hnamed⟩ := h
      refine ⟨_, seat?_act hs now d, ?_⟩
      rw [s.standing_perform now d]
      exact hnamed.perform d
    · exact h.of_sessions (sessions_act_of_ne r hj now d)

lemma Named.after (h : r.Named i) (history : List Entry) : (r.after history).Named i :=
  keeps_after (P := (Named · i)) h fun _ hr e _ => hr.advance e

/-- An entry leaves a session with a nick that can be named, unless it is a line that misnames that
session. -/
lemma Named.isName_advance (h : r.Named i) (hname : ∀ own ∈ r.actual? i, own.IsName) (e : Entry) :
    (∀ own ∈ (r.advance e).actual? i, own.IsName) ↔
      ∀ now line, e = .deed i now (.hear line) →
        ∀ own ∈ r.actual? i, ¬ (Message.ofLine own line).Misnames own := by
  have hother : (r.advance e).sessions[i]? = r.sessions[i]? →
      ∀ own ∈ (r.advance e).actual? i, own.IsName := by
    intro hsame own hown
    rw [actual?, hsame] at hown
    exact hname own hown
  cases e with
  | enqueue lines => exact iff_of_true (hother rfl) fun now line heq => by cases heq
  | deed j now d =>
    by_cases hj : j = i
    · subst hj
      obtain ⟨s, hs, hnamed⟩ := h
      have hactual : r.actual? j = some s.actual := actual?_of_seat? hs
      have hafter : (r.act j now d).1.actual? j = some (s.standing.perform d).nick.actual := by
        rw [actual?_of_seat? (seat?_act hs now d), ← s.standing_perform now d]
        rfl
      rw [show r.advance (.deed j now d) = (r.act j now d).1 from rfl, hafter, hactual]
      simp only [Option.mem_some_iff, forall_eq', Entry.deed.injEq, true_and]
      rw [hnamed.isName_perform (hname _ (hactual ▸ rfl)) d]
      exact ⟨fun hall now' line hd => hall line hd.2, fun hall line hd => hall now line ⟨rfl, hd⟩⟩
    · refine iff_of_true (hother (sessions_act_of_ne r hj now d)) ?_
      rintro now' line ⟨⟩
      exact absurd rfl hj

lemma named_begin (h : c.validate = .ok hub.config) (start : Time)
    (hi : i < hub.config.sessionCount) :
    (begin hub start).Named i ∧ ∀ own ∈ (begin hub start).actual? i, own.IsName := by
  have hname := Config.isName_sessionNick (Config.nick_of_validate h).2.1 i
  have hs : (begin hub start).seat? i =
      some ⟨.fresh hub.config i start, (begin hub start).hub⟩ := by
    rw [seat?_eq_some_iff, begin, List.getElem?_map, List.getElem?_range hi]
    exact ⟨rfl, rfl⟩
  refine ⟨⟨_, hs, ⟨hname, hname⟩⟩, ?_⟩
  rw [actual?_of_seat? hs]
  rintro own ⟨⟩
  exact hname

/-- **When a session has a nick that can be named.**  Let a run begin with a valid configuration, and
let its sessions register, hear lines, send, enter channels again, lose their connections and report
in any order.  At any moment the roster knows a session by the nick that the session goes by.  This
is at every moment a nick without spaces, and not empty, exactly if the session hears no line that
welcomes it under an empty word, or that tells it that it has become something with a space. -/
theorem actual_isName_iff (h : c.validate = .ok hub.config) (start : Time)
    (hreset : ∀ j now, Entry.deed j now .resetNick ∉ history) (hi : i < hub.config.sessionCount) :
    let r := fun k => (begin hub start).after (history.take k)
    (∀ k, ∃ nick, (r k).actual? i = some nick ∧ (r k).hub.roster.nick? i = some nick) ∧
    ((∀ k, ∀ nick ∈ (r k).actual? i, nick.IsName) ↔
      ∀ k now line, history[k]? = some (.deed i now (.hear line)) →
        ∀ own ∈ (r k).actual? i, ¬ (Message.ofLine own line).Misnames own) := by
  intro r
  obtain ⟨hnamed, hname⟩ := named_begin h start hi
  have hnamed : ∀ k, (r k).Named i := fun k => hnamed.after (history.take k)
  have hnext : ∀ k e, history[k]? = some e → r (k + 1) = (r k).advance e := by
    intro k e he
    show (begin hub start).after (history.take (k + 1)) = _
    rw [List.take_add_one, he, after_append]
    rfl
  refine ⟨fun k => ?_, ?_, ?_⟩
  · obtain ⟨s, hs, -⟩ := hnamed k
    have hreachable : (r k).Reachable := (Reachable.begin hub start).after fun j now hmem =>
      hreset j now (List.mem_of_mem_take hmem)
    rw [← hreachable.seated.actual?_eq, actual?_of_seat? hs]
    exact ⟨s.actual, rfl, rfl⟩
  · -- a line that misnames the session shows at once
    intro hall k now line hline
    have hafter := hall (k + 1)
    rw [hnext k _ hline] at hafter
    exact ((hnamed k).isName_advance (hall k) _).1 hafter now line rfl
  · -- and without one every nick comes from one that can be named
    intro hall k
    induction k with
    | zero => exact hname
    | succ k ih =>
      cases he : history[k]? with
      | none =>
        have hsame : r (k + 1) = r k := by
          have hle := List.getElem?_eq_none_iff.1 he
          show (begin hub start).after (history.take (k + 1)) =
            (begin hub start).after (history.take k)
          rw [List.take_of_length_le hle, List.take_of_length_le (by omega)]
        rw [hsame]
        exact ih
      | some e =>
        rw [hnext k e he]
        refine ((hnamed k).isName_advance ih e).2 fun now line heq => ?_
        exact hall k now line (heq ▸ he)

/-- Two sessions: one finds its nick taken, is welcomed and renamed, and the other is welcomed under
no nick. -/
theorem actual_isName_iff_two :
    let c : Config := { Config.default with sessionCount := 2 }
    let history : List Entry := [
      .deed 0 0 (.hear ":irc.test 433 * ServerBot :Nickname is already in use"),
      .deed 0 1 (.hear ":irc.test 001 ServerBot_ :Welcome"),
      .deed 1 2 (.hear ":irc.test 001  ServerBot2 :Welcome"),
      .deed 0 3 (.hear ":ServerBot_!bot@host NICK :Relay")]
    let r := fun k => (begin (.fresh c) 0).after (history.take k)
    c.validate = .ok c ∧ (∀ j now, Entry.deed j now .resetNick ∉ history) ∧ 1 < c.sessionCount ∧
      (∀ k, ∀ nick ∈ (r k).actual? 0, nick.IsName) ∧
      ¬ ∀ k, ∀ nick ∈ (r k).actual? 1, nick.IsName := by
  intro c history r
  have hvalid : c.validate = .ok (Hub.fresh c).config := by decide
  have hreset : ∀ j now, Entry.deed j now .resetNick ∉ history := by simp [history]
  have hfirst := (actual_isName_iff hvalid 0 hreset (i := 0) (by decide)).2
  have hsecond := (actual_isName_iff hvalid 0 hreset (i := 1) (by decide)).2
  refine ⟨hvalid, hreset, by decide, hfirst.2 fun k now line hline own hown => ?_, fun hall => ?_⟩
  · have hk : k < 4 := (List.getElem?_eq_some_iff.1 hline).1
    interval_cases k
    · cases hline
      obtain rfl : ("ServerBot" : Text) = own := Option.some.inj hown
      decide
    · cases hline
      obtain rfl : ("ServerBot_" : Text) = own := Option.some.inj hown
      decide
    · cases hline
    · cases hline
      obtain rfl : ("ServerBot_" : Text) = own := Option.some.inj hown
      decide
  · have hown : (r 2).actual? 1 = some ("ServerBot2" : Text) := by decide
    exact hsecond.1 hall 2 2 ":irc.test 001  ServerBot2 :Welcome" rfl "ServerBot2" hown (by decide)

/-- A welcome with a space too many takes the nick from a session, and a change of nick may give it
one with a space. -/
theorem welcomed_without_nick :
    let c := Config.default
    let known : Text → Option Text × Option Text := fun line =>
      let r := ((begin (.fresh c) 0).act 0 0 (.hear line)).1
      (r.actual? 0, r.hub.roster.nick? 0)
    c.validate = .ok c ∧ known ":irc.test 001  :Welcome" = (some [], some []) ∧
      known ":ServerBot!bot@host NICK :two words" =
        (some ("two words" : Text), some ("two words" : Text)) := by
  decide

end Run
end ChatLink
