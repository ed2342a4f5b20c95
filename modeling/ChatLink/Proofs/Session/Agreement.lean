/-
# What a session makes of what a network says about its nick

A network knows a session by no nick at first, then by one after another, and with each line it
tells or keeps that nick.  A session agrees with the network if it is registered exactly if the
network has said so, and goes by the nick that the network named last.  A line that the network may
say next keeps them in agreement; and it makes the session ask for another nick only while it is not
registered and is refused one, or for the nick that it wants.
-/
import Mathlib
import ChatLink.Proofs.Message.Signals
import ChatLink.Proofs.Session.Configured
import ChatLink.Proofs.Session.Changes

namespace ChatLink

/-! ### Nicks -/

section Nicks

variable {nick x y : Text} {n t : NickSearch} {current rejected : Text} {maxLen k : Nat}

/-- What is so of a nick stays so of every nick that a search makes of it: it may be cut, and an
underscore or a number may be put behind it. -/
structure NickSearch.Lasts (P : Text → Prop) : Prop where
  cut : ∀ {x y : Text}, P y → x <+: y → x ≠ [] → P x
  append : ∀ {x y : Text}, P x → (∀ c ∈ y, c = '_' ∨ c.isDigit = true) → P (x ++ y)
  digits : ∀ k : Nat, P (Decimal.digits k)

namespace NickSearch.Lasts

variable {P : Text → Prop}

lemma cutNick (h : Lasts P) (hnick : P nick) (maxLen : Nat) : P (cutNick nick maxLen) := by
  cases nick with
  | nil => exact hnick
  | cons c t =>
    have hcut := cutNick_prefix (c :: t) maxLen
    exact h.cut hnick hcut (List.cons_ne_nil _ _)

lemma numbered (h : Lasts P) (hnick : P nick) (maxLen k : Nat) : P (numbered nick maxLen k) := by
  rw [NickSearch.numbered]
  by_cases htake : Text.takeBytes (maxLen - (Decimal.digits k).byteLength) nick = []
  · rw [htake]
    exact h.digits k
  · have hcut := Text.takeBytes_prefix (maxLen - (Decimal.digits k).byteLength) nick
    exact h.append (h.cut hnick hcut htake) fun c hc => .inr (Decimal.isDigit_of_mem_digits hc)

/-- It is so of every attempt. -/
lemma ask (h : Lasts P) (hask : n.afterRefusal current rejected maxLen = (t, .ask x))
    (hactual : P n.actual) (hdesired : P n.desired) : P x := by
  obtain ⟨-, -, -, -, ⟨-, -, rfl, -⟩ | ⟨-, rfl, -⟩⟩ := afterRefusal_ask hask
  · exact h.append hactual fun c hc => .inl (List.mem_singleton.1 hc)
  · exact h.numbered hdesired _ _

end NickSearch.Lasts

/-- What is put behind a nick holds underscores and digits only. -/
lemma not_mem_of_ne {c : Char} (h : ∀ d ∈ y, d = '_' ∨ d.isDigit = true) (hne : c ≠ '_')
    (hdigit : c.isDigit = false) : c ∉ y := by
  intro hc
  rcases h c hc with rfl | hc
  · exact hne rfl
  · rw [hdigit] at hc
    cases hc

lemma Decimal.digits_ne_nil (k : Nat) : Decimal.digits k ≠ [] :=
  List.ne_nil_of_length_pos (Decimal.length_digits_pos k)

/-- What is made of a nick is a nick. -/
lemma lasts_isNick : NickSearch.Lasts Text.IsNick where
  cut {x y} h hxy hx := by
    refine ⟨⟨hx, fun hc => h.no_space (hxy.subset hc), ?_⟩, fun hc => h.no_mark (hxy.subset hc)⟩
    obtain ⟨c, t, rfl⟩ := List.exists_cons_of_ne_nil hx
    obtain ⟨rest, rfl⟩ := hxy
    exact h.no_colon
  append {x y} h hy := by
    obtain ⟨c, t, rfl⟩ := List.exists_cons_of_ne_nil h.ne_nil
    refine ⟨⟨by simp, ?_, h.no_colon⟩, ?_⟩
    · rw [List.mem_append]
      exact not_or.2 ⟨h.no_space, not_mem_of_ne hy (by decide) rfl⟩
    · rw [List.mem_append]
      exact not_or.2 ⟨h.no_mark, not_mem_of_ne hy (by decide) rfl⟩
  digits k := by
    have hdigit : ∀ c ∈ Decimal.digits k, c = '_' ∨ c.isDigit = true :=
      fun c hc => .inr (Decimal.isDigit_of_mem_digits hc)
    refine ⟨⟨Decimal.digits_ne_nil k, not_mem_of_ne hdigit (by decide) rfl, fun hc => ?_⟩,
      not_mem_of_ne hdigit (by decide) rfl⟩
    exact not_mem_of_ne hdigit (by decide) rfl (List.mem_of_head? hc)

namespace NickSearch

/-- The nick in use is kept if the wanted one is refused. -/
lemma afterRefusal_of_desired (n : NickSearch) (maxLen : Nat) :
    n.afterRefusal n.actual n.desired maxLen = (n, .keep) := by
  rw [afterRefusal, Text.sameName_refl, Text.sameName_refl]
  rfl

end NickSearch
end Nicks

/-! ### What a network says -/

/-- The nick that the network refuses. -/
def Signal.refused? : Signal → Option Text
  | .refused _ _ _ x _ => some x
  | _ => none

/-- The request for a nick that the network answers. -/
def Signal.answered? : Signal → Option Text
  | .refused _ _ _ x _ => some x
  | .welcome _ nick _ => some nick
  | .renamed _ _ _ new => some new
  | .aside _ => none

/-- The network may say it without being asked for a nick. -/
def Signal.isUnasked : Signal → Bool
  | .renamed _ _ _ _ | .aside _ => true
  | .refused _ _ _ _ _ | .welcome _ _ _ => false

/-- What a network may say that knows a session by a nick, or by none before it is registered, and
the nick by which it knows the session from then on. -/
inductive Signal.Leads : Option Text → Signal → Option Text → Prop where
  | refused {server : Text} {code : ReplyCode} {current : Option Text} {x : Text}
      {more : Option Text} : ' ' ∉ server → code.isNickConflict = true → Text.IsNick x →
      Leads current (.refused server code current x more) current
  | welcome {server nick : Text} {more : Option Text} : ' ' ∉ server → Text.IsNick nick →
      Leads none (.welcome server nick more) (some nick)
  | renamed {old user host new : Text} : ' ' ∉ user → ' ' ∉ host → Text.IsNick new →
      Leads (some old) (.renamed old user host new) (some new)
  | aside {current : Option Text} {line : Text} : Signal.isAside line = true →
      Leads current (.aside line) current

/-- What a network says along the way from one nick to another, each with the nick after it. -/
inductive Signal.Path : Option Text → List (Signal × Option Text) → Option Text → Prop where
  | nil {nick : Option Text} : Path nick [] nick
  | cons {nick nick' last : Option Text} {signal : Signal} {rest : List (Signal × Option Text)} :
      Leads nick signal nick' → Path nick' rest last → Path nick ((signal, nick') :: rest) last

namespace Signal

variable {nick nick' nick'' : Option Text} {signal : Signal} {said : List (Signal × Option Text)}

lemma Path.concat (h : Path nick said nick') (hleads : Leads nick' signal nick'') :
    Path nick (said ++ [(signal, nick'')]) nick'' := by
  induction h with
  | nil => exact .cons hleads .nil
  | cons hfirst _ ih => exact .cons hfirst (ih hleads)

/-- Once registered, a session stays so. -/
lemma Leads.isSome (h : Leads nick signal nick') (hnick : nick.isSome = true) :
    nick'.isSome = true := by
  cases h with
  | welcome | renamed => rfl
  | refused | aside => exact hnick

/-- A request that is answered is refused, or gets the session a nick. -/
lemma Leads.length_answer_le (h : Leads nick signal nick') :
    signal.refused?.toList.length + nick'.toList.length ≤ 1 + nick.toList.length := by
  cases h with
  | refused => exact le_rfl
  | welcome | renamed | aside => simp [refused?]

lemma Leads.length_eq_of_isUnasked (h : Leads nick signal nick') (hunasked : signal.isUnasked = true) :
    nick'.toList.length = nick.toList.length := by
  cases h with
  | welcome | refused => cases hunasked
  | renamed | aside => rfl

lemma Leads.of_refused {server : Text} {code : ReplyCode} {current : Option Text} {x : Text}
    {more : Option Text} (h : Leads nick (.refused server code current x more) nick') :
    current = nick ∧ ' ' ∉ server ∧ code.isNickConflict = true := by
  cases h with
  | refused hserver hcode => exact ⟨rfl, hserver, hcode⟩

lemma Path.eq_of_nil (h : Path nick [] nick') : nick = nick' := by
  cases h
  rfl

lemma refused?_of_isUnasked (h : signal.isUnasked = true) : signal.refused? = none := by
  cases signal with
  | renamed | aside => rfl
  | refused | welcome => cases h

lemma eq_of_refused? {x y : Text} (h : signal.answered? = some x) (hy : y ∈ signal.refused?) :
    y = x := by
  cases signal with
  | refused =>
    cases h
    exact (Option.some.inj hy).symm
  | welcome | renamed | aside => cases hy

lemma Path.isSome (h : Path nick said nick') (hnick : nick.isSome = true) :
    nick'.isSome = true := by
  induction h with
  | nil => exact hnick
  | cons hfirst _ ih => exact ih (hfirst.isSome hnick)

end Signal

/-! ### One line -/

namespace Standing

variable {st : Standing} {heard heard' : Option Text} {signal : Signal} {own x : Text}
  {result : Standing × List Text}

/-- The session is registered if it has heard so, and then under the nick that it heard last. -/
structure Agrees (st : Standing) (heard : Option Text) : Prop where
  ready : st.ready = heard.isSome
  actual : ∀ nick ∈ heard, st.nick.actual = nick
  isNick_actual : Text.IsNick st.nick.actual
  isNick_desired : Text.IsNick st.nick.desired

lemma Agrees.of_eq {st' : Standing} (h : st.Agrees heard) (hnick : st'.nick = st.nick)
    (hready : st'.ready = st.ready) : st'.Agrees heard := by
  obtain ⟨hheard, hactual, hin, hwanted⟩ := h
  rw [← hnick] at hactual hin hwanted
  exact ⟨hready.trans hheard, hactual, hin, hwanted⟩

/-- What a session makes of one line.  Before it is registered it asks for another nick at most if
one is refused, and afterwards only for the one that it wants. -/
structure Heeds (st : Standing) (heard : Option Text) (signal : Signal) (heard' : Option Text)
    (result : Standing × List Text) : Prop where
  agrees : result.1.Agrees heard'
  desired : result.1.nick.desired = st.nick.desired
  isNick : ∀ x ∈ result.2, Text.IsNick x
  once : heard = none → result.2.length ≤ signal.refused?.toList.length
  again : heard ≠ none → ∀ x ∈ result.2, x = st.nick.desired

/-- Nothing is asked for. -/
lemma heeds_of_nil {st' : Standing} (hagrees : st'.Agrees heard')
    (hdesired : st'.nick.desired = st.nick.desired) : st.Heeds heard signal heard' (st', []) :=
  ⟨hagrees, hdesired, fun _ hx => absurd hx List.not_mem_nil, fun _ => Nat.zero_le _,
    fun _ _ hx => absurd hx List.not_mem_nil⟩

lemma hear_refused {server : Text} {code : ReplyCode} {current : Option Text} (more : Option Text)
    (hserver : ' ' ∉ server) (hcode : code.isNickConflict = true)
    (hcurrent : ∀ nick ∈ current, ' ' ∉ nick) (hx : ' ' ∉ x) :
    st.hear (Message.ofLine own (Signal.refused server code current x more).line) =
      match st.nick.afterRefusal (current.getD ['*']) x st.maxNick with
      | (_, .keep) => (st, [])
      | (nick, .ask next) => ({ st with nick }, [next]) := by
  obtain ⟨hreply, hknown, hword⟩ := Signal.ofLine_refused hserver hcode hcurrent hx more own
  exact hear_conflict hreply hcode hknown hword

lemma Agrees.hear_refused {server : Text} {code : ReplyCode} {more : Option Text}
    (h : st.Agrees heard) (hserver : ' ' ∉ server) (hcode : code.isNickConflict = true)
    (hx : Text.IsNick x) (hwanted : heard ≠ none → x = st.nick.desired) (own : Text) :
    st.Heeds heard (.refused server code heard x more) heard
      (st.hear (Message.ofLine own (Signal.refused server code heard x more).line)) := by
  have hcurrent : ∀ nick ∈ heard, ' ' ∉ nick := fun nick hnick =>
    h.actual nick hnick ▸ h.isNick_actual.no_space
  rw [Standing.hear_refused more hserver hcode hcurrent hx.no_space]
  cases heard with
  | some nick =>
    -- the nick that it wants is still taken
    have hkeep : st.nick.afterRefusal ((some nick).getD ['*']) x st.maxNick = (st.nick, .keep) := by
      rw [hwanted (Option.some_ne_none _), Option.getD_some, ← h.actual nick rfl]
      exact st.nick.afterRefusal_of_desired st.maxNick
    rw [hkeep]
    exact heeds_of_nil h rfl
  | none =>
    cases hstep : st.nick.afterRefusal (none.getD ['*']) x st.maxNick with
    | mk nick step =>
      cases step with
      | keep => exact heeds_of_nil h rfl
      | ask next =>
        obtain ⟨-, hdesired, hactual, -⟩ := NickSearch.afterRefusal_ask hstep
        have hnext := lasts_isNick.ask hstep h.isNick_actual h.isNick_desired
        refine ⟨⟨h.ready, fun n hn => absurd hn (Option.not_mem_none n), ?_, ?_⟩, hdesired, ?_, ?_, ?_⟩
        · show Text.IsNick nick.actual
          rw [hactual]
          exact hnext
        · show Text.IsNick nick.desired
          rw [hdesired]
          exact h.isNick_desired
        · exact fun y hy => List.mem_singleton.1 hy ▸ hnext
        · exact fun _ => le_rfl
        · exact fun hne => absurd rfl hne

lemma Agrees.hear_welcome {server nick : Text} {more : Option Text} (h : st.Agrees none)
    (hserver : ' ' ∉ server) (hnick : Text.IsNick nick) (own : Text) :
    st.Heeds none (.welcome server nick more) (some nick)
      (st.hear (Message.ofLine own (Signal.welcome server nick more).line)) := by
  obtain ⟨hreply, hword⟩ := Signal.ofLine_welcome hserver hnick.no_space more own
  rw [hear, hreply]
  dsimp only
  rw [hearReply, if_pos rfl, hword]
  refine heeds_of_nil ⟨rfl, ?_, hnick, h.isNick_desired⟩ rfl
  rintro x ⟨⟩
  rfl

lemma Agrees.hear_renamed {old user host new : Text} (h : st.Agrees (some old))
    (huser : ' ' ∉ user) (hhost : ' ' ∉ host) (hnew : Text.IsNick new) (own : Text) :
    st.Heeds (some old) (.renamed old user host new) (some new)
      (st.hear (Message.ofLine own (Signal.renamed old user host new).line)) := by
  have hactual : st.nick.actual = old := h.actual old rfl
  obtain ⟨hreply, hkind, hold, hnewNick⟩ := Signal.ofLine_renamed (hactual ▸ h.isNick_actual)
    huser hhost new own
  rw [hear, hreply]
  dsimp only
  rw [hkind]
  dsimp only
  rw [hearRename, hold, hnewNick, Option.any_some, hactual, Text.sameName_refl,
    if_pos ⟨hnew.ne_nil, rfl⟩]
  refine heeds_of_nil ⟨h.ready, ?_, hnew, h.isNick_desired⟩ rfl
  rintro x ⟨⟩
  rfl

/-- A line that decides about no nick tells at most how long one may be.  Only a registered session
asks for a nick on it, when someone leaves, and that is the wanted one. -/
lemma Change.heeds_aside {m : Message} (hchange : st.Change m result) (h : st.Agrees heard)
    (hkind : m.kind ≠ .nickChange) (hcode : m.replyCode.any ReplyCode.decidesNick = false) :
    st.Heeds heard signal heard result := by
  have hother : ∀ code : ReplyCode, code.decidesNick = true → m.replyCode ≠ some code := by
    intro code hdecides hreply
    rw [hreply, Option.any_some, hdecides] at hcode
    cases hcode
  cases hchange with
  | limited => exact heeds_of_nil (h.of_eq rfl rfl) rfl
  | nothing => exact heeds_of_nil h rfl
  | reclaimed _ _ hwants =>
    rw [wants, Bool.and_eq_true, h.ready, Option.isSome_iff_ne_none] at hwants
    refine ⟨h, rfl, ?_, fun hnone => absurd hnone hwants.1, ?_⟩
    · exact fun x hx => List.mem_singleton.1 hx ▸ h.isNick_desired
    · exact fun _ x hx => List.mem_singleton.1 hx
  | welcomed hreply => exact absurd hreply (hother _ rfl)
  | passed hreply hconflict =>
    refine absurd hreply (hother _ ?_)
    rw [ReplyCode.decidesNick, hconflict, Bool.or_true]
  | cut hlong => exact absurd (Message.replyCode_of_refusesLong hlong) (hother _ rfl)
  | restarted hlong => exact absurd (Message.replyCode_of_refusesLong hlong) (hother _ rfl)
  | renamed hrenames => exact absurd hrenames.2.1 hkind

/-- The session makes of each line what it should, and agrees with the network as before. -/
lemma Agrees.hear (h : st.Agrees heard) (hleads : signal.Leads heard heard')
    (hwanted : heard ≠ none → ∀ x ∈ signal.refused?, x = st.nick.desired) (own : Text) :
    st.Heeds heard signal heard' (st.hear (Message.ofLine own signal.line)) := by
  cases hleads with
  | refused hserver hcode hx =>
    exact h.hear_refused hserver hcode hx (fun hne => hwanted hne _ rfl) own
  | welcome hserver hnick => exact h.hear_welcome hserver hnick own
  | renamed huser hhost hnew => exact h.hear_renamed huser hhost hnew own
  | aside hline =>
    obtain ⟨hkind, hcode⟩ := Signal.ofLine_aside hline own
    exact (st.change_hear _).heeds_aside h hkind hcode

end Standing

end ChatLink
