/-
# Lines that a session does not recognise

Two readings decide what a line is: its kind, which asks of a numeric reply that it has a sender
and an argument, and its code, which asks for neither.  A session looks at the code first.  So a
line of unknown kind changes nothing, unless it bears one of the few codes that a session heeds.
-/
import Mathlib
import ChatLink.Proofs.Message.Traffic
import ChatLink.Proofs.Session.Reachable
import ChatLink.Proofs.Text.Parts

namespace ChatLink

variable {own line : Text} {m : Message} {code : ReplyCode}

/-- A session acts on the line's code.  A list of features has to name the longest nick for that,
and a list of users and hosts has to hold an answer. -/
def Message.isHeeded (m : Message) : Bool :=
  match m.replyCode with
  | none => false
  | some code =>
    if code = .welcome then true
    else if code = .features then (Seat.advertisedNickLen? m.line).isSome
    else if code = .userHost then m.text.any fun text => (Text.words text).any (·.contains '=')
    else code.isNickConflict || code == .erroneousNick || code.isFatalForChannel

namespace Seat

variable {s : Seat} {now : Time} {result : Seat × Option Exit} {replies : List Text}
  {actual : Text}

/-- Nothing comes of a line but records in the journal. -/
structure Ignores (s : Seat) (result : Seat × Option Exit) : Prop where
  exit : result.2 = none
  session : result.1.session = s.session
  hub : result.1.hub = { s.hub with journal := result.1.hub.journal }

/-! ### Codes that are not heeded -/

lemma ownUserHost?_eq_none (actual : Text) {reply : Text} (h : '=' ∉ reply) :
    ownUserHost? actual reply = none := by
  rw [← Text.isSome_cut?_iff, Option.not_isSome_iff_eq_none] at h
  rw [ownUserHost?, h]

lemma learnUserHosts_of_none (h : ∀ reply ∈ replies, ownUserHost? s.actual reply = none) :
    s.learnUserHosts replies = s := by
  induction replies with
  | nil => rfl
  | cons reply replies ih =>
    rw [learnUserHosts, h reply List.mem_cons_self]
    exact ih fun other hother => h other (List.mem_cons_of_mem reply hother)

lemma hearReply_of_not_isHeeded (s : Seat) (now : Time) (hcode : m.replyCode = some code)
    (h : m.isHeeded = false) : s.hearReply now code m = (s, none) := by
  rw [Message.isHeeded, hcode] at h
  dsimp only at h
  rw [hearReply]
  split
  · next hwelcome =>
    rw [if_pos hwelcome] at h
    cases h
  next hwelcome =>
  rw [if_neg hwelcome] at h
  split
  · next hfeatures =>
    rw [if_pos hfeatures, Option.isSome_eq_false_iff, Option.isNone_iff_eq_none] at h
    rw [learnFeatures, h]
  next hfeatures =>
  rw [if_neg hfeatures] at h
  split
  · next huserHost =>
    rw [if_pos huserHost] at h
    rw [hearUserHosts]
    cases htext : m.text with
    | none => rfl
    | some text =>
      rw [htext] at h
      simp only [Option.any_some, List.any_eq_false, List.contains_iff_mem] at h
      dsimp only
      rw [learnUserHosts_of_none fun reply hreply => ownUserHost?_eq_none _ (h reply hreply)]
  next huserHost =>
  rw [if_neg huserHost, Bool.or_eq_false_iff, Bool.or_eq_false_iff, beq_eq_false_iff_ne] at h
  obtain ⟨⟨hconflict, herroneous⟩, hfatal⟩ := h
  rw [if_neg (by simp [hconflict]), if_neg herroneous, if_neg (by simp [hfatal])]

/-- The kind of a line plays no part in whether its code is heeded, nor does the own nick. -/
lemma isHeeded_own (own own' line : Text) :
    (Message.ofLine own line).isHeeded = (Message.ofLine own' line).isHeeded := rfl

lemma hearMessage_of_unknown (s : Seat) (now : Time) (h : m.kind = .unknown) :
    s.hearMessage now m = (s, none) := by
  rw [hearMessage, h]

lemma ignores_log (s : Seat) (r : Record) : s.Ignores (s.log r, none) := ⟨rfl, rfl, rfl⟩

lemma ignores_hear (hkind : (Message.ofLine own line).kind = .unknown)
    (h : (Message.ofLine own line).isHeeded = false) (s : Seat) (now : Time) :
    s.Ignores (s.hear now line) := by
  rw [hear]
  split
  · next code hcode =>
    rw [isHeeded_own own (s.log _).actual] at h
    -- the record that the line was heard is all that is left
    rw [hearReply_of_not_isHeeded _ now hcode h]
    exact ignores_log s _
  · rw [hearMessage_of_unknown _ now (Kind.ofLine_eq_unknown _ hkind)]
    exact ignores_log s _

/-! ### Codes that are heeded -/

lemma not_ignores_of_push {sent : Text}
    (h : result.1.session.outbox = s.session.outbox.push sent) : ¬ s.Ignores result := by
  intro hignores
  rw [hignores.session] at h
  have hlength := congrArg (fun queue => queue.lines.length) h
  simp at hlength

lemma not_ignores_of_limits (h : result.1.hub.limits ≠ s.hub.limits) : ¬ s.Ignores result := by
  intro hignores
  rw [hignores.hub] at h
  exact h rfl

lemma not_ignores_of_ready (h : result.1.session.ready ≠ s.session.ready) :
    ¬ s.Ignores result := by
  intro hignores
  rw [hignores.session] at h
  exact h rfl

lemma not_ignores_of_exit {exit : Exit} (h : result.2 = some exit) : ¬ s.Ignores result := by
  intro hignores
  rw [hignores.exit] at h
  cases h

lemma ready_registered (s : Seat) (now : Time) (m : Message) :
    (s.registered now m).session.ready = true := rfl

lemma maxNick_learnFeatures {len : Nat} (h : advertisedNickLen? m.line = some len) (s : Seat) :
    (s.learnFeatures m).hub.limits.maxNick = max len minMaxNick := by
  rw [learnFeatures, h]
  rfl

/-- The last answer about the nick in use decides, whatever was known before. -/
lemma exists_userHost_learnUserHosts
    (h : ∃ reply ∈ replies, (ownUserHost? actual reply).isSome = true) :
    ∃ len, ∀ s : Seat, s.actual = actual →
      (s.learnUserHosts replies).hub.limits.userHost = len := by
  induction replies with
  | nil =>
    obtain ⟨reply, hreply, -⟩ := h
    cases hreply
  | cons reply replies ih =>
    by_cases hlater : ∃ other ∈ replies, (ownUserHost? actual other).isSome = true
    · obtain ⟨len, hlen⟩ := ih hlater
      refine ⟨len, fun s hs => ?_⟩
      rw [learnUserHosts]
      split
      · exact hlen _ hs
      · exact hlen s hs
    · -- the first answer is the only one, and those after it leave what it told
      have hlast : ∀ other ∈ replies, ownUserHost? actual other = none := by
        intro other hother
        by_contra hsome
        exact hlater ⟨other, hother, Option.isSome_iff_ne_none.2 hsome⟩
      have hfirst : (ownUserHost? actual reply).isSome = true := by
        obtain ⟨other, hother, hsome⟩ := h
        rcases List.mem_cons.1 hother with rfl | hother
        · exact hsome
        · exact absurd ⟨other, hother, hsome⟩ hlater
      obtain ⟨userHost, huserHost⟩ := Option.isSome_iff_exists.1 hfirst
      refine ⟨userHost.byteLength, fun s hs => ?_⟩
      rw [learnUserHosts, hs, huserHost]
      dsimp only
      rw [learnUserHosts_of_none fun other hother => hs ▸ hlast other hother]
      rfl

/-- An answer is about the nick in it, so some session learns from it. -/
lemma exists_isSome_ownUserHost? {reply : Text} (h : '=' ∈ reply) :
    ∃ actual, (ownUserHost? actual reply).isSome = true := by
  obtain ⟨⟨nick, userHost⟩, hcut⟩ := Option.isSome_iff_exists.1 (Text.isSome_cut?_iff.2 h)
  refine ⟨Text.dropEndWhile (· == '*') nick, ?_⟩
  rw [ownUserHost?, hcut]
  simp

/-- A nick that is not the wanted one is never kept, so another is asked for. -/
lemma outbox_nickTaken (h : Text.sameName ((m.word? 3).getD []) s.desired = false) :
    ∃ line, (s.nickTaken m).session.outbox = s.session.outbox.push line := by
  have hask : ∃ nick next, s.session.nick.afterRefusal ((m.word? 2).getD ['*'])
      ((m.word? 3).getD []) s.hub.limits.maxNick = (nick, .ask next) := by
    rw [desired] at h
    rw [NickSearch.afterRefusal, h, Bool.and_false, if_neg Bool.false_ne_true]
    dsimp only
    split
    · exact ⟨_, _, rfl⟩
    · exact ⟨_, _, rfl⟩
  obtain ⟨nick, next, hask⟩ := hask
  rw [nickTaken]
  dsimp only
  rw [hask]
  exact ⟨Command.nick next, rfl⟩

/-- While the session registers, a nick that is refused is replaced, or the session ends. -/
lemma nickRefused_of_not_ready (m : Message) (h : s.session.ready = false) :
    (s.nickRefused m).2 = some .fatal ∨
      ∃ line, (s.nickRefused m).1.session.outbox = s.session.outbox.push line := by
  rw [nickRefused, longNickRefused]
  dsimp only
  rw [h]
  split
  · exact Or.inr ⟨_, rfl⟩
  · exact Or.inl rfl

/-! ### Sessions that act on a code -/

variable {r : Record}

lemma not_ignores_welcome (hs : s.session.ready = false) :
    ¬ s.Ignores ((s.log r).hearReply now .welcome m) := by
  refine not_ignores_of_ready ?_
  show ((s.log r).registered now m).session.ready ≠ s.session.ready
  rw [ready_registered, hs]
  decide

lemma not_ignores_features {len : Nat} (hlen : advertisedNickLen? m.line = some len)
    (hs : s.hub.limits.maxNick ≠ max len minMaxNick) :
    ¬ s.Ignores ((s.log r).hearReply now .features m) := by
  refine not_ignores_of_limits fun hlimits => hs ?_
  rw [← hlimits]
  exact maxNick_learnFeatures hlen (s.log r)

/-- The session that an answer is about learns from it what it did not know. -/
lemma exists_not_ignores_userHost {text reply : Text} (htext : m.text = some text)
    (hreply : reply ∈ Text.words text) (hanswer : '=' ∈ reply) (s : Seat) :
    ∃ t : Seat, ∀ r, ¬ t.Ignores ((t.log r).hearReply now .userHost m) := by
  obtain ⟨actual, hactual⟩ := exists_isSome_ownUserHost? hanswer
  obtain ⟨len, hlen⟩ := exists_userHost_learnUserHosts ⟨reply, hreply, hactual⟩
  refine ⟨⟨{ s.session with nick := .ofNick actual },
    { s.hub with limits := s.hub.limits.setUserHost (len + 1) }⟩, fun r => ?_⟩
  refine not_ignores_of_limits fun hlimits => ?_
  have hhear : (hearUserHosts (log _ r) m).hub.limits.userHost = len + 1 :=
    congrArg Limits.userHost hlimits
  rw [hearUserHosts, htext] at hhear
  exact Nat.succ_ne_self len (hhear.symm.trans (hlen _ rfl))

lemma not_ignores_conflict (hcode : code.isNickConflict = true)
    (hs : Text.sameName ((m.word? 3).getD []) s.desired = false) :
    ¬ s.Ignores ((s.log r).hearReply now code m) := by
  obtain ⟨sent, hsent⟩ := outbox_nickTaken (s := s.log r) hs
  rw [ReplyCode.isNickConflict, Bool.or_eq_true, beq_iff_eq, beq_iff_eq] at hcode
  rcases hcode with rfl | rfl <;> exact not_ignores_of_push hsent

lemma not_ignores_erroneous (hs : s.session.ready = false) :
    ¬ s.Ignores ((s.log r).hearReply now .erroneousNick m) := by
  rcases nickRefused_of_not_ready (s := s.log r) m hs with hexit | ⟨sent, hsent⟩
  · exact not_ignores_of_exit hexit
  · exact not_ignores_of_push hsent

lemma not_ignores_fatal (hcode : code.isFatalForChannel = true) :
    ¬ s.Ignores ((s.log r).hearReply now code m) := by
  rw [ReplyCode.isFatalForChannel] at hcode
  simp only [Bool.or_eq_true, beq_iff_eq] at hcode
  rcases hcode with ((rfl | rfl) | rfl) | rfl <;> exact not_ignores_of_exit rfl

/-- Whichever code is heeded, some session acts on it. -/
lemma exists_not_ignores_hearReply (now : Time) (hcode : m.replyCode = some code)
    (h : m.isHeeded = true) :
    ∃ s : Seat, ∀ r, ¬ s.Ignores ((s.log r).hearReply now code m) := by
  let idle : Session := Session.fresh .default 0 0
  let hub : Hub := Hub.fresh .default
  rw [Message.isHeeded, hcode] at h
  dsimp only at h
  split at h
  · next hwelcome =>
    subst hwelcome
    exact ⟨⟨idle, hub⟩, fun r => not_ignores_welcome rfl⟩
  split at h
  · next hfeatures =>
    subst hfeatures
    obtain ⟨len, hlen⟩ := Option.isSome_iff_exists.1 h
    exact ⟨⟨idle, { hub with limits := ⟨max len minMaxNick + 1, 0⟩ }⟩,
      fun r => not_ignores_features hlen (Nat.succ_ne_self _)⟩
  split at h
  · next huserHost =>
    subst huserHost
    rw [Option.any_eq_true] at h
    obtain ⟨text, htext, hreply⟩ := h
    rw [List.any_eq_true] at hreply
    obtain ⟨reply, hmem, hreply⟩ := hreply
    exact exists_not_ignores_userHost htext hmem (List.contains_iff_mem.1 hreply) ⟨idle, hub⟩
  rw [Bool.or_eq_true, Bool.or_eq_true, beq_iff_eq] at h
  rcases h with (hconflict | rfl) | hfatal
  · -- a session that wants another nick than the one refused, which is shorter
    let rejected := (m.word? 3).getD []
    refine ⟨⟨{ idle with nick := .ofNick (rejected ++ ['x']) }, hub⟩, fun r => ?_⟩
    refine not_ignores_conflict hconflict ?_
    rw [Bool.eq_false_iff]
    intro hsame
    rw [Text.sameName, beq_iff_eq] at hsame
    have hlength := congrArg List.length hsame
    simp [rejected, desired, NickSearch.ofNick] at hlength
  · exact ⟨⟨idle, hub⟩, fun r => not_ignores_erroneous rfl⟩
  · exact ⟨⟨idle, hub⟩, fun r => not_ignores_fatal hfatal⟩

/-! ### Hearing a line -/

/-- How a numeric reply is acted on does not depend on the own nick. -/
lemma hear_of_replyCode (hcode : (Message.ofLine own line).replyCode = some code) (s : Seat)
    (now : Time) : s.hear now line =
      (s.log (.ofParts .debug ["[In] ", Format.strip line])).hearReply now code
        (Message.ofLine own line) := by
  have hcode' : (Message.ofLine s.actual line).replyCode = some code := hcode
  rw [hear, show (s.log _).actual = s.actual from rfl, hcode']
  rfl

/-- **What a session does with a line of unknown kind.**  All sessions ignore the line in all
states, and stay connected, exactly if it bears no code that is heeded. -/
theorem ignores_hear_iff (own line : Text) (hkind : (Message.ofLine own line).kind = .unknown) :
    (∀ (s : Seat) (now : Time), s.Ignores (s.hear now line)) ↔
      (Message.ofLine own line).isHeeded = false := by
  refine ⟨fun hall => ?_, fun h s now => ignores_hear hkind h s now⟩
  rw [Bool.eq_false_iff]
  intro h
  cases hcode : (Message.ofLine own line).replyCode with
  | none =>
    rw [Message.isHeeded, hcode] at h
    cases h
  | some code =>
    obtain ⟨s, hs⟩ := exists_not_ignores_hearReply 0 hcode h
    have hignores := hall s 0
    rw [hear_of_replyCode hcode] at hignores
    exact hs _ hignores

/-- A numeric reply that no session heeds. -/
theorem ignores_hear_away : (Message.ofLine [] ":irc.test 302 ServerBot :away").kind = .unknown ∧
    ∀ (s : Seat) (now : Time), s.Ignores (s.hear now ":irc.test 302 ServerBot :away") :=
  ⟨by decide, (ignores_hear_iff [] ":irc.test 302 ServerBot :away" (by decide)).2 (by decide)⟩

/-- A new session acts on codes without a sender or without an argument, though the kind of each
line is unknown. -/
theorem not_ignores_hear_malformed :
    let r : Run := Run.begin (.fresh .default) 0
    r.Reachable ∧ ∃ s, r.seat? 0 = some s ∧
      ∀ line ∈ (["001 ServerBot :Welcome", ":irc.test 001", "474"] : List String),
        (Message.ofLine s.actual line).kind = .unknown ∧
        (∀ t ∈ Tokens.ofText? line, t.sender = none ∨ t.argCount = 0) ∧
        ¬ s.Ignores (s.hear 0 line) := by
  intro r
  refine ⟨.begin (.fresh .default) 0, _, rfl, ?_⟩
  simp only [List.forall_mem_cons]
  refine ⟨⟨by decide, by decide, ?_⟩, ⟨by decide, by decide, ?_⟩, ⟨by decide, by decide, ?_⟩, by simp⟩
  · exact not_ignores_of_ready (by decide)
  · exact not_ignores_of_ready (by decide)
  · exact not_ignores_of_exit (show _ = some Exit.fatal by decide)

end Seat
end ChatLink
