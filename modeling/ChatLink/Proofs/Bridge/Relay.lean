/-
# What the game says on the network

A running bridge puts the frames of a game text for every channel into the queue, and every frame
is read by others as what it was meant for: a message to that channel with the segment as its
text.  A game text makes no other command and neither opens nor closes a request.
-/
import Mathlib
import ChatLink.Bridge.Basic
import ChatLink.Proofs.Config.Channels
import ChatLink.Proofs.Format.Outbound
import ChatLink.Proofs.Outbox.Segments

namespace ChatLink

/-- A way in which a bridge sends a game text: how it sends it, the draft it makes for a channel,
and the kind and the content that others read from a frame. -/
structure Manner where
  send : Bridge → Text → Bridge
  draft : Text → Text → Draft
  kind : Kind
  content : Message → Option Text

namespace Manner

/-- Saying a text. -/
def saying : Manner := ⟨Bridge.sendMessage, Draft.message, .channelMessage, Message.text⟩

/-- Doing what a text tells. -/
def doing : Manner := ⟨Bridge.sendAction, Draft.action, .channelAction, Message.actionText?⟩

/-- The frames of a converted text for every channel, in the order of the channels. -/
def frames (manner : Manner) (hub : Hub) (converted : Text) : List Text :=
  hub.config.channels.flatMap fun channel => (manner.draft channel converted).frames hub.limits

/-- Every segment of a draft is free of control characters with a meaning, and its frame is read
back as the segment in the channel, whoever sends it and whoever reads it. -/
structure ReadsBack (manner : Manner) (limits : Limits) (channel converted : Text) : Prop where
  /-- There is a frame unless there is nothing to send. -/
  frames_eq_nil_iff : (manner.draft channel converted).frames limits = [] ↔ converted = []
  innocent : ∀ segment ∈ Split.segments ((manner.draft channel converted).budget limits) converted,
    ∀ c ∈ segment, Innocent c ∧ c ≠ '\n'
  read : ∀ segment ∈ Split.segments ((manner.draft channel converted).budget limits) converted,
    ∀ (own : Text) (sender : Sender),
      let message := Message.ofLine own (sender.relay ((manner.draft channel converted).opening ++
        segment ++ (manner.draft channel converted).closing))
      message.Says sender manner.kind channel ∧ manner.content message = some segment

end Manner

namespace Bridge

variable {b : Bridge} {draft : Text → Draft} {limits : Limits} {channel text converted : Text}

/-! ### The queue -/

/-- The frames for all channels stand next to each other in the queue. -/
lemma enqueueAll_eq (hub : Hub) (channels : List Text) :
    enqueueAll hub draft channels =
      { hub with queue := hub.queue.pushAll (channels.flatMap fun channel =>
          (draft channel).frames hub.limits) } := by
  induction channels generalizing hub with
  | nil => simp [enqueueAll, Queue.pushAll]
  | cons channel channels ih =>
    rw [enqueueAll, ih]
    simp [Queue.pushAll]

lemma enqueue_eq (manner : Manner) (hrun : b.running = true) (text : Text)
    (hempty : ∀ channel, (manner.draft channel []).text = []) :
    b.enqueue manner.draft text =
      { b with hub := { b.hub with queue := b.hub.queue.pushAll (manner.frames b.hub
          (Format.toNetwork b.config.formatting.toNetwork text)) } } := by
  rw [enqueue, if_pos hrun]
  dsimp only
  split
  · next hnone =>
    -- nothing is put into the queue, and nothing has no frames
    have hframes : manner.frames b.hub [] = [] := by
      refine List.flatMap_eq_nil_iff.2 fun channel _ => ?_
      rw [Draft.frames_eq_nil_iff, hempty]
      rfl
    rw [hnone, hframes]
    simp [Queue.pushAll]
  · rw [enqueueAll_eq]
    rfl

/-! ### Reading a frame -/

lemma innocent_of_mem_segments (on : Toggles) (text : Text) {budget : Nat} {segment : Text}
    (hs : segment ∈ Split.segments budget (Format.toNetwork on text)) :
    ∀ c ∈ segment, Innocent c ∧ c ≠ '\n' := by
  have hmarker : ∀ c ∈ Split.marker, Innocent c ∧ c ≠ '\n' := by
    intro c hc
    rcases List.mem_pair.1 hc with rfl | rfl <;> decide
  intro c hc
  rcases Split.mem_of_mem_segments hs hc with hc | ⟨hc, hnewline⟩
  · exact hmarker c hc
  · exact ⟨Format.innocent_of_mem_toNetwork hc, hnewline⟩

lemma frames_eq_nil_iff (d : Draft) (limits : Limits) {on : Toggles}
    (h : d.text = Format.toNetwork on text) :
    d.frames limits = [] ↔ Format.toNetwork on text = [] := by
  rw [Draft.frames_eq_nil_iff, h, Format.isBlank_toNetwork_iff]

lemma readsBack_saying (on : Toggles) (text : Text) (limits : Limits) (h : ChannelName channel) :
    Manner.saying.ReadsBack limits channel (Format.toNetwork on text) where
  frames_eq_nil_iff := frames_eq_nil_iff _ limits rfl
  innocent _ hs := innocent_of_mem_segments on text hs
  read segment hs own sender := by
    have hclean : ctcpMark ∉ segment := fun hmem =>
      (innocent_of_mem_segments on text hs ctcpMark hmem).1.2.1 rfl
    have hframe : Command.message channel [] ++ segment ++ [] =
        Command.message channel segment := by
      simp [Command.message_eq]
    show Message.Says (.ofLine own (sender.relay (Command.message channel [] ++ segment ++ [])))
      sender .channelMessage channel ∧
        (Message.ofLine own (sender.relay (Command.message channel [] ++ segment ++ []))).text =
          some segment
    rw [hframe]
    exact ⟨says_message own h hclean, text_relay_message own h⟩

lemma readsBack_doing (on : Toggles) (text : Text) (limits : Limits) (h : ChannelName channel) :
    Manner.doing.ReadsBack limits channel (Format.toNetwork on text) where
  frames_eq_nil_iff := frames_eq_nil_iff _ limits rfl
  innocent _ hs := innocent_of_mem_segments on text hs
  read segment hs own sender := by
    have hframe : Command.message channel actionOpen ++ segment ++ [ctcpMark] =
        Command.message channel (actionOpen ++ segment ++ [ctcpMark]) := by
      simp [Command.message_eq]
    show Message.Says (.ofLine own (sender.relay (Command.message channel actionOpen ++ segment ++
      [ctcpMark]))) sender .channelAction channel ∧
        (Message.ofLine own (sender.relay (Command.message channel actionOpen ++ segment ++
          [ctcpMark]))).actionText? = some segment
    rw [hframe]
    exact ⟨says_action own h, actionText?_action (text_relay_message own h)⟩

/-- What a running bridge with a valid configuration says or does goes into the queue as the frames
of the converted text, channel after channel, and nothing else changes.  Every frame is read back
as its segment. -/
theorem send_readsBack {c : Config} (hvalid : c.validate = .ok b.config) (hrun : b.running = true)
    {manner : Manner} (hmanner : manner = .saying ∨ manner = .doing) (text : Text) :
    manner.send b text =
        { b with hub := { b.hub with queue := b.hub.queue.pushAll (manner.frames b.hub
            (Format.toNetwork b.config.formatting.toNetwork text)) } } ∧
      ∀ channel ∈ b.config.channels, manner.ReadsBack b.hub.limits channel
        (Format.toNetwork b.config.formatting.toNetwork text) := by
  rcases hmanner with rfl | rfl
  · refine ⟨enqueue_eq .saying hrun text fun _ => rfl, ?_⟩
    intro channel hchannel
    exact readsBack_saying _ text _ (Config.channelName_of_validate hvalid hchannel)
  · refine ⟨enqueue_eq .doing hrun text fun _ => rfl, ?_⟩
    intro channel hchannel
    exact readsBack_doing _ text _ (Config.channelName_of_validate hvalid hchannel)

/-- With the default settings: neither a line break nor the marks of a request, written by a
player, reach past the text. -/
theorem send_readsBack_default :
    let b : Bridge := ⟨.fresh .default, true, []⟩
    let text : Text := "bye&nQUIT :\x01ACTION leaves\x01\r\n"
    let converted := Format.toNetwork ⟨true, true⟩ text
    Config.default.validate = .ok b.config ∧ b.running = true ∧
      (b.sendMessage text).hub.queue.lines =
        ["PRIVMSG #changeme :bye", "PRIVMSG #changeme :> QUIT :☺ACTION leaves☺♪"] ∧
      (b.sendAction text).hub.queue.lines =
        ["PRIVMSG #changeme :\x01ACTION bye\x01",
          "PRIVMSG #changeme :\x01ACTION > QUIT :☺ACTION leaves☺♪\x01"] ∧
      Manner.doing.ReadsBack .initial "#changeme" converted := by
  intro b text converted
  have hvalid : Config.default.validate = .ok .default := by decide
  obtain ⟨hsaid, -⟩ := send_readsBack (b := b) hvalid rfl (.inl rfl) text
  obtain ⟨hdone, hread⟩ := send_readsBack (b := b) hvalid rfl (.inr rfl) text
  have hsaid : (b.sendMessage text).hub.queue.lines = Manner.saying.frames b.hub converted :=
    congrArg (fun b : Bridge => b.hub.queue.lines) hsaid
  have hdone : (b.sendAction text).hub.queue.lines = Manner.doing.frames b.hub converted :=
    congrArg (fun b : Bridge => b.hub.queue.lines) hdone
  rw [hsaid, hdone]
  exact ⟨hvalid, rfl, by decide +kernel, by decide +kernel, hread _ (List.mem_singleton.2 rfl)⟩

end Bridge
end ChatLink
