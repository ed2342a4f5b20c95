/-
# Reading a configuration

A configuration is written as a JSON object whose members are settings, or as a list of
settings in order.  What is not given has its default; a setting that is given must have the
right type, and only the nick service may be null.
-/
import ChatLink.Config.Validate
import ChatLink.Json.Reader
import ChatLink.Text.Utf8

namespace ChatLink

namespace NickService

/-- The names of the settings in order. -/
def fieldNames : List Text := ["service", "message"]

/-- A nick service; the message has no default. -/
def ofJson? (v : Json) : Option NickService := do
  let [service, message] ← v.fields? fieldNames | none
  let service ← service.elim (some defaultService) Json.text?
  let message ← message.bind Json.text?
  some ⟨service, message⟩

end NickService

namespace Formatting

/-- The names of the settings in order. -/
def fieldNames : List Text := [
  "colors_from_network", "emotes_from_network", "colors_to_network",
  "emotes_to_network"]

/-- Which formatting passes; all of it by default. -/
def ofJson? (v : Json) : Option Formatting := do
  let [colorsFrom, emotesFrom, colorsTo, emotesTo] ← v.fields? fieldNames | none
  let colorsFrom ← colorsFrom.elim (some true) Json.bool?
  let emotesFrom ← emotesFrom.elim (some true) Json.bool?
  let colorsTo ← colorsTo.elim (some true) Json.bool?
  let emotesTo ← emotesTo.elim (some true) Json.bool?
  some ⟨⟨colorsFrom, emotesFrom⟩, ⟨colorsTo, emotesTo⟩⟩

end Formatting

namespace Config

/-- The names of the settings in order. -/
def fieldNames : List Text := [
  "enabled", "host", "port", "channels", "nick",
  "session_count", "send_delay_ms", "reconnect_delay_ms",
  "nick_retry_delay_ms", "io_timeout_ms", "real_name",
  "formatting", "forward_from_network", "forward_to_network",
  "announce_network_joins", "announce_server_joins",
  "announce_server_events", "nickserv"]

/-- The greatest number of a port. -/
def maxPort : Nat := 65535

/-- A configuration, not validated yet. -/
def ofJson? (v : Json) : Option Config := do
  let [enabled, host, port, channels, nick, sessionCount, sendDelay, reconnectDelay,
    nickRetryDelay, ioTimeoutSetting, realName, formatting, forwardFromNetwork,
    forwardToNetwork, announceNetworkJoins, announceServerJoins, announceServerEvents,
    nickService] ← v.fields? fieldNames | none
  let d := Config.default
  let enabled ← enabled.elim (some d.enabled) Json.bool?
  let host ← host.elim (some d.host) Json.text?
  let port ← port.elim (some d.port) (Json.natural? maxPort)
  let channels ← channels.elim (some d.channels) Json.texts?
  let nick ← nick.elim (some d.nick) Json.text?
  let sessionCount ← sessionCount.elim (some d.sessionCount) (Json.natural? maxWord)
  let sendDelay ← sendDelay.elim (some d.sendDelay) (Json.natural? maxWord)
  let reconnectDelay ← reconnectDelay.elim (some d.reconnectDelay) (Json.natural? maxWord)
  let nickRetryDelay ← nickRetryDelay.elim (some d.nickRetryDelay) (Json.natural? maxWord)
  let ioTimeoutSetting ← ioTimeoutSetting.elim (some d.ioTimeoutSetting) (Json.natural? maxWord)
  let realName ← realName.elim (some d.realName) Json.text?
  let formatting ← formatting.elim (some d.formatting) Formatting.ofJson?
  let forwardFromNetwork ← forwardFromNetwork.elim (some d.forwardFromNetwork) Json.bool?
  let forwardToNetwork ← forwardToNetwork.elim (some d.forwardToNetwork) Json.bool?
  let announceNetworkJoins ← announceNetworkJoins.elim (some d.announceNetworkJoins) Json.bool?
  let announceServerJoins ← announceServerJoins.elim (some d.announceServerJoins) Json.bool?
  let announceServerEvents ← announceServerEvents.elim (some d.announceServerEvents) Json.bool?
  let nickService ← nickService.elim (some d.nickService) (Json.orNull? NickService.ofJson?)
  some {
    enabled, host, port, channels, nick, sessionCount, sendDelay, reconnectDelay,
    nickRetryDelay, ioTimeoutSetting, realName, formatting, forwardFromNetwork,
    forwardToNetwork, announceNetworkJoins, announceServerJoins, announceServerEvents,
    nickService }

/-- The valid configuration that a JSON value gives. -/
def load (v : Option Json) : Except ConfigError Config :=
  match v.bind ofJson? with
  | some c => c.validate
  | none => .error (.malformed [])

/-- The valid configuration that a text writes. -/
def ofText (t : Text) : Except ConfigError Config := load (Json.ofText? t)

/-- The valid configuration in the bytes of a file; without a file there are none. -/
def ofFile : Option Bytes → Except ConfigError Config
  | none => .error (.unreadable [])
  | some bs =>
    match Utf8.decode? bs with
    | some t => ofText t
    | none => .error (.unreadable [])

end Config
end ChatLink
