/-
# Configuration

Everything the bridge has to know before it connects.  Every setting has a default.  A nick
service is told who we are after each registration, if one is set.
-/
import ChatLink.Format.Toggles

namespace ChatLink

/-- Identification with a nick service. -/
structure NickService where
  /-- The nick of the service. -/
  service : Text
  /-- What it is told. -/
  message : Text
deriving DecidableEq, Repr

/-- The nick that services for nicks usually have. -/
def NickService.defaultService : Text := "NickServ"

/-- Which formatting passes in each direction. -/
structure Formatting where
  fromNetwork : Toggles
  toNetwork : Toggles
deriving DecidableEq, Repr

/-- All formatting passes. -/
def Formatting.default : Formatting := ⟨⟨true, true⟩, ⟨true, true⟩⟩

/-- The settings of a bridge. -/
structure Config where
  /-- A bridge that is not enabled refuses to start. -/
  enabled : Bool
  host : Text
  port : Nat
  channels : List Text
  /-- The nick of the first session; the others add their number. -/
  nick : Text
  /-- How many connections share what is to be sent. -/
  sessionCount : Nat
  /-- The least time between two lines of one session. -/
  sendDelay : Nat
  /-- How long to wait before connecting again, and before entering a channel again. -/
  reconnectDelay : Nat
  /-- The least time between two attempts to get the wanted nick back. -/
  nickRetryDelay : Nat
  /-- How long connecting and writing may take; not used as less than one. -/
  ioTimeoutSetting : Nat
  realName : Text
  formatting : Formatting
  /-- Everything said on the network goes to the game; otherwise only what starts with a hash
  sign, which is removed. -/
  forwardFromNetwork : Bool
  /-- Everything said in the game goes to the network; otherwise only what starts with a hash
  sign, which is removed. -/
  forwardToNetwork : Bool
  /-- The game is told who enters and leaves on the network. -/
  announceNetworkJoins : Bool
  /-- The network is told who enters and leaves the game. -/
  announceServerJoins : Bool
  /-- The network is told of kicks, bans and changes of rank. -/
  announceServerEvents : Bool
  nickService : Option NickService
deriving DecidableEq, Repr

namespace Config

/-- The settings that hold where nothing else is said. -/
def default : Config where
  enabled := true
  host := "irc.esper.net"
  port := 6667
  channels := ["#changeme"]
  nick := "ServerBot"
  sessionCount := 1
  sendDelay := 750
  reconnectDelay := 15000
  nickRetryDelay := 30000
  ioTimeoutSetting := 15000
  realName := "Game server chat bridge"
  formatting := .default
  forwardFromNetwork := true
  forwardToNetwork := true
  announceNetworkJoins := true
  announceServerJoins := true
  announceServerEvents := true
  nickService := none

/-- How long connecting and writing may take, which is never no time at all. -/
def ioTimeout (c : Config) : Nat := max c.ioTimeoutSetting 1

/-- The nick that a session wants: the first one the configured nick, any other the same with
its number, counted from one. -/
def sessionNick (c : Config) (i : Nat) : Text :=
  if i = 0 then c.nick else c.nick ++ Decimal.digits (i + 1)

/-- The nicks that all sessions want. -/
def sessionNicks (c : Config) : List Text := (List.range c.sessionCount).map c.sessionNick

end Config
end ChatLink
