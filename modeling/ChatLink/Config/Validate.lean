/-
# Valid configurations

A bridge runs only with settings that can work: a host, a port, a session at least, nicks that
the network takes, and channels.  Validation also brings the names of channels into form: it
trims them, leaves out the blank ones, and adds a hash sign where that is missing.
-/
import ChatLink.Config.Basic
import ChatLink.Nick.Syntax
import ChatLink.Outbox.Limits
import ChatLink.Text.Blank
import ChatLink.Text.Quoted

namespace ChatLink

/-- The greatest number of bytes of a channel's name. -/
def maxChannel : Nat := 200

/-- What is wrong with a configuration. -/
inductive ConfigError where
  /-- The file cannot be read. -/
  | unreadable (detail : Text)
  /-- The text is no configuration. -/
  | malformed (detail : Text)
  | emptyHost
  | zeroPort
  | noChannels
  | invalidChannel (name : Text)
  | invalidNick (nick : Text)
  | nickTooLong (nick : Text) (max : Nat)
  | noSessions
deriving DecidableEq, Repr

/-- The text of an error. -/
def ConfigError.message : ConfigError → Text
  | unreadable detail => "failed to read config file: " ++ detail
  | malformed detail => "failed to parse config JSON: " ++ detail
  | emptyHost => "host must not be empty"
  | zeroPort => "port must be non-zero"
  | noChannels => "at least one channel is required"
  | invalidChannel name => "invalid channel name " ++ Text.quoted name
  | invalidNick nick => "unacceptable nick " ++ Text.quoted nick
  | nickTooLong nick max =>
    "nick " ++ Text.quoted nick ++ " is longer than " ++ Decimal.digits max ++
      " bytes"
  | noSessions => "session_count must be at least 1"

namespace Config

/-- A channel's name with a hash sign in front. -/
def withHash : Text → Text
  | '#' :: t => '#' :: t
  | t => '#' :: t

/-- A character that no channel's name may hold. -/
def isBadInChannel (c : Char) : Bool := c == ' ' || c == ',' || c == '\x07'

/-- A name in form that the network takes for a channel. -/
def isChannel (name : Text) : Bool :=
  2 ≤ name.byteLength && name.byteLength ≤ maxChannel && !name.any isBadInChannel

/-- Channels in form, without those that are blank. -/
def normalizeChannels : List Text → Except ConfigError (List Text)
  | [] => .ok []
  | raw :: raws =>
    let name := Text.trim raw
    if name = [] then normalizeChannels raws
    else if isChannel (withHash name) then
      match normalizeChannels raws with
      | .ok names => .ok (withHash name :: names)
      | .error e => .error e
    else .error (.invalidChannel raw)

/-- What is wrong with the settings other than the channels. -/
def problem? (c : Config) : Option ConfigError :=
  let longest := c.sessionNick (c.sessionCount - 1)
  if Text.trim c.host = [] then some .emptyHost
  else if c.port = 0 then some .zeroPort
  else if c.sessionCount = 0 then some .noSessions
  else if !Nick.isValid c.nick then some (.invalidNick c.nick)
  else if defaultMaxNick < longest.byteLength then some (.nickTooLong longest defaultMaxNick)
  else none

/-- Checks a configuration where it stands: what becomes of it, and what is wrong with it if a bridge
cannot run with it.  Its channels are brought into form when all else has been found right. -/
def check (c : Config) : Config × Except ConfigError Unit :=
  match c.problem? with
  | some e => (c, .error e)
  | none =>
    match normalizeChannels c.channels with
    | .error e => (c, .error e)
    | .ok [] => (c, .error .noChannels)
    | .ok channels => ({ c with channels }, .ok ())

/-- The configuration with its channels in form, if a bridge can run with it. -/
def validate (c : Config) : Except ConfigError Config :=
  match c.check with
  | (d, .ok ()) => .ok d
  | (_, .error e) => .error e

end Config
end ChatLink
