/-
# The console

Stands in for a game server: lines that are typed go to the network, and events from the network
are printed.  The console ends when it is told to leave or is interrupted; the end of its input
alone does not end it.
-/
import ChatLink.Bridge.Basic
import ChatLink.Config.Reader
import ChatLink.Console.Arguments
import ChatLink.Console.Typed

namespace ChatLink

/-- The console with its bridge. -/
structure Console where
  bridge : Bridge
  /-- Typed lines still arrive. -/
  listening : Bool
  /-- Why the console ended, once it has. -/
  ended : Option Text
deriving DecidableEq, Repr

namespace Console

/-- The reason for leaving when none is given. -/
def defaultReason : Text := "Bridge shutting down"

/-- Ends the program over an error. -/
def fail (what : Text) (message : Text) : Farewell := ⟨1, [], [what ++ ": " ++ message]⟩

/-- Starts the bridge of a valid configuration. -/
def run (c : Config) (now : Time) (shortage : Option Shortage) : Except Farewell Console :=
  match Bridge.ofConfig c with
  | .error e => .error (fail "Invalid configuration" e.message)
  | .ok b =>
    match b.start now shortage with
    | (_, .error e) => .error (fail "Failed to start bridge" e.message)
    | (b, .ok ()) => .ok ⟨b, true, none⟩

/-- Starts the program from what reading its configuration gave. -/
def launch (args : Arguments) (c : Except ConfigError Config) (now : Time)
    (shortage : Option Shortage) : Except Farewell Console :=
  match c with
  | .error e => .error (fail ("Failed to load " ++ args.configPath) e.message)
  | .ok c => run c now shortage

/-- Leaves the network and ends, whether or not the bridge was running. -/
def leave (c : Console) (reason : Text) : Console :=
  { c with bridge := (c.bridge.stop reason).1, ended := some reason }

/-- Someone typed a line.  A console that has ended or hears no more does nothing. -/
def type (c : Console) (line : Text) : Console :=
  if c.ended.isSome || !c.listening then c
  else
    match Typed.ofLine line with
    | .message text => { c with bridge := c.bridge.sendMessage text }
    | .action text => { c with bridge := c.bridge.sendAction text }
    | .quit reason => c.leave (if reason = [] then defaultReason else reason)
    | .empty => c

/-- The input has ended. -/
def closeInput (c : Console) : Console := { c with listening := false }

/-- Someone interrupted the program. -/
def interrupt (c : Console) : Console := if c.ended.isSome then c else c.leave defaultReason

/-- The lines to print for events that were not printed yet. -/
def output (c : Console) : List Text := c.bridge.hub.delivered.map NetworkEvent.toGameText

/-- The lines to show of the journal, as far as a level asks for them. -/
def journal (c : Console) (kept : Level) : List Text :=
  (c.bridge.hub.journal.filter fun r => kept.shows r.level).map Record.toLine

/-- All output was printed and all of the journal was shown. -/
def flushed (c : Console) : Console :=
  { c with bridge := { c.bridge with
      hub := { c.bridge.hub with delivered := [], journal := [], reports := [] } } }

end Console
end ChatLink
