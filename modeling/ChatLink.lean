import ChatLink.Text.Basic
import ChatLink.Text.Blank
import ChatLink.Text.Utf8
import ChatLink.Text.Number
import ChatLink.Text.Quoted
import ChatLink.Message.Basic
import ChatLink.Command
import ChatLink.Wire.Inlet
import ChatLink.Format.Game
import ChatLink.Format.Network
import ChatLink.Outbox.Draft
import ChatLink.Outbox.Limiter
import ChatLink.Json.Reader
import ChatLink.Nick.Syntax
import ChatLink.Nick.Search
import ChatLink.Roster
import ChatLink.Outbox.Queue
import ChatLink.Config.Reader
import ChatLink.Message.Serialized
import ChatLink.Event.Network
import ChatLink.Event.Game
import ChatLink.Session.Run
import ChatLink.Console.Basic
import ChatLink.Main
import ChatLink.Proofs.Roster.Election
import ChatLink.Proofs.Format.Injection
import ChatLink.Proofs.Text.Parts
import ChatLink.Proofs.Config.Channels
import ChatLink.Proofs.Format.Outbound
import ChatLink.Proofs.Outbox.Segments
import ChatLink.Proofs.Bridge.Relay
import ChatLink.Proofs.Session.Places
import ChatLink.Proofs.Session.Reachable
import ChatLink.Proofs.Message.Rules
import ChatLink.Proofs.Message.Traffic
import ChatLink.Proofs.Session.Announce
import ChatLink.Proofs.Session.Interleaving
import ChatLink.Proofs.Bridge.Runs
import ChatLink.Proofs.Wire.Lines
import ChatLink.Proofs.Nick.Attempts
import ChatLink.Proofs.Session.Delivered
import ChatLink.Proofs.Session.Unrecognised
import ChatLink.Proofs.Session.Ledger
import ChatLink.Proofs.Session.Echo
import ChatLink.Proofs.Session.Configured
import ChatLink.Proofs.Outbox.Frames
import ChatLink.Proofs.Message.Overlap
import ChatLink.Proofs.Message.Words
import ChatLink.Proofs.Format.RoundTrip
import ChatLink.Proofs.Wire.Exchange
import ChatLink.Proofs.Session.NickLimit
import ChatLink.Proofs.Session.Identity
import ChatLink.Proofs.Bridge.Lives
import ChatLink.Proofs.Bridge.Lifecycle
import ChatLink.Proofs.Bridge.Staying
import ChatLink.Proofs.Session.Backlog
import ChatLink.Proofs.Outbox.Cuts
import ChatLink.Proofs.Format.Toggling
import ChatLink.Proofs.Outbox.Shown
import ChatLink.Proofs.Nick.Repeats
import ChatLink.Proofs.Session.Refusals
import ChatLink.Proofs.Session.Spacing
import ChatLink.Proofs.Bridge.Farewell
import ChatLink.Proofs.Bridge.Leaving
import ChatLink.Proofs.Session.Keepalive
import ChatLink.Proofs.Session.Misnaming
import ChatLink.Proofs.Session.Rejoining
import ChatLink.Proofs.Session.Reclaiming
import ChatLink.Proofs.Format.Stripping
import ChatLink.Proofs.Wire.Overlong
import ChatLink.Proofs.Format.ChatLine
import ChatLink.Proofs.Nick.Rounds
