/-
# The bridge

What a game server talks to.  A bridge starts and stops a run of sessions; while it runs, what is
said in the game is converted to network text, split into frames and put into the queue all
sessions share, once for each channel.  Nothing said while it does not run is kept.
-/
import ChatLink.Config.Validate
import ChatLink.Event.Game
import ChatLink.Format.Game
import ChatLink.Outbox.Draft
import ChatLink.Session.Worker

namespace ChatLink

/-- Why a bridge cannot do what it is asked. -/
inductive BridgeError where
  | disabled
  | alreadyRunning
  | notRunning
  | config (e : ConfigError)
  /-- The system has no thread for a worker. -/
  | spawn (why : Text)
deriving DecidableEq, Repr

/-- The text of an error. -/
def BridgeError.message : BridgeError → Text
  | disabled => "bridge is disabled in the configuration"
  | alreadyRunning => "bridge is already running"
  | notRunning => "bridge is not running"
  | config e => e.message
  | spawn why => "failed to spawn session worker: " ++ why

/-- The system has no thread for the worker with this number, and says why. -/
structure Shortage where
  index : Nat
  why : Text
deriving DecidableEq, Repr

/-- A bridge with the workers of its current run, or of its last one. -/
structure Bridge where
  hub : Hub
  /-- A run has started and was not stopped. -/
  running : Bool
  workers : List Worker
deriving DecidableEq, Repr

namespace Bridge

/-- A stopped bridge, if the configuration is valid. -/
def ofConfig (c : Config) : Except BridgeError Bridge :=
  match c.validate with
  | .ok c => .ok ⟨.fresh c, false, []⟩
  | .error e => .error (.config e)

/-- The settings of the bridge. -/
def config (b : Bridge) : Config := b.hub.config

/-- Adds a record to the journal. -/
def log (b : Bridge) (level : Level) (parts : List Text) : Bridge :=
  { b with hub := b.hub.log (.ofParts level parts) }

/-- New workers for the first so many sessions. -/
def freshWorkers (c : Config) (now : Time) (count : Nat) : List Worker :=
  (List.range count).map fun i => Worker.fresh c i now

/-- Begins a run: every session is new and nobody in the roster is connected.  The workers are
spawned one after the other.  Where the system has no thread for one of them, those before it are told
to stop and the bridge does not run; by then the roster has been replaced.  All this is one step, so
that workers do nothing between the first spawned and the last. -/
def start (b : Bridge) (now : Time) (shortage : Option Shortage) :
    Bridge × Except BridgeError Unit :=
  if !b.config.enabled then (b, .error .disabled)
  else if b.running then (b, .error .alreadyRunning)
  else
    let c := b.config
    let hub := { b.hub with roster := .ofNicks c.sessionNicks }
    match shortage.filter fun s => s.index < c.sessionCount with
    | some s => (⟨hub, false, freshWorkers c now s.index⟩, .error (.spawn s.why))
    | none =>
      let workers := freshWorkers c now c.sessionCount
      (log ⟨hub, true, workers⟩ .info
        ["Bridge started: ", Decimal.digits workers.length, " session(s) to ", c.host,
          [':'], Decimal.digits c.port], .ok ())

/-- A reason for leaving, as one line. -/
def quitReason (reason : Text) : Text := reason.filter fun c => !isLineBreak c

/-- Leaves a worker nothing to send but the line that leaves the network. -/
def dismiss (w : Worker) (reason : Text) : Worker :=
  { w with session := { w.session with outbox := ⟨[Command.quit (quitReason reason)]⟩ } }

/-- Ends the run: every session is to leave the network, and chat that was not sent is lost.  All
this is one step.  In fact the bridge counts as stopped first, and the workers have up to a second to
come to their ends before the shared queue is emptied; here they come to their ends afterwards. -/
def stop (b : Bridge) (reason : Text) : Bridge × Except BridgeError Unit :=
  if b.running then
    let workers := b.workers.map (dismiss · reason)
    (log ⟨{ b.hub with queue := .empty }, false, workers⟩ .info
      ["Bridge stopped: ", quitReason reason], .ok ())
  else (b, .error .notRunning)

/-- Puts a worker and the hub back after a step; what was written goes out. -/
def settle (b : Bridge) (i : Nat) (s : Step) : Bridge × Bytes :=
  ({ b with hub := s.seat.hub, workers := b.workers.set i (.ofStep s) }, s.written)

/-- One step of one worker, and what it wrote.  Workers of a run that was stopped only come to
their ends. -/
def step (b : Bridge) (i : Nat) (now : Time) (e : Stimulus) : Bridge × Bytes :=
  match b.workers[i]? with
  | some w => b.settle i ((w.seat b.hub).step (!b.running) now w.activity e)
  | none => (b, [])

/-- All that one worker of a stopped run still does, and what it writes. -/
def windDown (b : Bridge) (i : Nat) : Bridge × Bytes :=
  match b.workers[i]? with
  | some w => b.settle i ((w.seat b.hub).windDown w.activity)
  | none => (b, [])

/-! ### From the game to the network -/

/-- Puts the frames of a network text for each channel into the shared queue. -/
def enqueueAll (hub : Hub) (draft : Text → Draft) : List Text → Hub
  | [] => hub
  | channel :: channels =>
    enqueueAll { hub with queue := hub.queue.pushAll ((draft channel).frames hub.limits) }
      draft channels

/-- Sends a game text to every channel, if the bridge runs. -/
def enqueue (b : Bridge) (draft : Text → Text → Draft) (text : Text) : Bridge :=
  if b.running then
    let converted := Format.toNetwork b.config.formatting.toNetwork text
    if converted = [] then b
    else { b with hub := enqueueAll b.hub (draft · converted) b.config.channels }
  else b.log .debug ["Bridge not running; dropped outbound message"]

/-- Says a game text in every channel. -/
def sendMessage (b : Bridge) (text : Text) : Bridge := b.enqueue Draft.message text

/-- Does a game text in every channel. -/
def sendAction (b : Bridge) (text : Text) : Bridge := b.enqueue Draft.action text

/-- What is passed on of something said to everyone: all of it, or what follows a hash sign. -/
def forwarded? (b : Bridge) (said : Text) : Option Text :=
  if b.config.forwardToNetwork then some said
  else
    match said with
    | '#' :: rest => some rest
    | _ => none

/-- Passes on what a player says.  Blank lines and, where not everything is forwarded, what is
not said to everyone are left out. -/
def chat (b : Bridge) (kind : ChatKind) (player said : Text) : Bridge :=
  match kind with
  | .everyone =>
    match b.forwarded? said with
    | some said =>
      if Text.isBlank said then b
      else b.sendMessage (player ++ Format.resetMark :: ": " ++ said)
    | none => b
  | .me =>
    if b.config.forwardToNetwork then
      b.sendAction ("* " ++ player ++ Format.resetMark :: ' ' :: said)
    else b
  | .say => if b.config.forwardToNetwork then b.sendAction said else b

/-- Announces what became of a player, if that is wanted. -/
def announce (b : Bridge) (e : GameEvent) : Bridge :=
  if (if e.isJoin then b.config.announceServerJoins else b.config.announceServerEvents) then
    b.sendAction e.toGameText
  else b

end Bridge
end ChatLink
