/-
# The program

Runs the console over real connections.  A loop goes around every twenty milliseconds: it hands
typed lines to the console, moves every worker as far as it gets, and prints what is to be
printed.  Reading, connecting and waiting for an interrupt go on beside it.
-/
import ChatLink.Console.Basic
import Std.Async.DNS
import Std.Async.Signal
import Std.Async.TCP
import Std.Async.Timer

open Std.Async

namespace ChatLink.Program

/-- How long the loop waits between two rounds, in milliseconds. -/
def tick : UInt32 := 20

/-- How many lines a worker reads in one round at most. -/
def linesPerRound : Nat := 64

/-- How long a read waits before it looks whether its connection was given up, in
milliseconds. -/
def patience : Std.Time.Millisecond.Offset := 20

/-- What belongs to one worker outside the console. -/
structure Link where
  /-- The connection, while there is one. -/
  socket : Option TCP.Socket.Client
  /-- The connection that is being made. -/
  attempt : Option (Task (Except IO.Error TCP.Socket.Client))
  /-- What reads the connection. -/
  listener : Option (Task (Except IO.Error Unit))
  /-- What reads gave and the loop has not taken yet. -/
  arrived : IO.Ref (List Read)
  /-- The connection was given up and nothing more is read. -/
  closed : IO.Ref Bool
  /-- What is left of an unfinished line, and reads that were taken but not used. -/
  reader : Inlet
  /-- When the wait before the next connection is over. -/
  wakeAt : Option Time

/-- A worker without a connection. -/
def Link.fresh : IO Link := do
  return ⟨none, none, none, ← IO.mkRef [], ← IO.mkRef false, ⟨[], []⟩, none⟩

/-- Connects to the first address of a host that answers. -/
def dial (host : String) (port : UInt16) : IO TCP.Socket.Client := do
  let addresses ← (DNS.getAddrInfo host (toString port)).block
  let mut failure := IO.userError s!"{host} did not resolve to any address"
  for address in addresses do
    let target : Std.Net.SocketAddress :=
      match address with
      | .v4 a => .v4 ⟨a, port⟩
      | .v6 a => .v6 ⟨a, port⟩
    try
      let socket ← TCP.Socket.Client.mk
      (socket.connect target).block
      socket.noDelay
      return socket
    catch e => failure := e
  throw failure

/-- What a connection brings next; nothing if that takes long. -/
def hear (socket : TCP.Socket.Client) : IO Read := do
  try
    let pause ← (Selector.sleep patience).block
    (Selectable.one #[
      .case (socket.recvSelector maxRead.toUInt64) fun bytes =>
        return .bytes (bytes.elim [] ByteArray.toList),
      .case pause fun _ => return .notYet]).block
  catch e => return .failed (toString e).toList

/-- Collects what a connection brings until it ends or is given up. -/
partial def listen (socket : TCP.Socket.Client) (arrived : IO.Ref (List Read))
    (closed : IO.Ref Bool) : IO Unit := do
  if ← closed.get then return
  match ← hear socket with
  | .bytes (b :: bs) =>
    arrived.modify (· ++ [.bytes (b :: bs)])
    listen socket arrived closed
  | .notYet => listen socket arrived closed
  | read => arrived.modify (· ++ [read])

/-- Collects typed lines until one asks to leave or the input ends, which an absent line
tells. -/
partial def listenToInput (stdin : IO.FS.Stream) (typed : IO.Ref (List (Option Text))) :
    IO Unit := do
  let line ← stdin.getLine
  if line.isEmpty then
    typed.modify (· ++ [none])
  else
    let line := Text.dropEndWhile isLineBreak line.toList
    typed.modify (· ++ [some line])
    match Typed.ofLine line with
    | .quit _ => return
    | _ => listenToInput stdin typed

/-- Starts something that may block, beside everything else. -/
def spawn {α : Type} (act : IO α) : IO (Task (Except IO.Error α)) :=
  IO.asTask act Task.Priority.dedicated

/-- Gives a connection up, and waits until nothing reads it any more. -/
def hangUp (link : Link) : IO Link := do
  if let some socket := link.socket then
    link.closed.set true
    try socket.shutdown.block catch _ => pure ()
  if let some listener := link.listener then
    let _ ← IO.wait listener
  let fresh ← Link.fresh
  return { fresh with wakeAt := link.wakeAt }

/-- Sends what a step wrote; a failure shows when the connection is read next. -/
def transmit (link : Link) (written : Bytes) : IO Unit := do
  if let some socket := link.socket then
    if written ≠ [] then
      try (socket.send ⟨written.toArray⟩).block
      catch e => link.arrived.modify (· ++ [.failed (toString e).toList])

/-- The reads that have arrived, with nothing more to be read after them. -/
def takeReads (link : Link) : IO Inlet := do
  let arrived ← link.arrived.modifyGet fun reads => (reads, [])
  return ⟨link.reader.pending, link.reader.source ++ arrived ++ [.notYet]⟩

/-- What is left of a reader; the mark that nothing more had arrived is not kept. -/
def keepReads (r : Inlet) : Inlet :=
  ⟨r.pending, r.source.filter (· ≠ .notYet)⟩

/-- Moves one worker as far as it gets without waiting. -/
def advance (b : Bridge) (i : Nat) (link : Link) : Nat → IO (Bridge × Link)
  | 0 => return (b, link)
  | fuel + 1 => do
    let some w := b.workers[i]? | return (b, link)
    let now ← IO.monoMsNow
    match w.activity with
    | .starting =>
      let (b, _) := b.step i now .proceed
      let c := b.config
      let attempt ← spawn (dial (String.ofList c.host) c.port.toUInt16)
      advance b i { link with attempt := some attempt, wakeAt := none } fuel
    | .connecting =>
      let some attempt := link.attempt | return (b, link)
      if ← IO.hasFinished attempt then
        match attempt.get with
        | .ok socket =>
          let link := { ← Link.fresh with socket := some socket }
          let listener ← spawn (listen socket link.arrived link.closed)
          let link := { link with listener := some listener }
          let (b, written) := b.step i now (.connected .free)
          transmit link written
          advance b i link fuel
        | .error e =>
          let (b, _) := b.step i now (.refused (toString e).toList)
          advance b i (← hangUp link) fuel
      else return (b, link)
    | .sending _ =>
      let (b, written) := b.step i now .proceed
      transmit link written
      advance b i link fuel
    | .receiving _ =>
      let (reader, result) := (← takeReads link).next
      let (b, _) := b.step i now (.heard result)
      let link := { link with reader := keepReads reader }
      match result with
      | .ok none => return (b, link)
      | _ => advance b i link fuel
    | .pausing =>
      match link.wakeAt with
      | none =>
        let link ← hangUp link
        return (b, { link with wakeAt := some (now + b.config.reconnectDelay) })
      | some wakeAt =>
        if wakeAt ≤ now then
          let (b, _) := b.step i now .awake
          advance b i link fuel
        else return (b, link)
    | .stopped => return (b, ← hangUp link)

/-- Moves every worker. -/
def advanceAll (b : Bridge) (links : Array Link) : IO (Bridge × Array Link) := do
  let mut b := b
  let mut links := links
  for i in [0:links.size] do
    if let some link := links[i]? then
      let (next, link) ← advance b i link (2 * linesPerRound)
      b := next
      links := links.set! i link
  return (b, links)

/-- Lets every worker of a stopped run send what is left and end. -/
def windDownAll (b : Bridge) (links : Array Link) : IO Bridge := do
  let mut b := b
  for i in [0:links.size] do
    let (next, written) := b.windDown i
    b := next
    if let some link := links[i]? then
      transmit link written
      let _ ← hangUp link
  return b

/-- Prints what there is to print. -/
def print (c : Console) (kept : Level) : IO Console := do
  for line in c.output do
    IO.println (String.ofList line)
  for line in c.journal kept do
    IO.eprintln (String.ofList line)
  (← IO.getStdout).flush
  return c.flushed

/-- One round after the other, until the console has ended. -/
partial def rounds (c : Console) (kept : Level) (links : Array Link)
    (typed : IO.Ref (List (Option Text))) (signals : List (AsyncTask Int)) : IO Console := do
  if c.ended.isSome then return c
  let lines ← typed.modifyGet fun lines => (lines, [])
  let c := lines.foldl (fun c line => line.elim c.closeInput c.type) c
  let interrupted ← signals.anyM fun signal => IO.hasFinished signal
  let c := if interrupted then c.interrupt else c
  let (bridge, links) ← advanceAll c.bridge links
  let c ← print { c with bridge } kept
  if c.ended.isSome then
    let bridge ← windDownAll c.bridge links
    print { c with bridge } kept
  else
    IO.sleep tick
    rounds c kept links typed signals

/-- Says what there is to say and ends. -/
def bid (f : Farewell) : IO UInt32 := do
  for line in f.errors do
    IO.eprintln (String.ofList line)
  for line in f.output do
    IO.println (String.ofList line)
  return f.code.toUInt32

/-- Reads the configuration of a file. -/
def readConfig (path : String) : IO (Except ConfigError Config) := do
  try
    let bytes ← IO.FS.readBinFile path
    return Config.ofFile (some bytes.toList)
  catch e => return .error (.unreadable (toString e).toList)

/-- Runs the program with the arguments of its command line. -/
def run (args : List Text) : IO UInt32 := do
  match Arguments.read args with
  | .error f => bid f
  | .ok a =>
    let config ← readConfig (String.ofList a.configPath)
    match Console.launch a config (← IO.monoMsNow) none with
    | .error f => bid f
    | .ok c =>
      let typed ← IO.mkRef []
      let _ ← spawn (listenToInput (← IO.getStdin) typed)
      let signals ← [Signal.sigint, .sigterm].mapM fun signal => do
        (← Signal.Waiter.mk signal false).wait
      let mut links := #[]
      for _ in c.bridge.workers do
        links := links.push (← Link.fresh)
      let _ ← rounds c a.level links typed signals
      return 0

end ChatLink.Program

/-- The program starts here. -/
def main (args : List String) : IO UInt32 :=
  ChatLink.Program.run (args.map String.toList)
