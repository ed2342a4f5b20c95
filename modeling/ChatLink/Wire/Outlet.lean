/-
# Sending lines

A frame of the chat network is a line and a line end, together at most 512 bytes.  A line that
would not fit, or that holds a line break of its own, is refused before anything is written, so
that no text can pass for a second command.  A frame is written in two pieces, the line and the
line end, and then the connection is told to pass on what it holds back.  A connection may take
less than it is given, and it may fail at any of this.
-/
import ChatLink.Text.Utf8
import ChatLink.Text.Number

namespace ChatLink

/-- The greatest number of bytes of a frame, its line end included. -/
def maxFrame : Nat := 512

/-- The greatest number of bytes of a line, its end not included. -/
def maxLine : Nat := maxFrame - 2

/-- What ends a line. -/
def lineEnd : Text := ['\r', '\n']

/-- A character that would end a line early. -/
def isLineBreak (c : Char) : Bool := c == '\r' || c == '\n'

/-- Why a line cannot be sent at all. -/
inductive Refusal where
  /-- The line has more bytes than fit in a frame. -/
  | tooLong (bytes : Nat)
  /-- The line holds a line break. -/
  | lineBreak
deriving DecidableEq, Repr

/-- The reason to refuse a line, if there is one. -/
def refusal? (line : Text) : Option Refusal :=
  if maxLine < line.byteLength then some (.tooLong line.byteLength)
  else if line.any isLineBreak then some .lineBreak
  else none

/-- The kind of an error. -/
inductive ErrorKind where
  | invalidInput
  | interrupted
  | writeZero
  | brokenPipe
  | other (name : Text)
deriving DecidableEq, Repr

/-- How a connection failed. -/
structure Failure where
  kind : ErrorKind
  why : Text
deriving DecidableEq, Repr

/-- A connection that takes no more bytes. -/
def Failure.writeZero : Failure := ⟨.writeZero, "failed to write whole buffer"⟩

/-- Why a line was not sent. -/
inductive SendError where
  /-- The line was refused and nothing was written. -/
  | refused (why : Refusal)
  /-- The connection failed. -/
  | failed (f : Failure)
deriving DecidableEq, Repr

/-- The text of an error. -/
def SendError.message : SendError → Text
  | refused (.tooLong bytes) =>
    "line too long: " ++ Decimal.digits bytes ++ " bytes (max " ++
      Decimal.digits maxLine ++ ")"
  | refused .lineBreak => "line contains an embedded line break"
  | failed f => f.why

/-- The kind of an error.  A line that is refused counts as input that is not valid. -/
def SendError.kind : SendError → ErrorKind
  | refused _ => .invalidInput
  | failed f => f.kind

/-- How a connection answers when bytes are written. -/
inductive WriteAnswer where
  /-- It takes so many bytes, or all if there are fewer. -/
  | takes (count : Nat)
  /-- It fails. -/
  | fails (f : Failure)
deriving DecidableEq, Repr

/-- How a connection answers from now on.  When no answer is left it takes everything. -/
structure Wire where
  /-- The answers when bytes are written. -/
  writes : List WriteAnswer
  /-- The answers when it is told to pass on what it holds back: nothing, or how it failed. -/
  flushes : List (Option Failure)
deriving DecidableEq, Repr

/-- A connection that takes everything at once. -/
def Wire.free : Wire := ⟨[], []⟩

/-- A connection whose other side is gone. -/
def Wire.broken : Wire := ⟨[.fails ⟨.brokenPipe, "broken pipe"⟩], []⟩

/-- Writes bytes until none is left.  This gives the bytes that were taken, the answers that are
left, and how the connection failed, if it did.  Where nothing is to be written the connection is
not asked, and where it was interrupted it is asked again. -/
def writeAll : List WriteAnswer → Bytes → Bytes × List WriteAnswer × Option Failure
  | [], bs => (bs, [], none)
  | answer :: answers, bs =>
    if bs = [] then ([], answer :: answers, none)
    else
      match answer with
      | .takes 0 => ([], answers, some .writeZero)
      | .takes (n + 1) =>
        let (more, answers, failure) := writeAll answers (bs.drop (n + 1))
        (bs.take (n + 1) ++ more, answers, failure)
      | .fails f =>
        if f.kind = .interrupted then writeAll answers bs else ([], answers, some f)

/-- The sending side of a connection. -/
structure Outlet where
  /-- What was written so far. -/
  sent : Bytes
  wire : Wire
deriving DecidableEq, Repr

namespace Outlet

/-- Writes one piece. -/
def put (o : Outlet) (piece : Bytes) : Outlet × Option Failure :=
  let (bs, writes, failure) := writeAll o.wire.writes piece
  (⟨o.sent ++ bs, { o.wire with writes }⟩, failure)

/-- Tells the connection to pass on what it holds back. -/
def flush (o : Outlet) : Outlet × Option Failure :=
  match o.wire.flushes with
  | [] => (o, none)
  | answer :: flushes => (⟨o.sent, { o.wire with flushes }⟩, answer)

/-- Writes a line and its end. -/
def send (o : Outlet) (line : Text) : Outlet × Except SendError Unit :=
  match refusal? line with
  | some why => (o, .error (.refused why))
  | none =>
    match o.put (Utf8.encode line) with
    | (o, some f) => (o, .error (.failed f))
    | (o, none) =>
      match o.put (Utf8.encode lineEnd) with
      | (o, some f) => (o, .error (.failed f))
      | (o, none) =>
        match o.flush with
        | (o, some f) => (o, .error (.failed f))
        | (o, none) => (o, .ok ())

end Outlet
end ChatLink
