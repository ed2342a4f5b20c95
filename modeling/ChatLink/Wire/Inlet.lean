/-
# Receiving lines

Bytes arrive in pieces of at most 2048, in between which a read may find nothing yet.  The
reader keeps what it has of an unfinished line and hands out one line at a time, without its
end and decoded as UTF-8.  A line that does not end within 8704 bytes is an error.
-/
import ChatLink.Text.Utf8
import ChatLink.Text.Number
import ChatLink.Wire.Outlet

namespace ChatLink

/-- The most bytes that one read returns. -/
def maxRead : Nat := 2048

/-- The greatest number of bytes of an inbound line: tags of 8191 bytes and a frame, with one
more for the line end. -/
def maxInbound : Nat := 8191 + maxFrame + 1

/-- Why no line can be read. -/
inductive ReadError where
  /-- The other side closed the connection. -/
  | closed
  /-- The unfinished line is longer than a line may be. -/
  | overlong
  /-- The connection failed. -/
  | reset (message : Text)
deriving DecidableEq, Repr

/-- The text of an error. -/
def ReadError.message : ReadError → Text
  | closed => "connection closed by peer"
  | overlong =>
    "inbound line exceeds " ++ Decimal.digits maxInbound ++
      " bytes without a terminator"
  | reset message => message

/-- What one read gives. -/
inductive Read where
  /-- Bytes; none of them at the end of the stream. -/
  | bytes (bs : Bytes)
  /-- Nothing has arrived yet. -/
  | notYet
  /-- The read was interrupted and is tried again. -/
  | interrupted
  /-- The read failed. -/
  | failed (message : Text)
deriving DecidableEq, Repr

/-- The bytes that arrive at once as the reads that return them. -/
def Read.pieces (bs : Bytes) : List Read :=
  if bs.length ≤ maxRead then [.bytes bs]
  else .bytes (bs.take maxRead) :: Read.pieces (bs.drop maxRead)
termination_by bs.length
decreasing_by
  simp only [List.length_drop, maxRead] at *
  omega

/-- A reader of lines. -/
structure Inlet where
  /-- The bytes that have arrived and were not handed out. -/
  pending : Bytes
  /-- The reads to come; after them the stream has ended. -/
  source : List Read
deriving DecidableEq, Repr

namespace Inlet

/-- A line feed. -/
def lineFeed : UInt8 := 10

/-- A carriage return. -/
def carriageReturn : UInt8 := 13

/-- The bytes before the first line feed and those after it, if there is one. -/
def cutLine? : Bytes → Option (Bytes × Bytes)
  | [] => none
  | b :: bs =>
    if b = lineFeed then some ([], bs)
    else
      match cutLine? bs with
      | some (line, rest) => some (b :: line, rest)
      | none => none

/-- The text of a line from its bytes; one carriage return at their end belongs to the line
end. -/
def lineText (bs : Bytes) : Text :=
  Utf8.decode (if bs.getLast? = some carriageReturn then bs.dropLast else bs)

/-- Reads until there is a line, an error, or nothing to read yet. -/
def nextFrom : List Read → Bytes → Inlet × Except ReadError (Option Text)
  | source, pending =>
    match cutLine? pending with
    | some (line, rest) => (⟨rest, source⟩, .ok (some (lineText line)))
    | none =>
      if maxInbound < pending.length then (⟨pending, source⟩, .error .overlong)
      else
        match source with
        | [] => (⟨pending, []⟩, .error .closed)
        | .bytes [] :: later => (⟨pending, later⟩, .error .closed)
        | .bytes (b :: bs) :: later => nextFrom later (pending ++ b :: bs)
        | .notYet :: later => (⟨pending, later⟩, .ok none)
        | .interrupted :: later => nextFrom later pending
        | .failed message :: later => (⟨pending, later⟩, .error (.reset message))

/-- The next line, or none if nothing more has arrived yet. -/
def next (r : Inlet) : Inlet × Except ReadError (Option Text) :=
  nextFrom r.source r.pending

end Inlet
end ChatLink
