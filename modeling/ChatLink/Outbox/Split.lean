/-
# Splitting a text into segments

A text that does not fit in one frame is sent as several segments.  Line breaks separate pieces,
of which the blank ones are dropped; a piece that is too long is cut between characters, each
part as long as it can be.  Every segment but the first starts with a marker.
-/
import ChatLink.Text.Blank

namespace ChatLink.Split

/-- What starts every segment but the first. -/
def marker : Text := "> "

/-- The least budget for a segment: the marker and one character of any width. -/
def minBudget : Nat := marker.byteLength + 4

/-- The pieces of a text: its lines without carriage returns at their ends, those left out that
are blank. -/
def pieces (text : Text) : List Text :=
  ((Text.splitOn '\n' text).map (Text.dropEndWhile (· == '\r'))).filter fun p => !p.isBlank

/-- A piece cut into parts: the first of at most `room` bytes and the others of at most `later`,
each with one character at least. -/
def cut (room later : Nat) : Text → List Text
  | [] => []
  | c :: t =>
    let taken := Text.splitBytes (room - c.utf8Size) t
    (c :: taken.1) :: cut later later taken.2
termination_by t => t.length
decreasing_by
  have := Text.length_splitBytes_snd_le (room - c.utf8Size) t
  simp only [List.length_cons]
  omega

/-- The parts of several pieces; only the first part of the first piece has `room`. -/
def cutAll (room later : Nat) : List Text → List Text
  | [] => []
  | p :: ps => cut room later p ++ cutAll later later ps

/-- The contents of the segments of a text. -/
def contents (budget : Nat) (text : Text) : List Text :=
  let budget := max budget minBudget
  cutAll budget (budget - marker.byteLength) (pieces text)

/-- Contents as segments: all but the first get the marker. -/
def mark : List Text → List Text
  | [] => []
  | c :: cs => c :: cs.map (marker ++ ·)

/-- The segments of a text, each of at most `budget` bytes. -/
def segments (budget : Nat) (text : Text) : List Text := mark (contents budget text)

end ChatLink.Split
