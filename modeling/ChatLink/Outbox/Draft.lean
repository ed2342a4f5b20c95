/-
# Drafts

A text on its way to one target, with what stands before and after it in every frame.  The
frames of a draft are the segments of its text within that frame.
-/
import ChatLink.Command
import ChatLink.Outbox.Limits
import ChatLink.Outbox.Split

namespace ChatLink

/-- A text for one target that is not split yet. -/
structure Draft where
  /-- What starts every frame. -/
  opening : Text
  /-- The text. -/
  text : Text
  /-- What ends every frame. -/
  closing : Text
deriving DecidableEq, Repr

namespace Draft

/-- A text said to a target. -/
def message (target text : Text) : Draft := ⟨Command.message target [], text, []⟩

/-- A text that a target sees as something done. -/
def action (target text : Text) : Draft :=
  ⟨Command.message target actionOpen, text, [ctcpMark]⟩

/-- The room for each segment of the text. -/
def budget (d : Draft) (l : Limits) : Nat :=
  l.budget d.opening.byteLength d.closing.byteLength

/-- The lines that send a draft. -/
def frames (d : Draft) (l : Limits) : List Text :=
  (Split.segments (d.budget l) d.text).map fun s => d.opening ++ s ++ d.closing

end Draft
end ChatLink
