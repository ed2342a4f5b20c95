/-
# Queues of lines

Lines wait in the order in which they were put in.  Several holders may share one queue; a pool
keeps the queues apart from the handles under which they are held.
-/
import ChatLink.Text.Basic

namespace ChatLink

/-- Lines that wait to be sent, the oldest first. -/
structure Queue where
  lines : List Text
deriving DecidableEq, Repr

namespace Queue

/-- No line waits. -/
def empty : Queue := ⟨[]⟩

/-- Puts lines at the end, next to each other. -/
def pushAll (q : Queue) (lines : List Text) : Queue := ⟨q.lines ++ lines⟩

/-- Puts a line at the end. -/
def push (q : Queue) (line : Text) : Queue := q.pushAll [line]

/-- The oldest line and the queue without it. -/
def pop? (q : Queue) : Option (Text × Queue) :=
  match q.lines with
  | [] => none
  | line :: rest => some (line, ⟨rest⟩)

@[simp] theorem lines_empty : empty.lines = [] := rfl

@[simp] theorem lines_pushAll (q : Queue) (lines : List Text) :
    (q.pushAll lines).lines = q.lines ++ lines := rfl

@[simp] theorem lines_push (q : Queue) (line : Text) :
    (q.push line).lines = q.lines ++ [line] := rfl

theorem pop?_eq_some_iff {q r : Queue} {line : Text} :
    q.pop? = some (line, r) ↔ q.lines = line :: r.lines := by
  rcases q with ⟨_ | ⟨l, ls⟩⟩ <;> rcases r with ⟨rs⟩ <;> simp [pop?]

theorem pop?_eq_none_iff {q : Queue} : q.pop? = none ↔ q.lines = [] := by
  rcases q with ⟨_ | ⟨l, ls⟩⟩ <;> simp [pop?]

end Queue

/-- Queues and the handles under which they are held. -/
structure QueuePool where
  queues : List Queue
  /-- For each handle the index of its queue. -/
  handles : List Nat
deriving DecidableEq, Repr

namespace QueuePool

/-- One empty queue under one handle. -/
def initial : QueuePool := ⟨[.empty], [0]⟩

/-- The queue under a handle. -/
def queue? (p : QueuePool) (h : Nat) : Option Queue := p.handles[h]?.bind fun i => p.queues[i]?

/-- Changes the queue under a handle, for all who hold it. -/
def modify (p : QueuePool) (h : Nat) (f : Queue → Queue) : QueuePool :=
  match p.handles[h]? with
  | some i => { p with queues := p.queues.modify i f }
  | none => p

/-- Adds a handle for the queue under a handle. -/
def share (p : QueuePool) (h : Nat) : QueuePool :=
  match p.handles[h]? with
  | some i => { p with handles := p.handles ++ [i] }
  | none => p

/-- Adds an empty queue under a handle of its own. -/
def add (p : QueuePool) : QueuePool :=
  ⟨p.queues ++ [.empty], p.handles ++ [p.queues.length]⟩

end QueuePool
end ChatLink
