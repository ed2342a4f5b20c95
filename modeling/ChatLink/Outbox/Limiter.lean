/-
# The interval between two lines

A session sends no two lines within a certain time.  Times are in milliseconds; one before the
last sending counts as that very moment.
-/

namespace ChatLink

/-- A moment, in milliseconds since the program started. -/
abbrev Time := Nat

/-- How long ago an earlier moment is; a later one is no time ago. -/
def elapsed (since now : Time) : Nat := now - since

/-- Keeps lines apart. -/
structure Limiter where
  /-- The least time between two lines. -/
  interval : Nat
  /-- When the last line was sent. -/
  last : Option Time
deriving DecidableEq, Repr

namespace Limiter

/-- A limiter that has seen no line. -/
def fresh (interval : Nat) : Limiter := ⟨interval, none⟩

/-- A line may be sent at this moment. -/
def ready (l : Limiter) (now : Time) : Bool :=
  match l.last with
  | none => true
  | some last => l.interval ≤ elapsed last now

/-- A line was sent at this moment. -/
def record (l : Limiter) (now : Time) : Limiter := { l with last := some now }

@[simp] theorem ready_fresh (interval : Nat) (now : Time) : (fresh interval).ready now = true := rfl

@[simp] theorem ready_record (l : Limiter) (t now : Time) :
    (l.record t).ready now = decide (l.interval ≤ elapsed t now) := rfl

end Limiter
end ChatLink
