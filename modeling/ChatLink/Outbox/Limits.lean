/-
# Limits learned from the network

The network puts the sender in front of every line it passes on, and that counts against the
length of a frame.  How long a nick and the user and host behind it can be is learned while
connected; until then a guess stands in.
-/
import ChatLink.Wire.Outlet

namespace ChatLink

/-- The longest nick assumed until the network names one. -/
def defaultMaxNick : Nat := 30

/-- The length of user and host assumed until the network tells ours. -/
def defaultUserHost : Nat := 60

/-- The shortest limit on nicks that is believed. -/
def minMaxNick : Nat := 9

/-- The room that a segment has at least, however long senders may be. -/
def minContent : Nat := 64

/-- What stands around a sender's nick and user and host: a colon, an exclamation mark and a
space. -/
def senderOverhead : Nat := 3

/-- The limits that all sessions share. -/
structure Limits where
  /-- The greatest number of bytes of a nick. -/
  maxNick : Nat
  /-- The number of bytes of our user and host. -/
  userHost : Nat
deriving DecidableEq, Repr

namespace Limits

/-- What is assumed at first. -/
def initial : Limits := ⟨defaultMaxNick, defaultUserHost⟩

/-- Learns how long a nick can be. -/
def setMaxNick (l : Limits) (len : Nat) : Limits := { l with maxNick := max len minMaxNick }

/-- Learns how long our user and host are. -/
def setUserHost (l : Limits) (len : Nat) : Limits := { l with userHost := len }

/-- The room for content in a frame between the given numbers of fixed bytes. -/
def budget (l : Limits) (before after : Nat) : Nat :=
  max minContent (maxLine - before - after - l.userHost - senderOverhead - l.maxNick)

@[simp] theorem maxNick_setMaxNick (l : Limits) (len : Nat) :
    (l.setMaxNick len).maxNick = max len minMaxNick := rfl

@[simp] theorem userHost_setMaxNick (l : Limits) (len : Nat) :
    (l.setMaxNick len).userHost = l.userHost := rfl

@[simp] theorem maxNick_setUserHost (l : Limits) (len : Nat) :
    (l.setUserHost len).maxNick = l.maxNick := rfl

@[simp] theorem userHost_setUserHost (l : Limits) (len : Nat) :
    (l.setUserHost len).userHost = len := rfl

end Limits
end ChatLink
