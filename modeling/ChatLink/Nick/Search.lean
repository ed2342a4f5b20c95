/-
# Finding a free nick

A session wants one nick and may have to live with another while that one is taken.  After each
refusal the search picks the next attempt: the last one with an underscore the first time, if
that fits, and afterwards the wanted nick with a number, cut so that both fit.  Cutting
may give an attempt that was made before; such a number is passed over.
-/
import ChatLink.Text.Number

namespace ChatLink

/-- What to do after a refusal. -/
inductive NickStep where
  /-- Keep the nick in use, and ask for the wanted one again later. -/
  | keep
  /-- Ask for this nick. -/
  | ask (nick : Text)
deriving DecidableEq, Repr

/-- The search of one session for a nick. -/
structure NickSearch where
  /-- The nick of the configuration. -/
  configured : Text
  /-- The same nick, cut to what the network allows. -/
  desired : Text
  /-- The nick in use, or the one that was asked for last. -/
  actual : Text
  /-- The number of the last numbered attempt. -/
  lastNumber : Nat
  /-- The nicks that were refused or in use since the search began. -/
  tried : List Text
deriving DecidableEq, Repr

/-- The longest beginning of a nick that has at most `maxLen` bytes, but one character at
least. -/
def cutNick (nick : Text) (maxLen : Nat) : Text :=
  match nick with
  | [] => []
  | c :: t => c :: Text.takeBytes (maxLen - c.utf8Size) t

namespace NickSearch

/-- The start of a session. -/
def ofNick (nick : Text) : NickSearch := ⟨nick, nick, nick, 0, []⟩

/-- The nick in use is the wanted one. -/
def hasDesired (n : NickSearch) : Bool := Text.sameName n.actual n.desired

/-- Cuts the wanted nick to a length, and leaves the one in use. -/
def fit (n : NickSearch) (maxLen : Nat) : NickSearch :=
  { n with desired := cutNick n.configured maxLen }

/-- The network knows us by this nick, and the search is over. -/
def confirm (n : NickSearch) (nick : Text) : NickSearch :=
  { n with actual := nick, lastNumber := 0, tried := [] }

/-- Starts the search again from the wanted nick, cut to a length. -/
def reset (n : NickSearch) (maxLen : Nat) : NickSearch :=
  let fitted := n.fit maxLen
  fitted.confirm fitted.desired

/-- The wanted nick with a number, cut in front of the number to fit. -/
def numbered (desired : Text) (maxLen k : Nat) : Text :=
  let suffix := Decimal.digits k
  Text.takeBytes (maxLen - suffix.byteLength) desired ++ suffix

/-- A nick that was tried before. -/
def wasTried (tried : List Text) (nick : Text) : Bool :=
  tried.any fun a => Text.sameName a nick

/-- The first number after `k` whose nick was not tried before, with that nick.  The first
argument bounds how many are passed over. -/
def firstFree (tried : List Text) (desired : Text) (maxLen : Nat) : Nat → Nat → Nat × Text
  | 0, k => (k + 1, numbered desired maxLen (k + 1))
  | fuel + 1, k =>
    let candidate := numbered desired maxLen (k + 1)
    if wasTried tried candidate then firstFree tried desired maxLen fuel (k + 1)
    else (k + 1, candidate)

/-- The sum of the lengths of nicks.  A nick ends in at most as many different numbers as it has
characters, so that more numbers than this sum cannot all have been tried. -/
def totalLength (nicks : List Text) : Nat := Text.byteLength nicks.flatten

/-- The network refused a nick.  It knows us as `current`, which is a star before we are
registered. -/
def afterRefusal (n : NickSearch) (current rejected : Text) (maxLen : Nat) :
    NickSearch × NickStep :=
  if Text.sameName current n.actual && Text.sameName rejected n.desired then
    (n, .keep)
  else
    let tried := n.tried ++ [rejected, n.actual]
    let maxLen := max maxLen 1
    if n.lastNumber = 0 ∧ n.actual.byteLength < maxLen then
      let next := n.actual ++ ['_']
      ({ n with actual := next, tried }, .ask next)
    else
      let found := firstFree tried n.desired maxLen (totalLength tried) n.lastNumber
      ({ n with actual := found.2, lastNumber := found.1, tried }, .ask found.2)

/-! ### What each operation leaves -/

@[simp] theorem configured_confirm (n : NickSearch) (nick : Text) :
    (n.confirm nick).configured = n.configured := rfl

@[simp] theorem desired_confirm (n : NickSearch) (nick : Text) :
    (n.confirm nick).desired = n.desired := rfl

@[simp] theorem actual_confirm (n : NickSearch) (nick : Text) :
    (n.confirm nick).actual = nick := rfl

@[simp] theorem actual_fit (n : NickSearch) (maxLen : Nat) : (n.fit maxLen).actual = n.actual := rfl

@[simp] theorem desired_fit (n : NickSearch) (maxLen : Nat) :
    (n.fit maxLen).desired = cutNick n.configured maxLen := rfl

@[simp] theorem desired_reset (n : NickSearch) (maxLen : Nat) :
    (n.reset maxLen).desired = cutNick n.configured maxLen := rfl

@[simp] theorem actual_reset (n : NickSearch) (maxLen : Nat) :
    (n.reset maxLen).actual = cutNick n.configured maxLen := rfl

end NickSearch
end ChatLink
