/-
# Numeric reply codes

A server answers many commands by a number of three digits in place of a named command.  The
file names the codes the bridge acts on, holds the table of all codes that the protocol
defines, and gives each of these the kind of line it makes.
-/
import ChatLink.Message.Kind
import ChatLink.Text.Number

namespace ChatLink

/-- A numeric reply code. -/
structure ReplyCode where
  /-- The number, at most `65535`. -/
  number : Nat
deriving DecidableEq, Repr

namespace ReplyCode

/-- Registration is complete. -/
def welcome : ReplyCode := ⟨1⟩

/-- The features a server supports; the longest nick among them. -/
def features : ReplyCode := ⟨5⟩

/-- The user and host under which other users see a nick. -/
def userHost : ReplyCode := ⟨302⟩

def noSuchChannel : ReplyCode := ⟨403⟩

/-- The network refuses a nick as malformed. -/
def erroneousNick : ReplyCode := ⟨432⟩

def nickInUse : ReplyCode := ⟨433⟩

def nickCollision : ReplyCode := ⟨436⟩

def inviteOnly : ReplyCode := ⟨473⟩

def banned : ReplyCode := ⟨474⟩

def badKey : ReplyCode := ⟨475⟩

/-- The code that a token of three digits writes; no other token is one. -/
def ofToken? : Text → Option ReplyCode
  | [a, b, c] =>
    match Decimal.readFrom 0 [a, b, c] with
    | some n => some ⟨n⟩
    | none => none
  | _ => none

/-- A code in at least three digits. -/
def toText (code : ReplyCode) : Text := Decimal.padded 3 code.number

/-- The codes that the protocol defines, in ascending order. -/
def known : List Nat := [
  1, 2, 3, 4, 5,
  200, 201, 202, 203, 204, 205, 206, 207, 208, 209, 210, 211, 212, 219,
  221, 234, 235, 242, 243,
  250, 251, 252, 253, 254, 255, 256, 257, 258, 259, 261, 262, 263, 265, 266,
  301, 302, 303, 305, 306,
  311, 312, 313, 314, 315, 317, 318, 319,
  321, 322, 323, 324, 325, 331, 332, 333, 341, 342, 346, 347, 348, 349,
  351, 352, 353, 364, 365, 366, 367, 368, 369,
  371, 372, 374, 375, 376, 381, 382, 383, 391, 392, 393, 394, 395,
  401, 402, 403, 404, 405, 406, 407, 408, 409, 411, 412, 413, 414, 415,
  421, 422, 423, 424, 431, 432, 433, 436, 437,
  441, 442, 443, 444, 445, 446, 451,
  461, 462, 463, 464, 465, 466, 467,
  471, 472, 473, 474, 475, 476, 477, 478,
  481, 482, 483, 484, 485, 491, 501, 502]

/-- A code that the protocol defines. -/
def isKnown (code : ReplyCode) : Bool := known.contains code.number

/-- The nick is taken, or two users have come to hold it. -/
def isNickConflict (code : ReplyCode) : Bool :=
  code == nickInUse || code == nickCollision

/-- The channel cannot be joined, now or later: it does not exist, is for invited users only,
has banned us, or needs a key that we lack. -/
def isFatalForChannel (code : ReplyCode) : Bool :=
  code == noSuchChannel || code == inviteOnly || code == banned || code == badKey

/-- The kinds of the defined codes, as ranges of numbers. -/
def kindRanges : List (Nat × Nat × Kind) := [
  (1, 5, .login),
  (250, 255, .info), (265, 266, .info),
  (372, 372, .motd), (375, 376, .motd),
  (353, 353, .name), (366, 366, .name),
  (315, 315, .who), (352, 352, .who),
  (321, 323, .list),
  (367, 368, .banList),
  (331, 333, .topic),
  (311, 313, .whoIs), (317, 319, .whoIs),
  (314, 314, .whoWas), (369, 369, .whoWas),
  (221, 221, .userMode),
  (324, 324, .channelMode),
  (400, 599, .errorReply)]

/-- The kind of a line with this code. -/
def kind (code : ReplyCode) : Kind :=
  if code.isKnown then
    match kindRanges.find? fun (first, last, _) => first ≤ code.number && code.number ≤ last with
    | some (_, _, kind) => kind
    | none => .unknown
  else
    .unknown

end ReplyCode
end ChatLink
