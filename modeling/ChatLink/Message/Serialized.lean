/-
# Serialised messages

Reading a message back from the JSON value under which it was kept.
-/
import ChatLink.Json.Value
import ChatLink.Message.Basic

namespace ChatLink

/-- The kind that a value names: a string, or an object whose only key is that name. -/
def Kind.ofJson? : Json → Option Kind
  | .string t => t.bind fun t => Kind.ofName? (String.ofList t)
  | .object [(some key, .null)] => Kind.ofName? (String.ofList key)
  | _ => none

/-- The numeric code that a value gives. -/
def ReplyCode.ofJson? (v : Json) : Option ReplyCode := (v.natural? 65535).map .mk

namespace Message

/-- The names of the fields in order. -/
def fieldNames : List Text := [
  "kind", "reply_code", "from", "nick", "ident",
  "host", "channel", "text", "raw"]

/-- A list gives every field; in an object those that a message may lack can be left out. -/
def isComplete : Json → Bool
  | .array items => items.length == fieldNames.length
  | _ => true

/-- The message that a value keeps. -/
def ofJson? (v : Json) : Option Message := do
  let [kind, replyCode, sender, nick, ident, host, channel, text, line] ← v.fields? fieldNames
    | none
  if !isComplete v then none
  let kind ← kind.bind Kind.ofJson?
  let replyCode ← replyCode.elim (some none) (Json.orNull? ReplyCode.ofJson?)
  let sender ← sender.bind Json.text?
  let nick ← nick.elim (some none) (Json.orNull? Json.text?)
  let ident ← ident.elim (some none) (Json.orNull? Json.text?)
  let host ← host.elim (some none) (Json.orNull? Json.text?)
  let channel ← channel.elim (some none) (Json.orNull? Json.text?)
  let text ← text.elim (some none) (Json.orNull? Json.text?)
  let line ← line.bind Json.text?
  some { kind, replyCode, sender, nick, ident, host, channel, text, line }

end Message
end ChatLink
