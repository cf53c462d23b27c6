/-
# Message records

A record of every message that the bot receives or sends, for observers outside the
conversation. Besides the text it carries what else is known of the message.
-/

import Dialogue.Callback
import Dialogue.Flow.Basic
import Dialogue.User
import Dialogue.Value.Basic

namespace Dialogue

/-- Who wrote a message. -/
inductive Direction where
  | user
  | bot
deriving DecidableEq, Repr

/-- The name of a direction. -/
def Direction.name : Direction → String
  | .user => "user"
  | .bot => "bot"

/-- The record of a message. -/
structure MessageRecord where
  user : UserId
  direction : Direction
  text : String
  /-- The node that the message shows or belongs to. -/
  node : Option NodeId := none
  data : Value := .null
  photo : Option String := none
  message : Option MessageId := none
deriving DecidableEq

namespace MessageRecord

/-- A message from a user. -/
def incoming (user : UserId) (text : String) (message : MessageId) : MessageRecord :=
  { user, direction := .user, text, message := some message }

/-- A message to a user, before its number is known. -/
def outgoing (user : UserId) (text : String) (node : Option NodeId) : MessageRecord :=
  { user, direction := .bot, text, node }

/-- The fields of the data of a record. -/
def dataFields : Value → List (String × Value)
  | .record fields => fields
  | .null => []
  | other => [("data", other)]

/-- All that is known of a message besides its text and its node. The number and the photo of the
message win over fields of the same name. -/
def metadata (r : MessageRecord) : Value :=
  .ofFields (dataFields r.data ++
    (r.message.map fun id => ("message_id", Value.int id)).toList ++
    (r.photo.map fun id => ("photo_file_id", Value.text id)).toList)

end MessageRecord

end Dialogue
