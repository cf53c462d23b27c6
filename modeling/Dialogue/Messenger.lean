/-
# The messenger

The service that carries messages between bot and users. A call may be accepted, refused
or lost on the way; which of these happens is a parameter that sees all calls made before.
So is the number that a new message gets. Every call is kept in a log with its result.
-/

import Dialogue.Command.Menu
import Dialogue.Markup

namespace Dialogue

/-- A photo to be sent. -/
inductive Photo where
  | url (url : Url)
  | file (path : String)
  /-- A photo that the messenger has already. -/
  | stored (id : String)
deriving DecidableEq, Repr

/-- What a photo of a flow refers to: an address of the web, a file, or else a photo that the
messenger has. -/
def Photo.of (isFile : String → Bool) (photo : String) : Photo :=
  match (Url.parse? photo).filter fun u => u.scheme = "http" || u.scheme = "https" with
  | some address => .url address
  | none => if isFile photo then .file photo else .stored photo

/-- A call to the messenger. -/
inductive Call where
  | sendMessage (chat : ChatId) (text : String) (mode : Option ParseMode)
      (markup : Option ReplyMarkup)
  | sendPhoto (chat : ChatId) (photo : Photo) (caption : String) (mode : Option ParseMode)
      (markup : Option ReplyMarkup)
  | editText (chat : ChatId) (message : MessageId) (text : String) (mode : Option ParseMode)
  | editMarkup (chat : ChatId) (message : MessageId) (markup : InlineMarkup)
  | answerCallback (query : String)
  | setCommands (commands : List MenuEntry)
deriving DecidableEq, Repr

/-- The number of the message that an accepted call is about, if a new one gets the number
`fresh`. -/
def Call.message (fresh : MessageId) : Call → MessageId
  | .editText _ message _ _ => message
  | .editMarkup _ message _ => message
  | _ => fresh

/-- Whether a call makes a new message. -/
def Call.isNewMessage : Call → Bool
  | .sendMessage .. => true
  | .sendPhoto .. => true
  | _ => false

/-- What the messenger does with a call. -/
inductive CallAnswer where
  /-- It is done; a photo that was sent has an id from now on. -/
  | accepted (photo : Option String)
  | refused (reason : String)
  /-- The messenger cannot be reached. -/
  | unreachable
deriving DecidableEq, Repr

/-- Why a call failed. -/
inductive CallError where
  | refused (reason : String)
  | unreachable
deriving DecidableEq, Repr

/-- The wording of an error, where it has one. -/
def CallError.message? : CallError → Option String
  | .refused reason => some ("Unknown error: " ++ Value.quoted reason)
  | .unreachable => none

/-- What an accepted call gives back. -/
structure Receipt where
  message : MessageId
  photo : Option String := none
deriving DecidableEq, Repr

/-- A call and its result. -/
structure CallEntry where
  call : Call
  result : Except CallError Receipt

/-- Whether a new message came of a call. -/
def CallEntry.isNewMessage (e : CallEntry) : Bool := e.call.isNewMessage && e.result.isOk

/-- New messages are numbered one after another, from 1001 on. -/
def nextNumber (log : List CallEntry) : MessageId := 1001 + log.countP (·.isNewMessage)

/-- The messenger as a bot meets it. -/
structure Messenger where
  /-- What happens to a call after the calls of a log. -/
  answer : List CallEntry → Call → CallAnswer
  /-- The number of a message that a call makes after the calls of a log. -/
  number : List CallEntry → Call → MessageId := fun log _ => nextNumber log
  log : List CallEntry := []

namespace Messenger

/-- The result of a call. -/
def result (m : Messenger) (call : Call) : Except CallError Receipt :=
  match m.answer m.log call with
  | .accepted photo => .ok { message := call.message (m.number m.log call), photo }
  | .refused reason => .error (.refused reason)
  | .unreachable => .error .unreachable

/-- The messenger after a call. -/
def after (m : Messenger) (call : Call) : Messenger :=
  { m with log := m.log ++ [⟨call, m.result call⟩] }

end Messenger

end Dialogue
