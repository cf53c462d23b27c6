/-
# The bot

What happens to an update from the messenger: a message or a press is recorded, turned
into an event of the conversation, and the replies are delivered. Commands about the bot
itself are answered at once.
-/

import Dialogue.Command.Routing
import Dialogue.Delivery

namespace Dialogue

/-- A message from a user. Either may be missing: not every message has a text or a sender. -/
structure IncomingMessage where
  chat : ChatId
  id : MessageId
  sender : Option User
  text : Option String

/-- A press of an inline button. -/
structure IncomingPress where
  query : String
  sender : User
  data : Option String
  /-- The chat and the number of the message, if it can still be reached. -/
  message : Option (ChatId × MessageId)

/-- A user as conversations know them: an empty first name is none. -/
def User.known (u : User) : User := { u with firstName := u.firstName.filter (!·.isEmpty) }

/-- How an update ended. -/
inductive Handled where
  | done
  | failed (e : CallError)
  | crashed
deriving DecidableEq, Repr

/-- A bot with all it knows. -/
structure Bot (σ : Type) where
  flow : Flow
  name : String
  conversation : Conversation σ
  outbox : Outbox
  isFile : String → Bool := fun _ => false

/-- What a user is told about an error of the flow. -/
def FlowError.notice : FlowError → String
  | .autoAdvanceLimit .. => "❌ Сценарий зациклился. Попробуйте /start."
  | _ => "❌ Что-то пошло не так. Попробуйте /start."

namespace Bot

variable {σ : Type} [ProfileStore σ]

/-- Record a message. -/
def record (b : Bot σ) (r : MessageRecord) : Bot σ :=
  { b with outbox := { b.outbox with records := b.outbox.records ++ [r] } }

/-- Carry out a delivery. -/
def carryOut (b : Bot σ) (d : Delivery Unit) : Handled × Bot σ :=
  let (result, outbox) := d.run b.outbox
  let handled := match result with
    | .ok () => .done
    | .error e => .failed e
  (handled, { b with outbox })

/-- Let the conversation handle an event, and deliver what comes of it. -/
def converse (b : Bot σ) (now : Time) (t : Target) (e : Event) : Handled × Bot σ :=
  let (outcome, conversation) := b.conversation.handle b.flow now e
  let b := { b with conversation }
  match outcome with
  | .replies replies => b.carryOut (.deliver t replies)
  | .failed error => b.carryOut (.notice t error.notice)
  | .crashed => (.crashed, b)

/-- Do what a command asks for. -/
def obey (b : Bot σ) (now : Time) (t : Target) (user : User) (r : CommandRequest) :
    Handled × Bot σ :=
  match r with
  | .handle trigger => b.converse now t ⟨user, trigger⟩
  | .help => b.carryOut (.notice t b.flow.help)
  | .profile =>
      let (lines, conversation) := b.conversation.profileLines user.id
      { b with conversation }.carryOut (.notice t (profileText lines))
  | .noSettings => b.carryOut (.notice t noSettingsText)
  | .ignore => (.done, b)

/-- What a text asks for. Only one that begins with a slash can be a command. -/
def request (b : Bot σ) (text : String) : CommandRequest :=
  let command := if text.toList.head? = some '/' then b.flow.route? b.name text else none
  command.getD (.handle (.say text))

/-- Handle a message. -/
def handleMessage (b : Bot σ) (now : Time) (m : IncomingMessage) : Handled × Bot σ :=
  match m.text, m.sender with
  | some text, some sender =>
      let user := sender.known
      let b := b.record (.incoming user.id text m.id)
      let t : Target := { chat := m.chat, user := user.id, isFile := b.isFile }
      b.obey now t user (b.request text)
  | _, _ => (.done, b)

/-- Handle a press after it has been acknowledged. -/
def handleAction (b : Bot σ) (now : Time) (sender : User) (data : String) (chat : ChatId)
    (message : MessageId) : Handled × Bot σ :=
  let payload := b.outbox.callbacks.unpack data
  match Action.parse? payload with
  | none => (.done, b)
  | some action =>
      let user := sender.known
      let b := b.record { MessageRecord.incoming user.id payload message with
        node := some action.node
        data := .ofFields [("callback", .text payload)] }
      let t : Target := { chat, user := user.id, origin := some message, isFile := b.isFile }
      b.converse now t ⟨user, .act action⟩

/-- Handle a press. It is acknowledged first, whatever it asks for. -/
def handlePress (b : Bot σ) (now : Time) (p : IncomingPress) : Handled × Bot σ :=
  match b.carryOut (discard (Delivery.request (.answerCallback p.query))) with
  | (.done, b) =>
      match p.data, p.message with
      | some data, some (chat, message) => b.handleAction now p.sender data chat message
      | _, _ => (.done, b)
  | failed => failed

/-- Publish the menu. A failure only costs the menu. -/
def register (b : Bot σ) : Handled × Bot σ :=
  let (_, b) := b.carryOut (discard (Delivery.request (.setCommands b.flow.menu)))
  (.done, b)

end Bot

end Dialogue
