/-
# Delivering replies

How replies reach a user. After a press of a button the first screen takes the place of
the pressed message, if a text can do so; every other screen is a new message. Buttons are
attached once the number of the message is known. What has been shown is recorded.

A delivery that fails stops there. Failing to edit the pressed message is no failure: the
screen is sent as a new message then.
-/

import Dialogue.MessageRecord
import Dialogue.Messenger

namespace Dialogue

/-- All that a delivery changes. -/
structure Outbox where
  messenger : Messenger
  callbacks : CallbackStore := {}
  /-- The records for observers, in order. -/
  records : List MessageRecord := []

/-- A step of a delivery. What was done before a failure stays done. -/
abbrev Delivery := ExceptT CallError (StateM Outbox)

/-- Where replies go. -/
structure Target where
  chat : ChatId
  user : UserId
  /-- The message whose button was pressed. -/
  origin : Option MessageId := none
  /-- Which paths lead to files that can be sent. -/
  isFile : String → Bool := fun _ => false

namespace Delivery

/-- Make a call. -/
def request (call : Call) : Delivery Receipt := fun o =>
  (o.messenger.result call, { o with messenger := o.messenger.after call })

/-- Record a message that has been shown. -/
def record (r : MessageRecord) (receipt : Receipt) : Delivery Unit :=
  modify fun o =>
    { o with records := o.records ++ [{ r with message := some receipt.message }] }

/-- Send a plain text. -/
def notice (t : Target) (text : String) : Delivery Unit := do
  let receipt ← request (.sendMessage t.chat text none none)
  record (.outgoing t.user text none) receipt

/-- Put buttons on a message. -/
def attach (t : Target) (message : MessageId) (rows : InlineRows) : Delivery Unit := do
  let o ← get
  let (markup, callbacks) := o.callbacks.pack t.chat message rows.markup
  set { o with callbacks }
  discard (request (.editMarkup t.chat message markup))

/-- The call that sends a screen as a new message. -/
def sendCall (t : Target) (s : Screen) : Call :=
  let mode := s.format.parseMode
  let markup := s.keyboard.replyMarkup
  match s.photo with
  | some photo => .sendPhoto t.chat (.of t.isFile photo) s.text mode markup
  | none => .sendMessage t.chat s.text mode markup

/-- Send a screen as a new message. -/
def sendScreen (t : Target) (s : Screen) : Delivery Unit := do
  let receipt ← request (sendCall t s)
  match s.keyboard with
  | .inline rows => attach t receipt.message rows
  | _ => pure ()
  record { MessageRecord.outgoing t.user s.text (some s.node) with photo := receipt.photo } receipt

/-- Put a screen in the place of a message. Only the text can fail: once it is replaced, the screen
is shown, whether or not its buttons can be attached. -/
def editScreen (t : Target) (s : Screen) (message : MessageId) : Delivery Unit := do
  let receipt ← request (.editText t.chat message s.text s.format.parseMode)
  match s.keyboard with
  | .inline rows => tryCatch (attach t message rows) fun _ => pure ()
  | _ => modify fun o => { o with callbacks := o.callbacks.clear t.chat message }
  record (.outgoing t.user s.text (some s.node)) receipt

/-- Whether a screen can take the place of a text message. -/
def isEditable (s : Screen) : Bool :=
  s.photo.isNone &&
    match s.keyboard with
    | .none | .inline _ => true
    | .reply .. | .remove => false

/-- Show a screen, in the place of a message if there is one and it can be edited. -/
def showScreen (t : Target) (s : Screen) (edit : Option MessageId) : Delivery Unit :=
  match edit.filter fun _ => isEditable s with
  | some message => tryCatch (editScreen t s message) fun _ => sendScreen t s
  | none => sendScreen t s

/-- Deliver replies in order. `editable` is the message that the next screen may replace. -/
def deliverFrom (t : Target) : Option MessageId → List Reply → Delivery Unit
  | _, [] => pure ()
  | editable, .screen s :: rest => do
      showScreen t s editable
      deliverFrom t none rest
  | editable, .notice text :: rest => do
      notice t text
      deliverFrom t editable rest
  | editable, .keyboard _ rows :: rest => do
      match t.origin with
      | some message => attach t message rows
      | none => pure ()
      deliverFrom t editable rest

/-- Deliver replies in order. -/
def deliver (t : Target) (replies : List Reply) : Delivery Unit := deliverFrom t t.origin replies

end Delivery

end Dialogue
