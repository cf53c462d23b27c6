/-
# Callback data

The messenger gives back a short text when an inline button is pressed, and takes no more
than 64 bytes of ASCII for it. A payload that fits travels on the button itself. Any other
stays in a store, and the button carries a reference to it: the chat, the message and the
position of the button. The payloads of a message are forgotten when it gets new buttons.
-/

import Dialogue.Number.Integer
import Dialogue.Text.Split
import Dialogue.Url.Basic

namespace Dialogue

/-- The number of a chat. -/
abbrev ChatId := Int

/-- The number of a message in its chat. -/
abbrev MessageId := Int

/-- An inline button with the text that a press gives back, or with the URL it opens. -/
inductive InlineButton where
  | callback (label data : String)
  | link (label : String) (url : Url)
deriving DecidableEq, Repr

/-- The rows of an inline keyboard as the messenger takes them. -/
abbrev InlineMarkup := List (List InlineButton)

/-- The most bytes of callback data. -/
def callbackLimit : Nat := 64

/-- Whether a payload can travel on a button. -/
def fitsCallback (data : String) : Bool :=
  data.utf8ByteSize ≤ callbackLimit && data.toList.all fun c => c.toNat < 0x80

/-- The place of a payload that does not fit. -/
structure CallbackKey where
  chat : ChatId
  message : MessageId
  /-- The number of the button among those of its message that are no links. -/
  position : Nat
deriving DecidableEq, Repr

namespace CallbackKey

/-- What a reference begins with. -/
def mark : List Char := ['c', 'b']

/-- The reference to a place. -/
def text (k : CallbackKey) : String := s!"cb:{k.chat}:{k.message}:{k.position}"

/-- The place of a reference. -/
def parse? (s : String) : Option CallbackKey :=
  match Text.splitAll (· = ':') s.toList with
  | [first, chat, message, position] =>
      if first = mark then do
        return {
          chat := ← Number.readSigned? Number.signed64 chat
          message := ← Number.readSigned? Number.signed32 message
          position := ← Number.readUnsigned? Number.unsigned64 position }
      else none
  | _ => none

end CallbackKey

/-- The payloads that do not fit, by their places. -/
structure CallbackStore where
  entries : List (CallbackKey × String) := []
deriving DecidableEq, Repr

namespace CallbackStore

/-- The payload of a place. -/
def get? (s : CallbackStore) (key : CallbackKey) : Option String := s.entries.lookup key

/-- Keep a payload. -/
def insert (s : CallbackStore) (key : CallbackKey) (data : String) : CallbackStore :=
  ⟨(key, data) :: s.entries.filter fun e => e.1 ≠ key⟩

/-- Forget the payloads of a message. -/
def clear (s : CallbackStore) (chat : ChatId) (message : MessageId) : CallbackStore :=
  ⟨s.entries.filter fun e => e.1.chat ≠ chat || e.1.message ≠ message⟩

/-- A look-up among the entries whose places pass a test. -/
theorem lookup_filter (p : CallbackKey → Bool) (key : CallbackKey)
    (entries : List (CallbackKey × String)) :
    (entries.filter fun e => p e.1).lookup key = if p key then entries.lookup key else none := by
  induction entries with
  | nil => simp
  | cons e es ih =>
    obtain ⟨place, data⟩ := e
    by_cases here : key = place
    · subst here
      cases hp : p key <;> simp [hp, ih]
    · have apart : (key == place) = false := by simp [here]
      cases hp : p place <;> simp [hp, ih, List.lookup_cons, apart]

/-- Keeping a payload changes exactly one look-up. -/
theorem get?_insert (s : CallbackStore) (key other : CallbackKey) (data : String) :
    (s.insert key data).get? other = if other = key then some data else s.get? other := by
  by_cases here : other = key
  · simp [get?, insert, here]
  · have apart : (other == key) = false := by simp [here]
    simp only [get?, insert, List.lookup_cons, apart, if_neg here]
    rw [lookup_filter fun k => decide (k ≠ key)]
    simp [here]

/-- Clearing a message takes its own payloads and no others. -/
theorem get?_clear (s : CallbackStore) (chat : ChatId) (message : MessageId) (key : CallbackKey) :
    (s.clear chat message).get? key =
      if key.chat = chat ∧ key.message = message then none else s.get? key := by
  simp only [get?, clear]
  rw [lookup_filter fun k => decide (k.chat ≠ chat) || decide (k.message ≠ message)]
  by_cases hc : key.chat = chat <;> by_cases hm : key.message = message <;> simp [hc, hm]

/-- The payload of a reference. -/
def resolve? (s : CallbackStore) (reference : String) : Option String :=
  (CallbackKey.parse? reference).bind s.get?

/-- The payload that comes with a press. What is no known reference is a payload itself. -/
def unpack (s : CallbackStore) (data : String) : String :=
  if data.toList.take 2 = CallbackKey.mark then (s.resolve? data).getD data else data

/-- Put payloads on buttons, from a position on. -/
def packButtons (chat : ChatId) (message : MessageId) :
    List InlineButton → Nat → CallbackStore → List InlineButton × Nat × CallbackStore
  | [], position, s => ([], position, s)
  | .link label url :: rest, position, s =>
      let (buttons, result) := packButtons chat message rest position s
      (.link label url :: buttons, result)
  | .callback label data :: rest, position, s =>
      if fitsCallback data then
        let (buttons, result) := packButtons chat message rest (position + 1) s
        (.callback label data :: buttons, result)
      else
        let key : CallbackKey := ⟨chat, message, position⟩
        let (buttons, result) := packButtons chat message rest (position + 1) (s.insert key data)
        (.callback label key.text :: buttons, result)

/-- Put payloads on rows of buttons, from a position on. -/
def packRows (chat : ChatId) (message : MessageId) :
    InlineMarkup → Nat → CallbackStore → InlineMarkup × CallbackStore
  | [], _, s => ([], s)
  | row :: rows, position, s =>
      let (buttons, position, s) := packButtons chat message row position s
      let (packed, s) := packRows chat message rows position s
      (buttons :: packed, s)

/-- The buttons of a message as the messenger takes them. What was kept for the message before is
forgotten. -/
def pack (s : CallbackStore) (chat : ChatId) (message : MessageId) (rows : InlineMarkup) :
    InlineMarkup × CallbackStore :=
  packRows chat message rows 0 (s.clear chat message)

end CallbackStore

end Dialogue
