/-
# Markup

Screens in the terms of the messenger: how it is to read the text, and which keyboard goes
on the message. Inline keyboards are attached after a message has been sent, since their
references need its number. A link that is no URL is dropped, and so is a row without
buttons.
-/

import Dialogue.Callback
import Dialogue.Screen

namespace Dialogue

/-- How the messenger is to read a text. -/
inductive ParseMode where
  | html
  | markdownV2
deriving DecidableEq, Repr

/-- The messenger's name of a mode. -/
def ParseMode.name : ParseMode → String
  | .html => "HTML"
  | .markdownV2 => "MarkdownV2"

/-- The mode of a format. Plain text needs none. -/
def TextFormat.parseMode : TextFormat → Option ParseMode
  | .plain => none
  | .html => some .html
  | .markdownV2 => some .markdownV2

/-- A keyboard that goes on a message while it is sent. -/
inductive ReplyMarkup where
  | keyboard (rows : List (List String)) (oneTime resize : Bool)
  | remove
deriving DecidableEq, Repr

/-- An inline button in the terms of the messenger. -/
def ScreenButton.inlineButton? (b : ScreenButton) : Option InlineButton :=
  match b.effect with
  | .act action => some (.callback b.text action.text)
  | .visit url => (Url.parse? url).map (.link b.text)

/-- Inline rows in the terms of the messenger, the payloads whole. -/
def InlineRows.markup (rows : InlineRows) : InlineMarkup :=
  (rows.map fun row => row.filterMap ScreenButton.inlineButton?).filter (!·.isEmpty)

/-- The keyboard that goes on the message of a screen. -/
def ScreenKeyboard.replyMarkup : ScreenKeyboard → Option ReplyMarkup
  | .none | .inline _ => Option.none
  | .reply rows oneTime resize => some (.keyboard rows oneTime resize)
  | .remove => some .remove

end Dialogue
