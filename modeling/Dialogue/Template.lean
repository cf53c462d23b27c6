/-
# Templates

A text may hold placeholders: a name in braces. Substitution replaces each by the
value of the name in one pass, so that a value which looks like a placeholder stays
as it is. A name without a value stands for itself. What is inserted is escaped for
the format of the text; the text around it is not.
-/

import Dialogue.Flow.Basic
import Dialogue.Table
import Dialogue.User
import Dialogue.Value.Basic

namespace Dialogue

/-- The values of names in a template. -/
abbrev Variables := Table String String

namespace Template

/-- A character that may begin a name. -/
def isNameStart (c : Char) : Bool := c.isAlpha || c = '_'

/-- A character that may continue a name. -/
def isNamePart (c : Char) : Bool := c.isAlphanum || c = '_'

/-- A part of a template: a character of its own, or a placeholder. -/
inductive Piece where
  | literal (c : Char)
  | placeholder (name : List Char)
deriving DecidableEq, Repr

/-- The name that stands before the closing brace, if the text begins with one. -/
def name? (cs : List Char) : Option (List Char) :=
  match cs.takeWhile isNamePart, cs.dropWhile isNamePart with
  | c :: name, '}' :: _ => if isNameStart c then some (c :: name) else none
  | _, _ => none

/-- The parts of a template, after leaving out as many characters as the first argument says.
Those are the ones of a placeholder already taken. -/
def piecesFrom : Nat → List Char → List Piece
  | _, [] => []
  | skipped + 1, _ :: cs => piecesFrom skipped cs
  | 0, c :: cs =>
      if c = '{' then
        match name? cs with
        | some name => .placeholder name :: piecesFrom (name.length + 1) cs
        | none => .literal c :: piecesFrom 0 cs
      else .literal c :: piecesFrom 0 cs

/-- The parts of a template. -/
def pieces (cs : List Char) : List Piece := piecesFrom 0 cs

/-- The characters that have a meaning in the second dialect of Markdown. -/
def markdownSpecials : List Char :=
  ['\\', '_', '*', '[', ']', '(', ')', '~', '`', '>', '#', '+', '-', '=', '|', '{', '}', '.', '!']

/-- A character of a value, as it has to be written in a text of some format. -/
def escapeChar : TextFormat → Char → List Char
  | .plain, c => [c]
  | .html, '&' => "&amp;".toList
  | .html, '<' => "&lt;".toList
  | .html, '>' => "&gt;".toList
  | .html, c => [c]
  | .markdownV2, c => if c ∈ markdownSpecials then ['\\', c] else [c]

/-- A value as it has to be written in a text of some format. -/
def escape (format : TextFormat) (cs : List Char) : List Char := cs.flatMap (escapeChar format)

/-- The value of a name; without one, the name itself. -/
def valueOf (vars : Variables) (name : List Char) : List Char :=
  match vars.get? (String.ofList name) with
  | some value => value.toList
  | none => name

/-- What a part of a template becomes. -/
def fill (format : TextFormat) (vars : Variables) : Piece → List Char
  | .literal c => [c]
  | .placeholder name => escape format (valueOf vars name)

/-- A template with all placeholders replaced, as characters. -/
def fillAll (format : TextFormat) (vars : Variables) (cs : List Char) : List Char :=
  (pieces cs).flatMap (fill format vars)

/-- A template with all placeholders replaced, the values escaped for the format. -/
def substitute (format : TextFormat) (vars : Variables) (text : String) : String :=
  String.ofList (fillAll format vars text.toList)

end Template

namespace User

/-- What the user is called: the first name unless it is missing or empty. -/
def callName (u : User) (otherwise : String) : String :=
  let name := u.firstName.getD ""
  if name.isEmpty then otherwise else name

/-- The names that every user has a value for. -/
def identity (u : User) (otherwise : String) : List (String × String) :=
  [("user_name", u.callName otherwise), ("first_name", u.firstName.getD ""),
    ("last_name", u.lastName.getD ""), ("username", u.username.getD ""),
    ("user_id", toString u.id)]

/-- The values of names for a user: the stored answers, and the identity of the user where no
answer has taken the name. -/
def vars (u : User) (answers : Table String Value) (otherwise : String) : Variables :=
  (u.identity otherwise).foldl
    (fun vars (name, value) => if vars.contains name then vars else vars.insert name value)
    (answers.map Value.display)

end User

end Dialogue
