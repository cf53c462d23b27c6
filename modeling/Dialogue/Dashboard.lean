/-
# The dashboard

An observer that reports messages to a dashboard over the web: each message is posted to
the project, and a photo is registered after that. What the other side answers, if it can
be reached, is a parameter.
-/

import Dialogue.MessageRecord
import Dialogue.Url.Basic

namespace Dialogue

/-- A posted report. -/
structure Post where
  url : String
  body : Value
deriving DecidableEq

/-- What comes back for a post. -/
inductive PostAnswer where
  | status (code : Nat) (body : String)
  /-- Nothing, since the other side cannot be reached. -/
  | unreachable
deriving DecidableEq, Repr

/-- Why a report failed. -/
inductive PostError where
  | badUrl
  | unreachable (url : Url)
  | status (url : String) (code : Nat) (body : String)
deriving DecidableEq, Repr

/-- The wording of an error. -/
def PostError.message : PostError → String
  | .badUrl => "builder error"
  | .unreachable url => s!"error sending request for url ({url.text})"
  | .status url code body => s!"{url} returned HTTP {code}: {body}"

/-- A project of a dashboard. -/
structure Dashboard where
  /-- The address, without slashes at its end. -/
  base : String
  project : String
deriving DecidableEq, Repr

namespace Dashboard

/-- What the observer calls itself. -/
def name : String := "api"

/-- How posts are signed. -/
def userAgent : String := "flowbot/0.1.0"

/-- The dashboard at an address. -/
def ofAddress (address project : String) : Dashboard where
  base := String.ofList (address.toList.reverse.dropWhile (· = '/')).reverse
  project := project

/-- An address of the project. -/
def projectUrl (d : Dashboard) (rest : String) : String :=
  s!"{d.base}/api/projects/{d.project}/{rest}"

/-- An optional text. -/
def textOrNull : Option String → Value
  | some s => .text s
  | none => .null

/-- The report of a message. -/
def messagePost (d : Dashboard) (r : MessageRecord) : Post where
  url := d.projectUrl "messages"
  body := .ofFields [("userId", .text (toString r.user)), ("messageType", .text r.direction.name),
    ("messageText", .text r.text), ("messageData", r.metadata), ("nodeId", textOrNull r.node)]

/-- The report of a photo. -/
def photoPost (d : Dashboard) (r : MessageRecord) (photo : String) : Post where
  url := d.projectUrl "media/register-telegram-photo"
  body := .ofFields [("fileId", .text photo), ("userId", .text (toString r.user)),
    ("nodeId", textOrNull r.node)]

/-- The reports of a record, in order. -/
def posts (d : Dashboard) (r : MessageRecord) : List Post :=
  d.messagePost r :: (r.photo.map (d.photoPost r)).toList

/-- Whether a status means success. -/
def isSuccess (code : Nat) : Bool := 200 ≤ code && code ≤ 299

/-- What an answer to a post means. An error names the URL without the user, who is named in the
post itself. -/
def judge (p : Post) (answer : PostAnswer) : Except PostError Unit :=
  match Url.parse? p.url, answer with
  | none, _ => .error .badUrl
  | some url, .unreachable => .error (.unreachable url.withoutUser)
  | some _, .status code body =>
      if isSuccess code then .ok () else .error (.status p.url code body)

/-- Make posts one after the other until one fails. `answers` gives the answer to the post of each
number. The posts that arrived are listed. -/
def postAll (answers : Nat → PostAnswer) : Nat → List Post → List Post × Except PostError Unit
  | _, [] => ([], .ok ())
  | number, p :: rest =>
      let answer := answers number
      let arrived := if (Url.parse? p.url).isSome && answer != .unreachable then [p] else []
      match judge p answer with
      | .error e => (arrived, .error e)
      | .ok () =>
          let (later, result) := postAll answers (number + 1) rest
          (arrived ++ later, result)

/-- Report a record. -/
def observe (d : Dashboard) (answers : Nat → PostAnswer) (r : MessageRecord) :
    List Post × Except PostError Unit :=
  postAll answers 0 (d.posts r)

end Dashboard

end Dialogue
