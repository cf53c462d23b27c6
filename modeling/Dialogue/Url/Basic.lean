/-
# URLs

A URL is read into its parts and written back from them, so that two spellings of one URL
are written alike: schemes and hosts in lower case, default ports left out, dots in paths
resolved, and characters that may not stand somewhere escaped. The special schemes, those
of the web and of files, always have an authority and a path.
-/

import Dialogue.Number.Integer
import Dialogue.Url.Host

namespace Dialogue

namespace Url

/-- The kinds of schemes that are read differently. -/
inductive SchemeKind where
  | file
  /-- A scheme of the web. -/
  | special
  | other
deriving DecidableEq, Repr

/-- The special schemes that are not for files, with their default ports. -/
def defaultPorts : List (String × Nat) :=
  [("http", 80), ("https", 443), ("ws", 80), ("wss", 443), ("ftp", 21)]

/-- The default port of a scheme. -/
def defaultPort? (scheme : String) : Option Nat := defaultPorts.lookup scheme

/-- The kind of a scheme. -/
def SchemeKind.of (scheme : String) : SchemeKind :=
  if scheme = "file" then .file else if (defaultPort? scheme).isSome then .special else .other

/-- Whether a kind is one of the special ones. -/
def SchemeKind.isSpecial (kind : SchemeKind) : Bool := kind != .other

/-- Who is asked: perhaps a user, a host, and perhaps a port. -/
structure Authority where
  /-- The user and the password, escaped. -/
  userInfo : List Char := []
  host : Host
  port : Option Nat := none
deriving DecidableEq, Repr

/-- The path of a URL. -/
inductive Path where
  /-- A text without structure. -/
  | flat (text : List Char)
  /-- Segments, each after a slash. -/
  | rooted (segments : List (List Char))
deriving DecidableEq, Repr

/-- A path as text. -/
def Path.text : Path → List Char
  | .flat text => text
  | .rooted segments => segments.flatMap ('/' :: ·)

end Url

/-- A URL in its parts. -/
structure Url where
  scheme : String
  authority : Option Url.Authority
  path : Url.Path
  query : Option (List Char) := none
  fragment : Option (List Char) := none
deriving DecidableEq, Repr

namespace Url

open Text (splitAll)

/-- A URL that names no user. -/
def withoutUser (u : Url) : Url :=
  { u with authority := u.authority.map fun a => { a with userInfo := [] } }

section Writing

/-- An authority as text. -/
def Authority.text (a : Authority) : List Char :=
  (if a.userInfo.isEmpty then [] else a.userInfo ++ ['@']) ++ a.host.text ++
    match a.port with
    | some port => ':' :: Nat.toDigits 10 port
    | none => []

/-- What keeps a path that begins with two slashes from being taken for an authority. -/
def guard (u : Url) : List Char :=
  match u.authority, u.path with
  | none, .rooted ([] :: _ :: _) => ['/', '.']
  | _, _ => []

/-- A part with the character that introduces it. -/
def introduced (c : Char) : Option (List Char) → List Char
  | some part => c :: part
  | none => []

/-- A URL as text. -/
def text (u : Url) : String :=
  u.scheme ++ ":" ++ String.ofList (
    (match u.authority with
      | some a => '/' :: '/' :: a.text
      | none => u.guard) ++
    u.path.text ++ introduced '?' u.query ++ introduced '#' u.fragment)

end Writing

section Reading

/-- A text without controls and blanks at its ends, and without tabs and line ends. -/
def clean (cs : List Char) : List Char :=
  let drop (cs : List Char) := cs.dropWhile fun c => c.toNat ≤ 0x20
  ((drop (drop cs).reverse).reverse).filter fun c => c != '\t' && c != '\n' && c != '\r'

/-- The scheme in front of a text, in lower case. -/
def scheme? (cs : List Char) : Option (String × List Char) :=
  let isPart (c : Char) : Bool := c.isAlphanum || c = '+' || c = '-' || c = '.'
  match cs.takeWhile isPart, cs.dropWhile isPart with
  | c :: name, ':' :: rest =>
      if c.isAlpha then some (String.ofList ((c :: name).map Char.toLower), rest) else none
  | _, _ => none

/-- Whether a character divides the segments of a path. -/
def isSlash (kind : SchemeKind) (c : Char) : Bool := c = '/' || (kind.isSpecial && c = '\\')

/-- Whether a character ends the path. -/
def endsPath (c : Char) : Bool := c = '?' || c = '#'

/-- Whether a segment stands for the one before the last. -/
def isDoubleDot (segment : List Char) : Bool :=
  String.ofList (segment.map Char.toLower) ∈ ["..", ".%2e", "%2e.", "%2e%2e"]

/-- Whether a segment stands for the last one. -/
def isSingleDot (segment : List Char) : Bool :=
  String.ofList (segment.map Char.toLower) ∈ [".", "%2e"]

/-- Whether a segment names a drive. -/
def isDrive : List Char → Bool
  | [c, d] => c.isAlpha && (d = ':' || d = '|')
  | _ => false

/-- Whether a segment begins with the name of a drive. A backslash divides nothing where it is part
of a segment, and still ends the name. -/
def beginsWithDrive (segment : List Char) : Bool := isDrive (segment.takeWhile (· ≠ '\\'))

/-- A path without its last segment. A drive stays. -/
def shorten (path : List (List Char)) : List (List Char) :=
  if path.getLast?.any beginsWithDrive then path else path.dropLast

/-- A segment as it is kept. The drive that a file is on has a colon. -/
def keepSegment (kind : SchemeKind) (path : List (List Char)) (segment : List Char) : List Char :=
  match segment with
  | [c, '|'] =>
      if kind = .file && path.isEmpty && c.isAlpha then [c, ':'] else escape inPath segment
  | _ => escape inPath segment

/-- Add segments to a path and resolve the dots. -/
def resolve (kind : SchemeKind) : List (List Char) → List (List Char) → List (List Char)
  | path, [] => path
  | path, segment :: rest =>
      let last := rest.isEmpty
      if isDoubleDot segment then
        let path := shorten path
        resolve kind (if last then path ++ [[]] else path) rest
      else if isSingleDot segment then resolve kind (if last then path ++ [[]] else path) rest
      else resolve kind (path ++ [keepSegment kind path segment]) rest

/-- The segments of a text. -/
def segmentsOf (kind : SchemeKind) (cs : List Char) : List (List Char) :=
  resolve kind [] (splitAll (isSlash kind) cs)

/-- The path of a URL that has an authority. -/
def pathAfterAuthority (kind : SchemeKind) (cs : List Char) : Path :=
  match cs with
  | [] => .rooted (if kind.isSpecial then [[]] else [])
  | c :: rest => .rooted (segmentsOf kind (if isSlash kind c then rest else c :: rest))

/-- The parts before and after the last sign that ends the user of an authority. -/
def splitUser (cs : List Char) : Option (List Char) × List Char :=
  match cs.reverse.dropWhile (· ≠ '@') with
  | _ :: user => (some user.reverse, (cs.reverse.takeWhile (· ≠ '@')).reverse)
  | [] => (none, cs)

/-- The user and the password, escaped. An empty password is left out with its colon. -/
def userInfoOf (cs : List Char) : List Char :=
  let name := escape inUserInfo (cs.takeWhile (· ≠ ':'))
  match (cs.dropWhile (· ≠ ':')).tail with
  | [] => name
  | password => name ++ ':' :: escape inUserInfo password

/-- The host of an authority and what follows it. A colon inside brackets is part of the host. -/
def splitHost : Bool → List Char → List Char × List Char
  | _, [] => ([], [])
  | inside, c :: cs =>
      if c = ':' && !inside then ([], c :: cs)
      else
        let (host, rest) :=
          splitHost (if c = '[' then true else if c = ']' then false else inside) cs
        (c :: host, rest)

/-- The port after a colon. The default port of the scheme is left out. -/
def port? (scheme : String) (cs : List Char) : Option (Option Nat) :=
  if cs.isEmpty then some none
  else if cs.all Char.isDigit then
    let port := Nat.ofDigitChars 10 cs 0
    if 65535 < port then none
    else some (if defaultPort? scheme = some port then none else some port)
  else none

/-- The authority of a URL, and what the path begins with if the port ended early. `more` says
whether anything follows the authority. -/
def authority? (scheme : String) (kind : SchemeKind) (more : Bool) (cs : List Char) :
    Option (Authority × List Char) := do
  let (user, place) := splitUser cs
  let userInfo := (user.map userInfoOf).getD []
  let (name, afterHost) := splitHost false place
  let host ← if kind.isSpecial then Host.parse? name else Host.parsePlain? name
  let (portText, rest) := match afterHost with
    | [] => ([], [])
    | _ :: digits => (digits.takeWhile (· ≠ '\\'), digits.dropWhile (· ≠ '\\'))
  let port ← port? scheme portText
  if name.isEmpty && (!afterHost.isEmpty || !userInfo.isEmpty || (user = some [] && more)) then none
  else return ({ userInfo, host, port }, rest)

/-- The query and the fragment, from the sign that introduces the first of them. -/
def queryAndFragment (kind : SchemeKind) (cs : List Char) :
    Option (List Char) × Option (List Char) :=
  let fragment (cs : List Char) : Option (List Char) :=
    match cs with
    | [] => none
    | _ :: rest => some (escape inFragment rest)
  match cs with
  | '?' :: rest =>
      let set := if kind.isSpecial then inSpecialQuery else inQuery
      (some (escape set (rest.takeWhile (· ≠ '#'))), fragment (rest.dropWhile (· ≠ '#')))
  | _ => (none, fragment cs)

/-- The authority and the path of a URL after its two slashes. -/
def afterSlashes? (scheme : String) (kind : SchemeKind) (more : Bool) (cs : List Char) :
    Option (Authority × Path) := do
  let path := cs.dropWhile (!isSlash kind ·)
  let (authority, rest) ←
    authority? scheme kind (more || !path.isEmpty) (cs.takeWhile (!isSlash kind ·))
  return (authority, pathAfterAuthority kind (rest ++ path))

/-- The path of a file: empty segments in front are left out. -/
def filePath (segments : List (List Char)) : Path :=
  match segments.dropWhile List.isEmpty with
  | [] => .rooted [[]]
  | kept => .rooted kept

/-- The host that a name stands for in the URL of a file, unless it is the own host. -/
def fileHost? (name : List Char) : Option (Option Host) :=
  if name.isEmpty then some none
  else
    (Host.parse? name).map fun host =>
      if host = .domain "localhost".toList then none else some host

/-- The authority and the path of a file. A drive is on the own host, which is left out. Where no
host is left, the slash after it counts as part of the path, so that an empty segment stands in
front. -/
def file? (cs : List Char) : Option (Authority × Path) :=
  let here : Authority := { host := .domain [] }
  match cs with
  | c :: rest =>
      if !isSlash .file c then some (here, filePath (segmentsOf .file cs))
      else match rest with
        | d :: rest =>
            if !isSlash .file d then some (here, filePath (segmentsOf .file (d :: rest)))
            else
              let name := rest.takeWhile (!isSlash .file ·)
              if isDrive name then some (here, filePath (segmentsOf .file rest))
              else
                let after := rest.dropWhile (!isSlash .file ·)
                (fileHost? name).map fun
                  | none => (here, filePath (segmentsOf .file after))
                  | some host =>
                      let segments := segmentsOf .file after.tail
                      (if segments.head?.any isDrive then here else { host }, filePath segments)
        | [] => some (here, filePath [])
  | [] => some (here, filePath [])

/-- The authority and the path of a URL from what follows the scheme. `more` says whether a query
or a fragment follows. -/
def body? (scheme : String) (kind : SchemeKind) (more : Bool) (cs : List Char) :
    Option (Option Authority × Path) :=
  match kind, cs with
  | .file, _ => (file? cs).map fun (a, p) => (some a, p)
  | .special, _ =>
      (afterSlashes? scheme kind more (cs.dropWhile (isSlash kind))).map fun (a, p) => (some a, p)
  | .other, '/' :: '/' :: rest =>
      (afterSlashes? scheme kind more rest).map fun (a, p) => (some a, p)
  | .other, '/' :: rest => some (none, .rooted (segmentsOf kind rest))
  | .other, _ => some (none, .flat (escape isControl cs))

/-- The URL of a text. -/
def parse? (s : String) : Option Url := do
  let (scheme, rest) ← scheme? (clean s.toList)
  let kind := SchemeKind.of scheme
  let tail := rest.dropWhile (!endsPath ·)
  let (query, fragment) := queryAndFragment kind tail
  let (authority, path) ← body? scheme kind (!tail.isEmpty) (rest.takeWhile (!endsPath ·))
  return { scheme, authority, path, query, fragment }

end Reading

end Url

end Dialogue
