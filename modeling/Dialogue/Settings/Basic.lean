/-
# Settings

What a bot is started with: the flow, where its token is found, where profiles and message
records go, and how long sessions are kept.
-/

import Dialogue.Session

namespace Dialogue

/-- What a bot is started with. -/
structure Settings where
  /-- The path of the flow file. -/
  flow : String := "flows/survey.yaml"
  /-- The environment variable that holds the token. -/
  tokenVariable : String := "BOT_TOKEN"
  /-- The database of profiles; without one they stay in memory. -/
  databaseUrl : Option String := none
  /-- The address of the dashboard. -/
  apiBaseUrl : Option String := none
  /-- The domain of the dashboard where its address is not given. -/
  devDomain : Option String := none
  /-- The local port of the dashboard where its domain is not given either. -/
  apiPort : Nat := 5000
  /-- The project of the dashboard; without one nothing is reported. -/
  projectId : Option String := none
  sessionMinutes : Int := 1440
deriving DecidableEq, Repr

/-- The values of environment variables. -/
abbrev Environment := List (String × String)

namespace Settings

/-- A text, unless it is blank. -/
def nonBlank (s : Option String) : Option String := s.filter (!Text.isBlankText ·)

/-- The token of the bot, or why there is none. -/
def token (s : Settings) (env : Environment) : Except String String :=
  match nonBlank (env.lookup s.tokenVariable) with
  | some token => .ok token
  | none =>
      .error (s!"Environment variable {s.tokenVariable} not found and no precompiled token " ++
        "available")

/-- The address of the dashboard: the one that is given, then the domain, then this host. -/
def dashboardAddress (s : Settings) : String :=
  match nonBlank s.apiBaseUrl, nonBlank s.devDomain with
  | some url, _ => String.ofList (url.toList.reverse.dropWhile (· = '/')).reverse
  | none, some domain => "https://" ++ domain
  | none, none => s!"http://localhost:{s.apiPort}"

/-- How long sessions are kept: at least a minute. There is no answer where the number of minutes
is too large to be a lifetime. -/
def sessionLifetime? (s : Settings) : Option Int :=
  SessionStore.lifetimeOfMinutes? (max s.sessionMinutes 1)

end Settings

end Dialogue
