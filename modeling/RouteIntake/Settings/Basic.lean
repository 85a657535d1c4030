import RouteIntake.Document.Display
import RouteIntake.Document.Parts
import RouteIntake.Schema.Shape

/-!
# Settings of the service

`Settings` has the values the service runs with.  They are checked when they are read, but one may
be put in the place of another afterwards, and nobody checks it then; so a setting is a document,
and whatever uses it says what becomes of a document of the wrong kind.

In production neither debugging nor a local origin is allowed; `Settings.faults` lists what is
wrong.
-/

namespace RouteIntake

open Schema Text

/-- The settings of the service. -/
structure Settings where
  /-- The name of the service. -/
  appName : Document
  /-- The environment the service runs in. -/
  appEnv : Document
  /-- Whether debugging is on. -/
  debug : Document
  /-- The origins that may call the service. -/
  corsOrigins : Document
  /-- The methods that other origins may use. -/
  corsMethods : Document
  /-- The headers that other origins may send. -/
  corsHeaders : Document
  /-- The least severity that is logged. -/
  logLevel : Document
  /-- Whether requests are logged. -/
  logRequests : Document

namespace Settings

/-- The origins that may call a service that is told nothing. -/
def standardOrigins : List String := ["http://localhost:5173", "http://localhost:3000"]

/-- The methods that other origins may use of a service that is told nothing. -/
def standardMethods : List String := ["GET", "POST", "OPTIONS"]

/-- The headers that other origins may send to a service that is told nothing. -/
def standardHeaders : List String := ["Content-Type", "Authorization", "X-Request-ID"]

/-- Texts as a list. -/
def textList (ss : List String) : Document := .array (ss.map .text)

/-- The settings of a service that is told nothing. -/
def standard : Settings where
  appName := .text "Route Parameters API"
  appEnv := .text "development"
  debug := .boolean false
  corsOrigins := textList standardOrigins
  corsMethods := textList standardMethods
  corsHeaders := textList standardHeaders
  logLevel := .text "INFO"
  logRequests := .boolean true

/-- Whether the service runs in production, the word in any letter case. -/
def isProduction (s : Settings) : Except Breakdown Bool :=
  (s.appEnv.textFor "lower").map fun env => lower env == "production"

/-- The fault of a local origin, if there is one. -/
def originFaults (s : Settings) : Except Breakdown (List String) := do
  if ← Document.anyHolds "localhost" (← s.corsOrigins.parts) then
    .ok ["CORS_ORIGINS should not include localhost in production"]
  else .ok []

/-- What is wrong with the settings of a service in production. -/
def faults (s : Settings) : Except Breakdown (List String) := do
  if ← s.isProduction then
    let origins ← s.originFaults
    .ok (origins ++ if s.debug.isTruthy then ["DEBUG must be False in production"] else [])
  else .ok []

/-- The settings as a document. -/
def toDocument (s : Settings) : Document :=
  .object
    [("app_name", s.appName), ("app_env", s.appEnv), ("debug", s.debug),
     ("cors_origins", s.corsOrigins), ("cors_allow_methods", s.corsMethods),
     ("cors_allow_headers", s.corsHeaders), ("log_level", s.logLevel),
     ("log_requests", s.logRequests)]

/-- The shape of settings. -/
def shape : Shape :=
  let field (name : String) (s : Shape) : Field :=
    .mk name (.standard (standard.toDocument.fieldOrNull name)) s
  .record "Settings" false
    [field "app_name" .text, field "app_env" .text, field "debug" .boolean,
     field "cors_origins" (.list 0 .text), field "cors_allow_methods" (.list 0 .text),
     field "cors_allow_headers" (.list 0 .text), field "log_level" .severity,
     field "log_requests" .boolean]

/-- The settings with those that a document names, whatever they are. -/
def override (s : Settings) (d : Document) : Settings where
  appName := (d.field? "app_name").getD s.appName
  appEnv := (d.field? "app_env").getD s.appEnv
  debug := (d.field? "debug").getD s.debug
  corsOrigins := (d.field? "cors_origins").getD s.corsOrigins
  corsMethods := (d.field? "cors_allow_methods").getD s.corsMethods
  corsHeaders := (d.field? "cors_allow_headers").getD s.corsHeaders
  logLevel := (d.field? "log_level").getD s.logLevel
  logRequests := (d.field? "log_requests").getD s.logRequests

/-- Whether the service runs in production is told from a text alone. -/
theorem isProduction_text {s : Settings} {env : String} (h : s.appEnv = .text env) :
    s.isProduction = .ok (lower env == "production") := by
  simp [isProduction, h, Except.map]

end Settings

end RouteIntake
