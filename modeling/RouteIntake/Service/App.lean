import RouteIntake.Service.AccessLog
import RouteIntake.Service.Cors
import RouteIntake.Service.Routes

/-!
# The service

A message passes through three layers.  The outermost answers preflights and adds the headers for
other origins.  The next logs the message and gives it an identifier, if the settings say so.  The
innermost finds the place the message is for and answers it.

A breakdown passes through all layers: it is logged on its way, answered outside of them with status
500, and then goes on to whoever runs the service.

Everything that a run of the service takes from outside is in `Circumstances`, so an answer is a
function of the message and of these.
-/

namespace RouteIntake.Service

/-- What a run of the service takes from outside for one message. -/
structure Circumstances where
  /-- What was fixed when the service was started. -/
  installation : Installation
  /-- The settings now. -/
  settings : Settings
  /-- The identifier that the access log gives to the message. -/
  loggedId : String
  /-- An identifier for a message that has none. -/
  freshId : String
  /-- How many milliseconds the answer takes, as text. -/
  duration : String
  /-- The trace of an unexpected problem. -/
  trace : String

namespace Circumstances

/-- Whether messages are logged. -/
def logsRequests (c : Circumstances) : Bool := c.settings.logRequests.isTruthy

/-- The identifier under which problems with a message are reported. -/
def requestId (c : Circumstances) : String := if c.logsRequests then c.loggedId else c.freshId

/-- What surrounds the handling of a problem. -/
def surroundings (c : Circumstances) : Surroundings := ⟨c.settings, .text c.requestId, c.trace⟩

/-- What other origins may do. -/
def policy (c : Circumstances) : Cors.Policy := .ofSettings c.installation.started

end Circumstances

/-- What comes of a message. -/
structure Served where
  /-- The answer. -/
  response : Outgoing
  /-- The lines logged. -/
  log : List LogLine
  /-- The breakdown that went on after the answer. -/
  raised : Option Breakdown

/-- Answers a message behind the access log. -/
def logged (c : Circumstances) (m : Incoming) : Traced Breakdown Outgoing :=
  let x := answerRoute c.installation c.surroundings m
  if c.logsRequests then
    let before := AccessLog.arrival c.loggedId m ++ x.log
    match x.outcome with
    | .ok response =>
      ⟨before ++ AccessLog.departure c.loggedId c.duration m response.status "",
        .ok (response.withHeaders [("x-request-id", c.loggedId)])⟩
    | .error b =>
      ⟨before ++ AccessLog.departure c.loggedId c.duration m 500 b.message, .error b⟩
  else x

/-- The problem that a breakdown is answered as. -/
def breakdownProblem (b : Breakdown) : Problem := .unexpected b.kind b.message

/-- The answer to a breakdown.  It has no details, so it does not depend on the settings. -/
def answerBreakdown (c : Circumstances) (b : Breakdown) : Outgoing :=
  let p := breakdownProblem b
  .ofDocument p.status (errorBody false p.code p.message (.text c.requestId) .null)

/-- Answers a message. -/
def serve (c : Circumstances) (m : Incoming) : Served :=
  match Cors.preflight? m with
  | some f => ⟨Cors.answer c.policy f, [], none⟩
  | none =>
    let x := logged c m
    match x.outcome with
    | .ok response => ⟨response.withHeaders (Cors.answerHeaders c.policy m), x.log, none⟩
    | .error b =>
      let p := breakdownProblem b
      ⟨answerBreakdown c b, x.log ++ p.lines c.surroundings, some b⟩

end RouteIntake.Service
