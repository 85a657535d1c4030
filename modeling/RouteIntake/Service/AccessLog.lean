import RouteIntake.Service.Message
import RouteIntake.Log
import RouteIntake.Text.Blank

/-!
# The access log

Each message is logged when it comes and when it is answered, under an identifier that the answer
carries as well.  The places that tell the health of the service are asked so often that they are
logged only when something goes wrong.
-/

namespace RouteIntake.Service.AccessLog

open Text

/-- The name of the logger of messages. -/
def logger : String := "api.requests"

/-- The paths that are logged only when something goes wrong. -/
def quietPaths : List String := ["/health", "/api/v1/health"]

/-- Whether a message is for a quiet path. -/
def isQuiet (m : Incoming) : Bool := quietPaths.contains m.address.path

/-- The client of a message: the first host it was forwarded for, the host it names, or the peer. -/
def client (m : Incoming) : String :=
  let forwarded := (header? m.headers "x-forwarded-for").getD ""
  let named := (header? m.headers "x-real-ip").getD ""
  if !forwarded.isEmpty then
    String.ofList (trim isBlank (forwarded.toList.takeWhile fun c => !(c == ',')))
  else if !named.isEmpty then named
  else m.client.getD "unknown"

/-- The start of a line about a message. -/
def tag (id : String) : String := "[" ++ id ++ "] "

/-- The line when a message comes. -/
def arrivalLine (id : String) (m : Incoming) : LogLine :=
  ⟨logger, .info,
    tag id ++ "--> " ++ m.method ++ " " ++ withQuery m.address.path m.address.query ++ " from " ++
      client m⟩

/-- The lines when a message comes. -/
def arrival (id : String) (m : Incoming) : List LogLine :=
  if isQuiet m then [] else [arrivalLine id m]

/-- The severity of the line when a message is answered, if there is a line. -/
def severityOf (status : Int) (quiet : Bool) : Option Severity :=
  if 500 ≤ status then some .error
  else if 400 ≤ status then some .warning
  else if quiet then none
  else some .info

/-- The text of the line when a message is answered after `duration` milliseconds. -/
def departureText (id duration : String) (m : Incoming) (status : Int) (fault : String) : String :=
  tag id ++ "<-- " ++ toString status ++ " " ++ m.method ++ " " ++ m.address.path ++ " (" ++
    duration ++ "ms)" ++ (if fault.isEmpty then "" else " ERROR: " ++ fault)

/-- The lines when a message is answered; `fault` says what went wrong unexpectedly. -/
def departure (id duration : String) (m : Incoming) (status : Int) (fault : String) :
    List LogLine :=
  match severityOf status (isQuiet m) with
  | some severity => [⟨logger, severity, departureText id duration m status fault⟩]
  | none => []

end RouteIntake.Service.AccessLog
