import RouteIntake.Document.Display
import RouteIntake.Rejection
import RouteIntake.Schema.Issue
import RouteIntake.Settings.Basic

/-!
# Problems and how they are answered

A `Problem` is anything that ends a request without its regular answer: an error that the service
reports on purpose, a rejected parameter, a refused message, an invalid body, or something
unexpected.  Each problem has a status, a code, a message for the client, details for the client
outside production, and lines for the log.  `Problem.body` puts the answer together; the details are
the only part that depends on the environment, and without details nobody asks for it.
-/

namespace RouteIntake.Service

open Text Schema

/-! ## Messages that hide what they must -/

/-- What a client is told instead of a message that gives something away. -/
def hiddenMessage : String := "An internal error occurred. Please try again later."

/-- Parts of messages that give something away, in lower case. -/
def sensitiveParts : List (List Char) :=
  ["/routeparams/".toList, "site-packages".toList, "/usr/".toList, "/home/".toList,
   "traceback".toList, "file \x22".toList]

/-- Whether a message gives something away, in any letter case. -/
def isSensitive (cs : List Char) : Bool :=
  sensitiveParts.any fun part => occursIn part (lowerChars cs)

/-- The longest message that is passed on whole. -/
def messageLimit : Nat := 200

/-- A message as a client may see it: hidden if it gives something away, and cut short if it is
long. -/
def sanitize (message : String) : String :=
  let cs := message.toList
  if isSensitive cs then hiddenMessage
  else if Nat.blt messageLimit (size cs) then
    ofCodes ((codes cs).take messageLimit) ++ "..."
  else message

/-! ## The body of an error -/

/-- The body of an error answer.  A request identifier is left out where it is empty, and details
unless they are to be shown. -/
def errorBody (showDetails : Bool) (code message requestId details : Document) : Document :=
  .object
    [("error", .object
      ([("code", code), ("message", message)] ++
        (if requestId.isTruthy then [("request_id", requestId)] else []) ++
        (if showDetails then [("details", details)] else [])))]

/-- Whether details are shown: where there are any, and outside production. -/
def showsDetails (settings : Settings) (details : Document) : Except Breakdown Bool :=
  if details.isTruthy then settings.isProduction.map (!·) else .ok false

/-! ## Kinds of problems -/

/-- An error that the service reports on purpose. -/
structure ApiError where
  /-- The status of the answer. -/
  status : Int
  /-- What the client is told. -/
  detail : Document
  /-- The code. -/
  code : Document
  /-- What only the log is told, null for nothing. -/
  internal : Document

/-- The code of an error that has no code of its own. -/
def internalCode : Document := .text "INTERNAL_ERROR"

/-- A code, or the general one where it is empty or zero. -/
def codeOrInternal (code : Document) : Document := if code.isTruthy then code else internalCode

/-- The kinds of parameter errors. -/
inductive ParameterKind
  /-- No kind in particular. -/
  | general
  /-- A value is in no table. -/
  | unknownValue
  /-- Two parameters do not go together. -/
  | incompatible
  /-- A value has the wrong form. -/
  | badValue
  /-- A value cannot be read. -/
  | badForm
deriving DecidableEq, Repr

/-- The name of a kind of parameter error. -/
def ParameterKind.name : ParameterKind → String
  | .general => "ParameterError"
  | .unknownValue => "UnknownParameterValueException"
  | .incompatible => "IncompatibleParameterException"
  | .badValue => "ParameterValueException"
  | .badForm => "InvalidJSONFormatException"

/-- A parameter that is wrong. -/
structure ParameterError where
  /-- The kind of error. -/
  kind : ParameterKind
  /-- The code, a number. -/
  code : Document
  /-- What the client is told. -/
  detail : Document
  /-- The names of the parameters with their values. -/
  parameters : List (Document × Document)

namespace ParameterError

/-- A value that is in no table. -/
def unknownValue (code name value : Document) : ParameterError where
  kind := .unknownValue
  code := code
  detail :=
    .text ("Unknown parameter value '" ++ value.mention ++ "' for '" ++ name.mention ++ "'.")
  parameters := [(name, value)]

/-- Two parameters that do not go together. -/
def incompatible (code name value otherName otherValue : Document) : ParameterError where
  kind := .incompatible
  code := code
  detail :=
    .text ("Parameter '" ++ name.mention ++ "=" ++ value.mention ++
      "' is incompatible with parameter '" ++ otherName.mention ++ "=" ++ otherValue.mention ++
      "'.")
  parameters := [(name, value), (otherName, otherValue)]

/-- A value of the wrong form, null where the value is not told. -/
def badValue (code name value : Document) : ParameterError where
  kind := .badValue
  code := code
  detail :=
    .text ("Parameter '" ++ name.mention ++ "' has incorrect value " ++
      if value.isNull then "or format." else "of '" ++ value.mention ++ "'.")
  parameters := [(name, value)]

/-- A value that cannot be read. -/
def badForm (code name : Document) : ParameterError where
  kind := .badForm
  code := code
  detail := .text ("Unable to parse JSON for parameter '" ++ name.mention ++ "'.")
  parameters := [(name, .null)]

/-- The error that a rejection is reported as, under a code. -/
def ofReason (code : Document) (reason : Reason) : ParameterError :=
  match reason with
  | .unknownValue name value => unknownValue code (.text name) (.text value)
  | .unknownConstant name family value => unknownValue code (.text name) (.constant family value)
  | .incompatible name value otherName otherValue =>
    incompatible code (.text name) (.text value) (.text otherName) (.text otherValue)
  | .unknownRestrictions names profile =>
    incompatible code (.text "restrictions") (.text (", ".intercalate names)) (.text "profile")
      (.text profile)
  | .malformed name => badValue code (.text name) .null
  | .unreadable name => badForm code (.text name)

/-- A parameter error as an error of the service. -/
def toApi (e : ParameterError) : ApiError := ⟨400, e.detail, codeOrInternal e.code, .null⟩

/-- The parameters as details of an answer. -/
def details (e : ParameterError) : Document :=
  .object [("parameters", .array (e.parameters.map fun p =>
    .object [("name", p.1), ("value", p.2)]))]

@[simp] theorem code_ofReason (code : Document) (reason : Reason) :
    (ofReason code reason).code = code := by
  cases reason <;> rfl

end ParameterError

/-- One thing that is wrong with an incoming message. -/
structure FieldError where
  /-- The way to the place, from the part of the message on. -/
  path : List Step
  /-- The code word of what is wrong. -/
  code : String
  /-- What is wrong. -/
  message : Document

namespace FieldError

/-- The step that stands for the body of a message. -/
def bodyStep : Step := .field "body"

/-- The text of a step. -/
def stepText : Step → String
  | .field name => name
  | .item i => toString i

/-- The place as the client is told: the steps with points between them, but for those that are
called like the body. -/
def field (e : FieldError) : String :=
  ".".intercalate ((e.path.filter fun s => !(s == bodyStep)).map stepText)

/-- What the client is told: the message of a value that a rule refused is withheld. -/
def told (e : FieldError) : Document :=
  if occursIn "value_error".toList e.code.toList then .text "Invalid value provided"
  else e.message

/-- The issue of a validation as an error in a part of a message. -/
def ofIssue (wording : Wording) (part : Step) (issue : Issue) : FieldError :=
  ⟨part :: issue.path, issue.complaint.code, .text (issue.complaint.message wording)⟩

end FieldError

/-- What ends a request without its regular answer. -/
inductive Problem
  /-- An error that the service reports on purpose. -/
  | api (e : ApiError)
  /-- A parameter is wrong. -/
  | parameter (e : ParameterError)
  /-- The message is refused with this status. -/
  | http (status : Int) (detail : Document)
  /-- The message has errors. -/
  | invalid (errors : List FieldError)
  /-- Something of this kind happened that nobody expected. -/
  | unexpected (kind text : String)

/-- What surrounds the handling of a problem. -/
structure Surroundings where
  /-- The settings of the service. -/
  settings : Settings
  /-- The identifier of the request. -/
  requestId : Document
  /-- The trace of what is going on, for debugging. -/
  trace : String

namespace Problem

/-- The codes of refused messages by status. -/
def httpCodes : List (Int × String) :=
  [(400, "BAD_REQUEST"), (404, "NOT_FOUND"), (405, "METHOD_NOT_ALLOWED"),
   (422, "VALIDATION_ERROR"), (500, "INTERNAL_ERROR"), (503, "SERVICE_UNAVAILABLE")]

/-- The status of the answer. -/
def status : Problem → Int
  | .api e => e.status
  | .parameter _ => 400
  | .http status _ => status
  | .invalid _ => 422
  | .unexpected .. => 500

/-- The code of the answer. -/
def code : Problem → Document
  | .api e => e.code
  | .parameter e => e.toApi.code
  | .http status _ => .text ((httpCodes.lookup status).getD "ERROR")
  | .invalid _ => .text "VALIDATION_ERROR"
  | .unexpected .. => internalCode

/-- What the client is told. -/
def message : Problem → Document
  | .api e => e.detail
  | .parameter e => e.detail
  | .http status detail =>
    .text (if 500 ≤ status then sanitize detail.plain else detail.plain)
  | .invalid _ => .text "Invalid request data"
  | .unexpected .. => .text "An unexpected error occurred. Please try again later."

/-- The details for the client; they are shown outside production. -/
def details : Problem → Document
  | .parameter e => e.details
  | .invalid errors =>
    .object [("fields", .array (errors.map fun e =>
      .object [("field", .text e.field), ("message", e.told)]))]
  | _ => .null

/-- The body of the answer. -/
def body (s : Surroundings) (p : Problem) : Except Breakdown Document :=
  (showsDetails s.settings p.details).map fun shown =>
    errorBody shown p.code p.message s.requestId p.details

/-- The name of the logger of problems. -/
def logger : String := "api.errors"

/-- A line about a request. -/
def line (s : Surroundings) (severity : Severity) (text : String) : LogLine :=
  ⟨logger, severity, "[" ++ s.requestId.mention ++ "] " ++ text⟩

/-- The line about an error that the service reports on purpose. -/
def apiLine (s : Surroundings) (e : ApiError) : LogLine :=
  let internal := if e.internal.isTruthy then " | Internal: " ++ e.internal.mention else ""
  line s (if 500 ≤ e.status then .error else .warning)
    (e.code.mention ++ ": " ++ e.detail.mention ++ internal)

/-- The lines for the log. -/
def lines (s : Surroundings) : Problem → List LogLine
  | .api e => [apiLine s e]
  | .parameter e => [apiLine s e.toApi]
  | .http status detail =>
    [line s (if 500 ≤ status then .error else .info)
      ("HTTP " ++ toString status ++ ": " ++ detail.mention)]
  | .invalid errors =>
    [line s .info ("Validation error: " ++ toString errors.length ++ " field(s)")]
  | .unexpected kind text =>
    line s .error ("Unhandled exception: " ++ kind ++ ": " ++ text) ::
      (if s.settings.debug.isTruthy then [⟨logger, .error, s.trace⟩] else [])

end Problem

end RouteIntake.Service
