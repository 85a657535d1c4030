import RouteIntake.Document.Reader
import RouteIntake.Request
import RouteIntake.Service.Message
import RouteIntake.Service.Problem
import RouteIntake.Text.Blank

/-!
# The body of a conversion request

A body counts as a document when its content type is that of a document, or an extension of it;
otherwise its bytes are a value that no record is.  A body that is nested too deep is as unreadable
as bytes that are no text.  `readBody` reads a body, `bodyErrors` lists what is wrong with it,
together with what is wrong with the profile in the path.
-/

namespace RouteIntake.Service

open Schema Text

/-- Whether a content type is that of a document: `application/json`, or a type of applications
that ends in `+json`, in any letter case and with any parameters. -/
def isDocumentType (contentType : String) : Bool :=
  let essence := lowerChars (contentType.toList.takeWhile fun c => !(c == ';'))
  let (main, rest) := (trim isBlank essence).span fun c => !(c == '/')
  let sub := rest.drop 1
  main == "application".toList && !rest.isEmpty && !sub.contains '/' &&
    (sub == "json".toList || "+json".toList.isSuffixOf sub)

/-- What a body is. -/
inductive BodyReading
  /-- There is no body. -/
  | absent
  /-- Bytes that are not said to be a document. -/
  | raw
  /-- A document. -/
  | document (d : Document)
  /-- A text that stops being a document at this offset. -/
  | malformed (offset : Nat)
  /-- Bytes that cannot be read at all. -/
  | unreadable

/-- Reads the body of a message. -/
def readBody (room : Room) (m : Incoming) : BodyReading :=
  if m.body.isEmpty then .absent
  else if !isDocumentType ((header? m.headers "content-type").getD "") then .raw
  else
    match decode? m.body with
    | none => .unreadable
    | some ns =>
      match Document.readWithin room.bodies (keepCodes ns) with
      | .ok d => .document d
      | .error (.syntaxAt offset) => .malformed offset
      | .error .oversized => .unreadable
      | .error (.tooDeep _) => .unreadable

/-- Checks a body as a record: the record, or what is wrong. -/
def checkBody : BodyReading → Except (List Issue) Document
  | .document d => bodyShape.check d
  | .absent => complain .missing
  | _ => complain (.notRecord bodyShape.name)

/-- The error about a text that stops being a document. -/
def malformedError (offset : Nat) : FieldError :=
  ⟨[FieldError.bodyStep, .item offset], "json_invalid", .text "JSON decode error"⟩

/-- The issues of a check as errors in a part of a message. -/
def errorsIn {α : Type} (part : Step) : Except (List Issue) α → List FieldError
  | .ok _ => []
  | .error issues => issues.map (FieldError.ofIssue .unnamed part)

/-- The checked body of a conversion request for a profile, or the problem with it.  A body that is
not a document stops everything; otherwise the errors of the profile come first. -/
def checkConversion (profile : String) (reading : BodyReading) : Except Problem Document :=
  match reading with
  | .unreadable => .error (.http 400 (.text "There was an error parsing the body"))
  | .malformed offset => .error (.invalid [malformedError offset])
  | reading =>
    let profileErrors :=
      errorsIn (.field "path") (under (.field "profile") (profileShape.check (.text profile)))
    match checkBody reading with
    | .error issues =>
      let bodyErrors := issues.map (FieldError.ofIssue .unnamed FieldError.bodyStep)
      .error (.invalid (profileErrors ++ bodyErrors))
    | .ok body => if profileErrors.isEmpty then .ok body else .error (.invalid profileErrors)

end RouteIntake.Service
