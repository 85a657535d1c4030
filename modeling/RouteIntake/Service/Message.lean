import RouteIntake.Document.Finite
import RouteIntake.Document.Writer
import RouteIntake.Rejection
import RouteIntake.Text.Case
import RouteIntake.Text.Percent

/-!
# Messages of the service

An `Incoming` message has a method, a target, headers and a body; an `Outgoing` one has a status,
headers and a body.  Names of headers are kept in lower case.

A target is a path and a query.  The path is decoded before anything looks at it.  What the log says
about a message is read back from its whole address, and a client is sent on to an address on the
same host; so a message also has its `Address`.  `Address.of` says what it is for a plain host: in
it the marks of the decoded path that would end it are encoded again.
-/

namespace RouteIntake.Service

open Text

/-- A named header of a message. -/
abbrev Header := String × String

/-- The first header with a name. -/
def header? (headers : List Header) (name : String) : Option String := headers.lookup name

/-- The address of a message as the service reads it. -/
structure Address where
  /-- The scheme and the host. -/
  base : String
  /-- The path. -/
  path : String
  /-- The query. -/
  query : String

/-- A message to the service. -/
structure Incoming where
  /-- The method. -/
  method : String
  /-- The path, decoded. -/
  path : String
  /-- The query, as it was sent. -/
  query : String
  /-- The headers. -/
  headers : List Header
  /-- The bytes of the body. -/
  body : List UInt8
  /-- The host of the peer, where it is known. -/
  client : Option String
  /-- The address. -/
  address : Address

/-- The body of an answer. -/
inductive Payload
  /-- A document. -/
  | document (d : Document)
  /-- A text. -/
  | text (s : String)

/-- A message from the service. -/
structure Outgoing where
  /-- The status. -/
  status : Int
  /-- The headers. -/
  headers : List Header
  /-- The body. -/
  payload : Payload

/-- The type of the content of a document. -/
def documentType : Header := ("content-type", "application/json")

/-- The type of the content of a text. -/
def textType : Header := ("content-type", "text/plain; charset=utf-8")

/-- An answer that is a document. -/
def Outgoing.ofDocument (status : Int) (d : Document) : Outgoing :=
  ⟨status, [documentType], .document d⟩

/-- Why a document has no form as an answer, if it has none: a number in it is not finite, or a text
in it has half of a character. -/
def unwritable? (d : Document) : Option Breakdown :=
  if !d.isFinite then some .outOfRange
  else (firstHalves? (codes d.compact)).map fun h => .unencodable h.1 h.2.1 h.2.2

/-- An answer that is a document, if the document has a form as an answer. -/
def Outgoing.written (status : Int) (d : Document) : Except Breakdown Outgoing :=
  match unwritable? d with
  | some b => .error b
  | none => .ok (.ofDocument status d)

/-- The answer with more headers. -/
def Outgoing.withHeaders (o : Outgoing) (headers : List Header) : Outgoing :=
  { o with headers := o.headers ++ headers }

theorem Outgoing.written_eq_ok {status : Int} {d : Document} {o : Outgoing} :
    Outgoing.written status d = .ok o ↔ unwritable? d = none ∧ o = .ofDocument status d := by
  unfold Outgoing.written
  cases unwritable? d <;> simp [eq_comm]

@[simp] theorem Outgoing.status_withHeaders (o : Outgoing) (hs : List Header) :
    (o.withHeaders hs).status = o.status := rfl

@[simp] theorem Outgoing.payload_withHeaders (o : Outgoing) (hs : List Header) :
    (o.withHeaders hs).payload = o.payload := rfl

/-- The bytes of a text that is sent; half of a character has none. -/
def bytesOf (s : String) : Except Breakdown (List UInt8) :=
  let ns := codes s.toList
  match firstHalves? ns with
  | some (unit, first, last) => .error (.unencodable unit first last)
  | none => .ok (ns.flatMap utf8Bytes)

/-! ## Targets -/

/-- The parts of a target: the path before the first question mark, decoded, and the query. -/
def splitTarget (target : String) : String × String :=
  let (path, rest) := target.toList.span fun c => !(c == '?')
  (percentDecode (String.ofList path), String.ofList (rest.drop 1))

/-- The query of an address, if it has one, after a question mark. -/
def withQuery (path query : String) : String :=
  if query.isEmpty then path else path ++ "?" ++ query

/-- The marks that would end a path in an address, with what stands for them there. -/
def pathMarks : List (Char × String) := [('?', "%3F"), ('#', "%23"), ('\\', "%5C")]

/-- The path as it stands in an address: a path that is not empty starts with a slash, and no mark
ends it early. -/
def addressPath (path : String) : String :=
  let escaped := path.toList.flatMap fun c => ((pathMarks.lookup c).getD (String.ofList [c])).toList
  match escaped with
  | [] => ""
  | '/' :: _ => String.ofList escaped
  | _ => String.ofList ('/' :: escaped)

/-- Whether a character is left out of an address. -/
def isLeftOut (c : Char) : Bool := c == '\t' || c == '\r' || c == '\n'

/-- The text without the characters that are left out of an address. -/
def leaveOut (s : String) : String := String.ofList (s.toList.filter fun c => !isLeftOut c)

/-- The address of a message with a decoded path and a query, for a scheme and a host with nothing
that would end the host.  The query ends at a number sign. -/
def Address.of (base path query : String) : Address where
  base := base
  path := leaveOut (addressPath path)
  query := String.ofList ((leaveOut query).toList.takeWhile fun c => !(c == '#'))

end RouteIntake.Service
