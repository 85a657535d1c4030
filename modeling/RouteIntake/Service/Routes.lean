import RouteIntake.Answer
import RouteIntake.Document.Public
import RouteIntake.Service.Body

/-!
# Routes of the service

The service has a root, two places that tell its health, and one place for each profile where
requests are converted.  Outside production it has pages that describe it; what stands on them is
given with the service, as is the room that it has.  `answerRoute` answers a message; what goes
wrong on purpose is answered as a problem, and a breakdown of the conversion goes on to the caller.
-/

namespace RouteIntake.Service

/-- The pages that describe the service. -/
inductive Page
  /-- The description of the service as data. -/
  | schema
  /-- The documentation. -/
  | docs
  /-- Where the documentation is returned to after signing in. -/
  | signedIn
  /-- The reference. -/
  | reference
deriving DecidableEq, Repr

namespace Page

/-- All pages. -/
def all : List Page := [schema, docs, signedIn, reference]

/-- The path of a page. -/
def path : Page → String
  | schema => "/openapi.json"
  | docs => "/docs"
  | signedIn => "/docs/oauth2-redirect"
  | reference => "/redoc"

/-- The type of the content of a page. -/
def type : Page → Header
  | schema => documentType
  | _ => ("content-type", "text/html; charset=utf-8")

/-- The page with a path. -/
def ofPath? (path : List Char) : Option Page := all.find? fun p => p.path.toList == path

end Page

/-- The places of the service. -/
inductive Route
  /-- The root. -/
  | root
  /-- The health of the service. -/
  | health
  /-- The health of the service as a record whose fields are checked. -/
  | checkedHealth
  /-- A page that describes the service. -/
  | page (page : Page)
  /-- The conversion of requests for a profile. -/
  | convert (profile : String)
deriving DecidableEq, Repr

namespace Route

/-- The text before the profile in a path. -/
def beforeProfile : List Char := "/api/v1/directions/".toList

/-- The text after the profile in a path. -/
def afterProfile : List Char := "/parameters".toList

/-- The profile in a path: one or more characters without a slash. -/
def profileIn? (path : List Char) : Option String :=
  if beforeProfile.isPrefixOf path then
    let (profile, rest) := (path.drop beforeProfile.length).span fun c => !(c == '/')
    if rest == afterProfile && !profile.isEmpty then some (String.ofList profile) else none
  else none

/-- The path without one line feed at its end. -/
def dropLineFeed (path : List Char) : List Char :=
  match path.reverse with
  | '\n' :: rest => rest.reverse
  | _ => path

/-- The place that a path leads to.  One line feed at the end of a path does not matter. -/
def ofPath? (path : List Char) : Option Route :=
  let path := dropLineFeed path
  if path == "/".toList then some .root
  else if path == "/health".toList then some .health
  else if path == "/api/v1/health".toList then some .checkedHealth
  else
    match Page.ofPath? path with
    | some p => some (.page p)
    | none => (profileIn? path).map .convert

/-- The methods of a place. -/
def methods : Route → List String
  | .convert _ => ["POST"]
  | .page _ => ["GET", "HEAD"]
  | _ => ["GET"]

end Route

/-- What is fixed when the service is started. -/
structure Installation where
  /-- The settings that it is started with. -/
  started : Settings
  /-- The room for nesting. -/
  room : Room
  /-- What stands on the pages that describe the service. -/
  manual : Page → String

namespace Installation

/-- Whether the service has pages that describe it: it has them outside production. -/
def hasPages (i : Installation) : Bool :=
  match i.started.isProduction with
  | .ok production => !production
  | .error _ => false

/-- Whether the service has a place. -/
def has (i : Installation) : Route → Bool
  | .page _ => i.hasPages
  | _ => true

/-- The place of the service that a path leads to. -/
def route? (i : Installation) (path : List Char) : Option Route := (Route.ofPath? path).filter i.has

end Installation

/-- The version of the service. -/
def version : String := "1.0.0"

/-- What the root tells.  Where the documentation is, it tells outside production. -/
def rootAnswer (s : Settings) : Except Breakdown Document :=
  s.isProduction.map fun production =>
    .object
      ([("name", s.appName), ("version", .text version), ("health", .text "/health")] ++
        if production then [] else [("docs", .text "/docs"), ("redoc", .text "/redoc")])

/-- What the service tells of its health. -/
def healthAnswer (s : Settings) : Document :=
  .object [("status", .text "healthy"), ("service", s.appName), ("environment", s.appEnv)]

/-- The characters at the start of a text that together have no more than so many bytes. -/
def takeBytes (room : Nat) : List Char → List Char
  | [] => []
  | c :: cs => if Nat.ble c.utf8Size room then c :: takeBytes (room - c.utf8Size) cs else []

/-- What a message about a value shows of it: both ends, where there are too many bytes. -/
def shortened (shown : String) : String :=
  let cs := shown.toList
  if Nat.blt 50 shown.utf8ByteSize then
    String.ofList (takeBytes 25 cs ++ ['.', '.', '.'] ++ (takeBytes 24 cs.reverse).reverse)
  else shown

/-- An answer whose form is fixed, unless a text in it has half of a character. -/
def serialized (d : Document) : Except Breakdown Document :=
  let halves? (m : String × Document) : Option (Nat × Nat × Nat) :=
    m.2.text?.bind fun s => Text.firstHalves? (Text.codes s.toList)
  match d.members.findSome? halves? with
  | some (unit, first, last) => .error (.unserializable unit first last)
  | none => .ok d

/-- What the service tells of its health, its fields checked. -/
def checkedHealthAnswer (s : Settings) : Except Breakdown Document :=
  match healthShape.check (healthAnswer s).bare with
  | .ok d => serialized d
  | .error issues =>
    .error (.invalidTexts healthShape.name (issues.filterMap fun i =>
      match i.path with
      | [.field name] =>
        let d := (healthAnswer s).fieldOrNull name
        some (name, shortened d.shown, d.kindName)
      | _ => none))

/-- The answer to a problem. -/
def answerProblem (s : Surroundings) (p : Problem) : Except Breakdown Outgoing := do
  Outgoing.written p.status (← p.body s)

/-- Logs a problem and answers it. -/
def report (s : Surroundings) (p : Problem) : Traced Breakdown Outgoing :=
  ⟨p.lines s, answerProblem s p⟩

/-- A problem in place of a rejection; a breakdown is left as it is. -/
def answerConverted (s : Surroundings) (profile : String) (x : Traced Failure Search) :
    Traced Breakdown Outgoing :=
  match x.outcome with
  | .ok search =>
    ⟨x.log, .ok (.ofDocument 200 (search.answer profile).finiteOnly)⟩
  | .error (.rejected code reason) =>
    let p := Problem.parameter (.ofReason code reason)
    ⟨x.log ++ p.lines s, answerProblem s p⟩
  | .error (.brokenDown b) => ⟨x.log, .error b⟩

/-- The handler of the service. -/
def requestHandler : Handler := .standard .route

/-- Answers a conversion request for a profile. -/
def answerConversion (i : Installation) (s : Surroundings) (profile : String) (m : Incoming) :
    Traced Breakdown Outgoing :=
  match checkConversion profile (readBody i.room m) with
  | .error p => report s p
  | .ok body =>
    answerConverted s profile
      (requestHandler.convertRequest i.room (Request.ofDocument (withProfile (.text profile) body)))

/-- The answer that tells what of a document is told. -/
def told (d : Document) : Except Breakdown Outgoing := Outgoing.written 200 d.publicOnly

/-- A page that describes the service. -/
def Page.answer (page : Page) (content : String) : Outgoing := ⟨200, [page.type], .text content⟩

/-- Answers a message at a place of the service. -/
def answerAt (i : Installation) (s : Surroundings) (m : Incoming) :
    Route → Traced Breakdown Outgoing
  | .root => .ofOutcome (rootAnswer s.settings >>= told)
  | .health => .ofOutcome (told (healthAnswer s.settings))
  | .checkedHealth => .ofOutcome (checkedHealthAnswer s.settings >>= Outgoing.written 200)
  | .page page => .ofOutcome (.ok (page.answer (i.manual page)))
  | .convert profile => answerConversion i s profile m

/-- The path with which a path that leads nowhere is tried again: without the slashes at its end,
or with one. -/
def otherPath (path : List Char) : List Char :=
  match path.reverse with
  | '/' :: _ => (path.reverse.dropWhile (· == '/')).reverse
  | _ => path ++ ['/']

/-- The answer that sends the client of a message to another path on the same host. -/
def redirect (m : Incoming) (path : List Char) : Outgoing :=
  let address := m.address.base ++ withQuery (addressPath (String.ofList path)) m.query
  ⟨307, [("location", Text.percentEncode address)], .text ""⟩

/-- Answers a message. -/
def answerRoute (i : Installation) (s : Surroundings) (m : Incoming) : Traced Breakdown Outgoing :=
  let path := m.path.toList
  match i.route? path with
  | some route =>
    if route.methods.contains m.method then answerAt i s m route
    else report s (.http 405 (.text "Method Not Allowed"))
  | none =>
    if path != "/".toList && (i.route? (otherPath path)).isSome then
      .ofOutcome (.ok (redirect m (otherPath path)))
    else report s (.http 404 (.text "Not Found"))

end RouteIntake.Service
