import RouteIntake.Service.Message
import RouteIntake.Settings.Basic
import RouteIntake.Text.Blank

/-!
# Calls from other origins

A browser asks before it calls the service from another origin: such a preflight has the method
`OPTIONS`, an origin and the method it asks for.  It is answered here and goes no further.  Every
other answer gets headers that tell the browser who may read it.

What is allowed is taken from the settings that the service starts with.
-/

namespace RouteIntake.Service.Cors

open Text

/-- What stands for everything in a list of what is allowed. -/
def star : String := "*"

/-- What other origins may do.  A star in a list allows everything. -/
structure Policy where
  /-- The origins that may call. -/
  origins : List String
  /-- The methods they may use. -/
  methods : List String
  /-- The headers they may send. -/
  headers : List String

/-- The texts in a list of settings. -/
def textsOf (d : Document) : List String := d.items.filterMap Document.text?

/-- The methods that a star stands for. -/
def allMethods : List String := ["DELETE", "GET", "HEAD", "OPTIONS", "PATCH", "POST", "PUT"]

/-- The headers that may always be sent. -/
def safeHeaders : List String := ["Accept", "Accept-Language", "Content-Language", "Content-Type"]

/-- Names in the order of their codes with one more, which is put in only once. -/
def insertName (name : String) : List String → List String
  | [] => [name]
  | n :: ns =>
    if n == name then n :: ns
    else if codes name.toList < codes n.toList then name :: n :: ns
    else n :: insertName name ns

namespace Policy

/-- The policy of a service that is started with some settings. -/
def ofSettings (s : Settings) : Policy :=
  ⟨textsOf s.corsOrigins, textsOf s.corsMethods, textsOf s.corsHeaders⟩

/-- Whether all origins may call. -/
def allowsAllOrigins (p : Policy) : Bool := p.origins.contains star

/-- Whether an origin may call. -/
def allowsOrigin (p : Policy) (origin : String) : Bool :=
  p.allowsAllOrigins || p.origins.contains origin

/-- The methods that may be used. -/
def allowedMethods (p : Policy) : List String :=
  if p.methods.contains star then allMethods else p.methods

/-- Whether all headers may be sent. -/
def allowsAllHeaders (p : Policy) : Bool := p.headers.contains star

/-- The headers that may be sent, as they are listed. -/
def allowedHeaders (p : Policy) : List String := (safeHeaders ++ p.headers).foldr insertName []

/-- Whether all headers that a preflight lists may be sent, their names in any letter case. -/
def allowsHeaders (p : Policy) (listed : String) : Bool :=
  let allowed := p.allowedHeaders.map lower
  p.allowsAllHeaders || (splitAt ',' listed.toList).all fun e =>
    allowed.contains (String.ofList (trim isBlank (lowerChars e)))

end Policy

/-- A preflight: the origin that asks, the method and the headers it asks for. -/
structure Preflight where
  /-- The origin. -/
  origin : String
  /-- The method. -/
  method : String
  /-- The headers, separated by commas. -/
  headers : Option String
  /-- Whether it asks for a way into a private network, whatever it says there. -/
  asksPrivateNetwork : Bool

/-- The preflight that a message is, if it is one. -/
def preflight? (m : Incoming) : Option Preflight :=
  if m.method == "OPTIONS" then
    match header? m.headers "origin", header? m.headers "access-control-request-method" with
    | some origin, some method =>
      some ⟨origin, method, header? m.headers "access-control-request-headers",
        (header? m.headers "access-control-request-private-network").isSome⟩
    | _, _ => none
  else none

/-- What a preflight asks for and may not have.  A way into a private network it never has. -/
def refusals (p : Policy) (f : Preflight) : List String :=
  (if p.allowsOrigin f.origin then [] else ["origin"]) ++
    (if p.allowedMethods.contains f.method then [] else ["method"]) ++
    (match f.headers with
      | some listed => if p.allowsHeaders listed then [] else ["headers"]
      | none => []) ++
    (if f.asksPrivateNetwork then ["private-network"] else [])

/-- The header that lets an origin in. -/
def originHeader (origin : String) : Header := ("access-control-allow-origin", origin)

/-- The header that tells which headers may be sent: those that may, or, where all may, those that a
preflight asks for. -/
def headersHeader (p : Policy) (f : Preflight) : List Header :=
  let allowed := if p.allowsAllHeaders then f.headers else some (", ".intercalate p.allowedHeaders)
  (allowed.map fun listed => ("access-control-allow-headers", listed)).toList

/-- The answer to a preflight. -/
def answer (p : Policy) (f : Preflight) : Outgoing :=
  let headers :=
    [textType,
     ("vary", "Origin, Access-Control-Request-Method, Access-Control-Request-Headers, " ++
       "Access-Control-Request-Private-Network"),
     ("access-control-allow-methods", ", ".intercalate p.allowedMethods),
     ("access-control-max-age", "600"),
     ("access-control-allow-credentials", "true")] ++
    headersHeader p f ++ (if p.allowsOrigin f.origin then [originHeader f.origin] else [])
  match refusals p f with
  | [] => ⟨200, headers, .text "OK"⟩
  | refused => ⟨400, headers, .text ("Disallowed CORS " ++ ", ".intercalate refused)⟩

/-- The header that tells who may read an answer.  Where all origins may, it names the origin only
to one that sends cookies. -/
def readerHeader (p : Policy) (m : Incoming) (origin : String) : List Header :=
  if p.allowsAllOrigins then
    [originHeader (if (header? m.headers "cookie").isSome then origin else star)]
  else if p.allowsOrigin origin then [originHeader origin]
  else []

/-- The headers that every other answer gets. -/
def answerHeaders (p : Policy) (m : Incoming) : List Header :=
  match header? m.headers "origin" with
  | some origin =>
    [("access-control-allow-credentials", "true"),
     ("access-control-expose-headers", "X-Request-ID")] ++ readerHeader p m origin ++
      [("vary", "Origin")]
  | none => [("vary", "Origin")]

end RouteIntake.Service.Cors
