import RouteIntake.Document.Same
import RouteIntake.Rejection

/-!
# Statuses

Every standard status of an answer has a phrase, which is what an answer says when nothing else is
said.  A status that is given as a document has to be a number, because what is logged depends on
whether it is above a bound.
-/

namespace RouteIntake.Service

/-- The standard statuses with their phrases. -/
def phrases : List (Int × String) :=
  [(100, "Continue"), (101, "Switching Protocols"), (102, "Processing"), (103, "Early Hints"),
   (200, "OK"), (201, "Created"), (202, "Accepted"), (203, "Non-Authoritative Information"),
   (204, "No Content"), (205, "Reset Content"), (206, "Partial Content"), (207, "Multi-Status"),
   (208, "Already Reported"), (226, "IM Used"), (300, "Multiple Choices"),
   (301, "Moved Permanently"), (302, "Found"), (303, "See Other"), (304, "Not Modified"),
   (305, "Use Proxy"), (307, "Temporary Redirect"), (308, "Permanent Redirect"),
   (400, "Bad Request"), (401, "Unauthorized"), (402, "Payment Required"), (403, "Forbidden"),
   (404, "Not Found"), (405, "Method Not Allowed"), (406, "Not Acceptable"),
   (407, "Proxy Authentication Required"), (408, "Request Timeout"), (409, "Conflict"),
   (410, "Gone"), (411, "Length Required"), (412, "Precondition Failed"),
   (413, "Request Entity Too Large"), (414, "Request-URI Too Long"),
   (415, "Unsupported Media Type"), (416, "Requested Range Not Satisfiable"),
   (417, "Expectation Failed"), (418, "I'm a Teapot"), (421, "Misdirected Request"),
   (422, "Unprocessable Entity"), (423, "Locked"), (424, "Failed Dependency"),
   (425, "Too Early"), (426, "Upgrade Required"), (428, "Precondition Required"),
   (429, "Too Many Requests"), (431, "Request Header Fields Too Large"),
   (451, "Unavailable For Legal Reasons"), (500, "Internal Server Error"),
   (501, "Not Implemented"), (502, "Bad Gateway"), (503, "Service Unavailable"),
   (504, "Gateway Timeout"), (505, "HTTP Version Not Supported"),
   (506, "Variant Also Negotiates"), (507, "Insufficient Storage"), (508, "Loop Detected"),
   (510, "Not Extended"), (511, "Network Authentication Required")]

/-- The phrase of a status, if it is a standard one. -/
def phrase? (status : Int) : Option String := phrases.lookup status

/-- The status that a document is; zero, which has no phrase, for a number with a fraction. -/
def givenStatus (d : Document) : Except Breakdown Int :=
  match d.numeral? with
  | some (.inl status) => .ok status
  | some (.inr _) => .ok 0
  | none => .error (.unordered d.kindName)

/-- The status that a document is, where the code of a refusal is found by it first: a list or an
object cannot be looked up at all. -/
def refusalStatus (d : Document) : Except Breakdown Int :=
  match d with
  | .array _ => .error (.unhashable d.kindName)
  | .object _ => .error (.unhashable d.kindName)
  | d => givenStatus d

@[simp] theorem givenStatus_integer (status : Int) :
    givenStatus (.integer status) = .ok status := rfl

@[simp] theorem refusalStatus_integer (status : Int) :
    refusalStatus (.integer status) = .ok status := rfl

end RouteIntake.Service
