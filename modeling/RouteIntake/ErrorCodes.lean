import RouteIntake.Document.Same

/-!
# Error codes

A registry gives codes to the names of errors.  It is fixed once made and remembers the order in
which names were registered; an unregistered name has the code -1.  Codes are integers, but a
registry takes over what it is made of unchecked, so a code is a document.
-/

namespace RouteIntake

/-- A fixed assignment of codes to the names of errors. -/
structure ErrorCodes where
  /-- The names with their codes, in order, each name once. -/
  entries : List (String × Document)

namespace ErrorCodes

/-- No codes. -/
def empty : ErrorCodes := ⟨[]⟩

/-- The registry of integers. -/
def ofNumbers (entries : List (String × Int)) : ErrorCodes :=
  ⟨entries.map fun e => (e.1, .integer e.2)⟩

/-- The codes of routing. -/
def routing : ErrorCodes :=
  ofNumbers
   [("INVALID_JSON_FORMAT", 2000), ("MISSING_PARAMETER", 2001),
    ("INVALID_PARAMETER_FORMAT", 2002), ("INVALID_PARAMETER_VALUE", 2003),
    ("PARAMETER_VALUE_EXCEEDS_MAXIMUM", 2004), ("EXPORT_HANDLER_ERROR", 2006),
    ("UNSUPPORTED_EXPORT_FORMAT", 2007), ("EMPTY_ELEMENT", 2008), ("ROUTE_NOT_FOUND", 2009),
    ("POINT_NOT_FOUND", 2010), ("INCOMPATIBLE_PARAMETERS", 2011), ("UNKNOWN_PARAMETER", 2012),
    ("PARAMETER_VALUE_EXCEEDS_MINIMUM", 2013), ("UNKNOWN", 2099)]

/-- The code of a name that is not registered. -/
def unregistered : Document := .integer (-1)

/-- The code of a name, if it is registered. -/
def get? (codes : ErrorCodes) (name : String) : Option Document := codes.entries.lookup name

/-- The code of a name, -1 if it is not registered. -/
def code (codes : ErrorCodes) (name : String) : Document := (codes.get? name).getD unregistered

/-- A registry as a document. -/
def toDocument (codes : ErrorCodes) : Document := .object codes.entries

@[simp] theorem code_empty (name : String) : empty.code name = .integer (-1) := rfl

end ErrorCodes

end RouteIntake
