import RouteIntake.Document.Basic
import RouteIntake.Log
import RouteIntake.Numeral.Decimal

/-!
# Why a request is not converted

A request is rejected for a reason that its sender can mend: a `Reason` says which parameter is
wrong and how, and the wording is a function of the reason.  The code that it is reported under is
looked up where the reason is given, so it stands beside the reason in a `Failure`.

A conversion may also be cut short by a value that it has no answer for, and so may anything else
that the service does with values that nobody has checked.  That is a `Breakdown`, not a rejection.
Some values are only nested too deep for the place where they are looked into: a `Room` says how
deep they may be nested.
-/

namespace RouteIntake

/-- Why a request is rejected. -/
inductive Reason
  /-- The value of a parameter is in no table. -/
  | unknownValue (name value : String)
  /-- The value of a parameter is a constant that is in no table. -/
  | unknownConstant (name family value : String)
  /-- Two parameters do not go together. -/
  | incompatible (name value otherName otherValue : String)
  /-- Restrictions that the profile does not know, joined by commas. -/
  | unknownRestrictions (names : List String) (profile : String)
  /-- The value of a parameter has the wrong form. -/
  | malformed (name : String)
  /-- The value of a parameter cannot be read. -/
  | unreadable (name : String)
deriving DecidableEq, Repr

/-- A value that there is no answer for. -/
inductive Breakdown
  /-- An integer is too large for a number. -/
  | overflow
  /-- A value of this kind has no items. -/
  | notIterable (kind : String)
  /-- A value of this kind holds nothing that could be looked for. -/
  | notContainer (kind : String)
  /-- A value of this kind has no such property. -/
  | noProperty (kind property : String)
  /-- A value of this kind cannot be the key of a table. -/
  | unhashable (kind : String)
  /-- A value of this kind has no entries that could be asked for by a key. -/
  | notSubscriptable (kind : String)
  /-- A value of this kind has no entries that could be set. -/
  | notAssignable (kind : String)
  /-- A value of this kind is no place in a list. -/
  | notPlace (kind : String)
  /-- A list has no such place. -/
  | noSuchPlace
  /-- A value of this kind has no length. -/
  | noLength (kind : String)
  /-- A value of this kind is neither above nor below a number. -/
  | unordered (kind : String)
  /-- A whole number and a value of this kind have no bits in common. -/
  | noBits (kind : String)
  /-- The entry of a table at this place has no parts. -/
  | entryWithoutParts (place : Nat)
  /-- The entry of a table at this place has so many parts, and not two. -/
  | entryOfParts (place parts : Nat)
  /-- A value is nested too deep. -/
  | tooDeep
  /-- A text is nested too deep, and what is too deep is of this kind. -/
  | textTooDeep (kind : String)
  /-- A value is nested too deep to be shown. -/
  | shownTooDeep
  /-- An integer has more digits than a text of an integer may have. -/
  | textTooLong
  /-- An answer has a number that is not finite. -/
  | outOfRange
  /-- A text has halves of characters in places `first` to `last`; this unit is the first. -/
  | unencodable (unit first last : Nat)
  /-- A text in an answer with a fixed form has halves of characters, as above. -/
  | unserializable (unit first last : Nat)
  /-- The texts of a record are none: the fields, with the values as shown and their kinds. -/
  | invalidTexts (record : String) (faults : List (String × String × String))
deriving DecidableEq, Repr

/-- The name of the kind of breakdown. -/
def Breakdown.kind : Breakdown → String
  | .overflow => "OverflowError"
  | .notIterable _ => "TypeError"
  | .notContainer _ => "TypeError"
  | .noProperty .. => "AttributeError"
  | .unhashable _ => "TypeError"
  | .notSubscriptable _ => "TypeError"
  | .notAssignable _ => "TypeError"
  | .notPlace _ => "TypeError"
  | .noSuchPlace => "IndexError"
  | .noLength _ => "TypeError"
  | .unordered _ => "TypeError"
  | .noBits _ => "TypeError"
  | .entryWithoutParts _ => "TypeError"
  | .entryOfParts .. => "ValueError"
  | .tooDeep => "RecursionError"
  | .textTooDeep _ => "RecursionError"
  | .shownTooDeep => "RecursionError"
  | .textTooLong => "ValueError"
  | .outOfRange => "ValueError"
  | .unencodable .. => "UnicodeEncodeError"
  | .unserializable .. => "PydanticSerializationError"
  | .invalidTexts .. => "ValidationError"

/-- The place of halves of characters in a text. -/
def placeText (unit first last : Nat) : String :=
  if first == last then
    "character '\\u" ++ String.ofList (Text.hexDigits 4 unit) ++ "' in position " ++ toString first
  else "characters in position " ++ toString first ++ "-" ++ toString last

/-- What is said of halves of characters in a text. -/
def halvesText (unit first last : Nat) : String :=
  "'utf-8' codec can't encode " ++ placeText unit first last ++ ": surrogates not allowed"

/-- Where more is said about a field that should be a text. -/
def textFaultPage : String :=
  "https" ++ "://" ++ "/".intercalate ["errors.pydantic.dev", "2.14", "v", "string_type"]

/-- A field that should be a text, with the value that it has. -/
def textFault (fault : String × String × String) : String :=
  "\n" ++ fault.1 ++ "\n  Input should be a valid string [type=string_type, input_value=" ++
    fault.2.1 ++ ", input_type=" ++ fault.2.2 ++ "]\n    For further information visit " ++
    textFaultPage

/-- What is said of an integer with too many digits. -/
def tooLongText : String :=
  "Exceeds the limit (" ++ toString Numeral.integerTextLimit ++ " digits) for integer string " ++
    "conversion; use sys.set_int_max_str_digits() to increase the limit"

/-- What a breakdown says of itself. -/
def Breakdown.message : Breakdown → String
  | .overflow => "int too large to convert to float"
  | .notIterable kind => "'" ++ kind ++ "' object is not iterable"
  | .notContainer kind => "argument of type '" ++ kind ++ "' is not iterable"
  | .noProperty kind property => "'" ++ kind ++ "' object has no attribute '" ++ property ++ "'"
  | .unhashable kind => "unhashable type: '" ++ kind ++ "'"
  | .notSubscriptable kind => "'" ++ kind ++ "' object is not subscriptable"
  | .notAssignable kind => "'" ++ kind ++ "' object does not support item assignment"
  | .notPlace kind => "list indices must be integers or slices, not " ++ kind
  | .noSuchPlace => "list assignment index out of range"
  | .noLength kind => "object of type '" ++ kind ++ "' has no len()"
  | .unordered kind => "'>=' not supported between instances of '" ++ kind ++ "' and 'int'"
  | .noBits kind => "unsupported operand type(s) for &: 'int' and '" ++ kind ++ "'"
  | .entryWithoutParts place =>
    "cannot convert dictionary update sequence element #" ++ toString place ++ " to a sequence"
  | .entryOfParts place parts =>
    "dictionary update sequence element #" ++ toString place ++ " has length " ++
      toString parts ++ "; 2 is required"
  | .tooDeep => "maximum recursion depth exceeded in __instancecheck__"
  | .textTooDeep kind =>
    "maximum recursion depth exceeded while decoding a JSON " ++ kind ++ " from a unicode string"
  | .shownTooDeep => "maximum recursion depth exceeded while getting the repr of an object"
  | .textTooLong => tooLongText
  | .outOfRange => "Out of range float values are not JSON compliant"
  | .unencodable unit first last => halvesText unit first last
  | .unserializable unit first last =>
    "Error serializing to JSON: UnicodeEncodeError: " ++ halvesText unit first last
  | .invalidTexts record faults =>
    toString faults.length ++ " validation error" ++ (if faults.length == 1 then "" else "s") ++
      " for " ++ record ++ String.join (faults.map textFault)

/-- How many levels of nesting there is room for before a value is nested too deep. -/
structure Room where
  /-- Levels of arrays in the coordinates of areas. -/
  areas : Nat
  /-- Levels inside a list or an object that is shown in a text. -/
  texts : Nat
  /-- Levels of arrays and objects in the body of a message. -/
  bodies : Nat

/-- Room for a hundred levels of everything. -/
def Room.hundred : Room := ⟨100, 100, 100⟩

/-- Why a conversion gives nothing. -/
inductive Failure
  /-- The request is rejected, under this code. -/
  | rejected (code : Document) (reason : Reason)
  /-- The conversion was cut short. -/
  | brokenDown (breakdown : Breakdown)

/-- A conversion that is cut short. -/
def breakDown {α : Type} (b : Breakdown) : Except Failure α := .error (.brokenDown b)

end RouteIntake
