import RouteIntake.Document.Basic

/-!
# What validation reports

An `Issue` is one thing that is wrong with a document: a `Complaint` and the path to the place.
Every complaint has a code word and a message.  The message of `notRecord` has two forms, which
`Wording` chooses: a document checked on its own is told the name of the record, a request body is
not.
-/

namespace RouteIntake.Schema

/-- One step of a path into a document. -/
inductive Step
  /-- The member of an object. -/
  | field (name : String)
  /-- The item of an array, counted from zero. -/
  | item (index : Nat)
deriving DecidableEq, Repr

/-- The step as it is listed in a path. -/
def Step.toDocument : Step → Document
  | .field name => .text name
  | .item i => .integer i

/-- A bound on a number. -/
inductive Bound
  /-- Not above `n`. -/
  | atMost (n : Int)
  /-- Not below `n`. -/
  | atLeast (n : Int)
  /-- Above `n`. -/
  | above (n : Int)
deriving DecidableEq, Repr

/-- What is wrong at a place of a document. -/
inductive Complaint
  /-- A required field is absent. -/
  | missing
  /-- A field is not declared. -/
  | extra
  /-- A record is expected; it has this name. -/
  | notRecord (name : String)
  /-- A list is expected. -/
  | notList
  /-- The list has too few items. -/
  | tooShort (minimum actual : Nat)
  /-- A dictionary is expected. -/
  | notDictionary
  /-- A text is expected. -/
  | notText
  /-- The text, or a name in the record, has half of a character. -/
  | notUnicode
  /-- One of these texts is expected. -/
  | notChoice (values : List String)
  /-- An integer is expected. -/
  | notInteger
  /-- The text is not an integer. -/
  | unreadableInteger
  /-- The number has a fractional part. -/
  | fractional
  /-- The number is not finite. -/
  | notFinite
  /-- The number is too large for an integer. -/
  | oversizedInteger
  /-- A number is expected. -/
  | notNumber
  /-- The text is not a number. -/
  | unreadableNumber
  /-- A boolean is expected. -/
  | notBoolean
  /-- The text or the integer stands for no boolean. -/
  | unreadableBoolean
  /-- The number is out of bounds. -/
  | outOfBound (bound : Bound)
  /-- A value that no document can be is expected. -/
  | notInstance (name : String)
  /-- The text names no severity of log lines. -/
  | unknownSeverity (value : String)
deriving DecidableEq, Repr

/-- How a request body and a document on its own are told that a record is expected. -/
inductive Wording
  /-- With the name of the record. -/
  | named
  /-- Without it. -/
  | unnamed
deriving DecidableEq, Repr

/-- The code word of a complaint. -/
def Complaint.code : Complaint → String
  | .missing => "missing"
  | .extra => "extra_forbidden"
  | .notRecord _ => "model_type"
  | .notList => "list_type"
  | .tooShort .. => "too_short"
  | .notDictionary => "dict_type"
  | .notText => "string_type"
  | .notUnicode => "string_unicode"
  | .notChoice _ => "enum"
  | .notInteger => "int_type"
  | .unreadableInteger => "int_parsing"
  | .fractional => "int_from_float"
  | .notFinite => "finite_number"
  | .oversizedInteger => "int_parsing_size"
  | .notNumber => "float_type"
  | .unreadableNumber => "float_parsing"
  | .notBoolean => "bool_type"
  | .unreadableBoolean => "bool_parsing"
  | .outOfBound (.atMost _) => "less_than_equal"
  | .outOfBound (.atLeast _) => "greater_than_equal"
  | .outOfBound (.above _) => "greater_than"
  | .notInstance _ => "is_instance_of"
  | .unknownSeverity _ => "value_error"

/-- Alternatives in single quotes, with commas between them and `or` before the last. -/
def alternatives : List String → String
  | [] => ""
  | [v] => "'" ++ v ++ "'"
  | [v, w] => "'" ++ v ++ "' or '" ++ w ++ "'"
  | v :: vs => "'" ++ v ++ "', " ++ alternatives vs

/-- What is said of a text that names no severity. -/
def unknownSeverityText (value : String) : String := "Unknown log level: " ++ value

/-- The message of a complaint. -/
def Complaint.message (wording : Wording) : Complaint → String
  | .missing => "Field required"
  | .extra => "Extra inputs are not permitted"
  | .notRecord name =>
    match wording with
    | .named => "Input should be a valid dictionary or instance of " ++ name
    | .unnamed => "Input should be a valid dictionary or object to extract fields from"
  | .notList => "Input should be a valid list"
  | .tooShort minimum actual =>
    "List should have at least " ++ toString minimum ++ " items after validation, not " ++
      toString actual
  | .notDictionary => "Input should be a valid dictionary"
  | .notText => "Input should be a valid string"
  | .notUnicode =>
    "Input should be a valid string, unable to parse raw data as a unicode string"
  | .notChoice values => "Input should be " ++ alternatives values
  | .notInteger => "Input should be a valid integer"
  | .unreadableInteger =>
    "Input should be a valid integer, unable to parse string as an integer"
  | .fractional => "Input should be a valid integer, got a number with a fractional part"
  | .notFinite => "Input should be a finite number"
  | .oversizedInteger =>
    "Unable to parse input string as an integer, exceeded maximum size"
  | .notNumber => "Input should be a valid number"
  | .unreadableNumber =>
    "Input should be a valid number, unable to parse string as a number"
  | .notBoolean => "Input should be a valid boolean"
  | .unreadableBoolean => "Input should be a valid boolean, unable to interpret input"
  | .outOfBound (.atMost n) => "Input should be less than or equal to " ++ toString n
  | .outOfBound (.atLeast n) => "Input should be greater than or equal to " ++ toString n
  | .outOfBound (.above n) => "Input should be greater than " ++ toString n
  | .notInstance name => "Input should be an instance of " ++ name
  | .unknownSeverity value => "Value error, " ++ unknownSeverityText value

/-- One thing that is wrong with a document, and where. -/
structure Issue where
  /-- The way from the root of the document to the place. -/
  path : List Step
  /-- What is wrong there. -/
  complaint : Complaint
deriving DecidableEq, Repr

/-- The issue seen from one step further up. -/
def Issue.under (step : Step) (issue : Issue) : Issue := { issue with path := step :: issue.path }

/-! ## Checks that gather all issues -/

/-- One complaint about the document itself. -/
def complain {α : Type} (c : Complaint) : Except (List Issue) α := .error [⟨[], c⟩]

/-- A check of a part, with its issues seen from the whole. -/
def under {α : Type} (step : Step) : Except (List Issue) α → Except (List Issue) α
  | .ok a => .ok a
  | .error issues => .error (issues.map (Issue.under step))

/-- Two checks at once: both values, or the issues of both in order. -/
def both {α β : Type} :
    Except (List Issue) α → Except (List Issue) β → Except (List Issue) (α × β)
  | .ok a, .ok b => .ok (a, b)
  | .ok _, .error es => .error es
  | .error es, .ok _ => .error es
  | .error es, .error fs => .error (es ++ fs)

/-- A list of checks at once: all values, or the issues of all in order. -/
def gather {α : Type} : List (Except (List Issue) α) → Except (List Issue) (List α)
  | [] => .ok []
  | r :: rs =>
    match both r (gather rs) with
    | .ok (a, as) => .ok (a :: as)
    | .error es => .error es

@[simp] theorem both_ok_left {α β : Type} (a : α) (y : Except (List Issue) β) :
    both (.ok a) y = y.map fun b => (a, b) := by
  cases y <;> rfl

@[simp] theorem both_ok_right {α β : Type} (x : Except (List Issue) α) (b : β) :
    both x (.ok b) = x.map fun a => (a, b) := by
  cases x <;> rfl

theorem both_eq_ok {α β : Type} {x : Except (List Issue) α} {y : Except (List Issue) β} {a : α}
    {b : β} : both x y = .ok (a, b) ↔ x = .ok a ∧ y = .ok b := by
  cases x <;> cases y <;> simp [both]

@[simp] theorem under_eq_ok {α : Type} {step : Step} {x : Except (List Issue) α} {a : α} :
    under step x = .ok a ↔ x = .ok a := by
  cases x <;> simp [under]

theorem gather_cons_eq_ok {α : Type} {r : Except (List Issue) α}
    {rs : List (Except (List Issue) α)} {bs : List α} :
    gather (r :: rs) = .ok bs ↔ ∃ a as, bs = a :: as ∧ r = .ok a ∧ gather rs = .ok as := by
  rw [gather]
  cases r with
  | error es => cases gather rs <;> simp [both]
  | ok a => cases gather rs <;> simp [both, eq_comm]

end RouteIntake.Schema
