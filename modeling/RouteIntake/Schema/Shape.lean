import RouteIntake.Schema.Scalar

/-!
# Shapes and validation

A `Shape` describes the documents that a place admits.  `Shape.check` validates a document against a
shape and gives its normal form: texts of numbers become numbers, absent fields get their defaults,
fields of a record come in the order of declaration.  All issues are reported, in the order of
declaration, and after them the undeclared fields of a closed record in the order of the document.
A closed record that has half of a character in a name is refused as a whole.
-/

namespace RouteIntake.Schema

open Text

/-- What an absent field of a record is. -/
inductive Presence
  /-- It has to be there. -/
  | required
  /-- It has this value. -/
  | standard (value : Document)

mutual

/-- The documents that a place admits. -/
inductive Shape
  /-- Every document. -/
  | anything
  /-- A text. -/
  | text
  /-- A boolean. -/
  | boolean
  /-- An integer within bounds, which are tried in order. -/
  | integer (bounds : List Bound)
  /-- A number within bounds, which are tried in order. -/
  | number (bounds : List Bound)
  /-- One of these texts. -/
  | choice (values : List String)
  /-- The name of a severity of log lines. -/
  | severity
  /-- A value that no document can be. -/
  | foreign (name : String)
  /-- Null, or a document of the shape. -/
  | optional (inner : Shape)
  /-- A list of at least so many items. -/
  | list (minimum : Nat) (item : Shape)
  /-- An object with any names. -/
  | dictionary (value : Shape)
  /-- An object with declared fields; when it is closed no others may be there. -/
  | record (name : String) (closed : Bool) (fields : List Field)

/-- A declared field of a record. -/
inductive Field
  /-- The field with this name, what it is when absent, and what it admits. -/
  | mk (name : String) (presence : Presence) (shape : Shape)

end

/-- The name of a field. -/
def Field.name : Field → String
  | .mk name _ _ => name

/-- The default of a field. -/
def Field.standard : Field → Document
  | .mk _ (.standard d) _ => d
  | .mk _ .required _ => .null

/-- The names that a record declares. -/
def Shape.fieldNames : Shape → List String
  | .record _ _ fields => fields.map Field.name
  | _ => []

/-- The name of a record. -/
def Shape.name : Shape → String
  | .record name _ _ => name
  | _ => ""

/-- A reading of a single value as a check. -/
def single {α : Type} (make : α → Document) :
    Except Complaint α → Except (List Issue) Document
  | .ok a => .ok (make a)
  | .error c => complain c

/-- The issues of undeclared fields. -/
def undeclared (names : List String) (members : List (String × Document)) : List Issue :=
  (members.filter fun m => !names.contains m.1).map fun m => ⟨[.field m.1], .extra⟩

/-- The undeclared fields of a record as a check. -/
def noneUndeclared (closed : Bool) (names : List String) (members : List (String × Document)) :
    Except (List Issue) Unit :=
  if closed then
    match undeclared names members with
    | [] => .ok ()
    | issues => .error issues
  else .ok ()

/-- Whether all names of an object are free of halves of characters. -/
def namesSound (members : List (String × Document)) : Bool := members.all fun m => isSound m.1

/-- The items of an array, each under its index from `start` on. -/
def checkItems (check : Document → Except (List Issue) Document) (start : Nat) :
    List Document → List (Except (List Issue) Document)
  | [] => []
  | d :: ds => under (.item start) (check d) :: checkItems check (start + 1) ds

/-- A name as it is listed in a path: for half of a character stands a replacement character for
each of the three bytes that it would have. -/
def listedName (name : String) : String :=
  let replacement := 0xfffd
  ofCodes ((codes name.toList).flatMap fun n =>
    if isHalf n then List.replicate 3 replacement else [n])

/-- The members of a dictionary, each under its name. -/
def checkMembers (check : Document → Except (List Issue) Document) :
    List (String × Document) → List (Except (List Issue) (String × Document))
  | [] => []
  | (name, d) :: ms =>
    (under (.field (listedName name)) (check d)).map (fun v => (name, v)) :: checkMembers check ms

/-- A list of checked items that has to have at least so many. -/
def longEnough (minimum : Nat) (items : List Document) : Except (List Issue) Document :=
  if Nat.blt items.length minimum then complain (.tooShort minimum items.length)
  else .ok (.array items)

/-- The value of a field of a record: the member of its name, checked, or what it is when absent. -/
def fieldValue (name : String) (presence : Presence)
    (check : Document → Except (List Issue) Document) (ms : List (String × Document)) :
    Except (List Issue) Document :=
  match ms.lookup name with
  | some d => under (.field name) (check d)
  | none =>
    match presence with
    | .standard d => .ok d
    | .required => under (.field name) (complain .missing)

mutual

/-- Validates a document against a shape: its normal form, or everything that is wrong. -/
def Shape.check : Shape → Document → Except (List Issue) Document
  | .anything, d => .ok d
  | .text, d =>
    match d with
    | .text s => .ok (.text s)
    | _ => complain .notText
  | .boolean, d => single .boolean (readBoolean d)
  | .integer bounds, d =>
    match readInteger d with
    | .error c => complain c
    | .ok n => single (fun _ => .integer n) (firstBroken (·.allowsInt n) bounds)
  | .number bounds, d =>
    match readNumber d with
    | .error c => complain c
    | .ok x => single (fun _ => .number x) (firstBroken (·.allows x) bounds)
  | .choice values, d => single .text (readChoice values d)
  | .severity, d => single .text (readSeverity d)
  | .foreign name, _ => complain (.notInstance name)
  | .optional inner, d =>
    match d with
    | .null => .ok .null
    | d => inner.check d
  | .list minimum item, d =>
    match d with
    | .array ds =>
      match gather (checkItems item.check 0 ds) with
      | .ok items => longEnough minimum items
      | .error issues => .error issues
    | _ => complain .notList
  | .dictionary value, d =>
    match d with
    | .object ms => (gather (checkMembers value.check ms)).map .object
    | _ => complain .notDictionary
  | .record name closed fields, d =>
    match d with
    | .object ms =>
      if closed && !namesSound ms then complain .notUnicode
      else
        (both (checkFields fields ms) (noneUndeclared closed (fields.map Field.name) ms)).map
          fun r => .object r.1
    | _ => complain (.notRecord name)

/-- Validates the declared fields of a record, in order. -/
def checkFields : List Field → List (String × Document) →
    Except (List Issue) (List (String × Document))
  | [], _ => .ok []
  | .mk name presence shape :: fields, ms =>
    (both (fieldValue name presence shape.check ms) (checkFields fields ms)).map fun r =>
      (name, r.1) :: r.2

end

end RouteIntake.Schema
