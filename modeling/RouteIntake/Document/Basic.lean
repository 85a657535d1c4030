import RouteIntake.Numeral.Binary64

/-!
# Documents

A `Document` is a value as a client sends it: null, a boolean, an integer, a number, a text, an
array or an object.  Integers have no bound and are kept apart from numbers.  The members of an
object keep the order in which their names first appeared, and each name appears once:
`insertMember` replaces the value of a name that is already there.

A caller inside the service may also pass a constant: one of the values of a named family.  It
counts as the text that is its value (`bare` puts the text in its place), but where it is mentioned
it shows its name.
-/

namespace RouteIntake

open Numeral

/-- A value as a client sends it. -/
inductive Document
  /-- The absent value. -/
  | null
  /-- A truth value. -/
  | boolean (value : Bool)
  /-- An integer of any size. -/
  | integer (value : Int)
  /-- A floating-point number. -/
  | number (value : Binary64)
  /-- A text. -/
  | text (value : String)
  /-- The constant of a family with a value. -/
  | constant (family value : String)
  /-- A list of documents. -/
  | array (items : List Document)
  /-- Named documents, in order. -/
  | object (members : List (String × Document))
deriving Inhabited

namespace Document

/-- Members with the name bound to the value; a name that is already there keeps its place. -/
def insertMember (name : String) (value : Document) :
    List (String × Document) → List (String × Document)
  | [] => [(name, value)]
  | (n, v) :: rest =>
    if n == name then (n, value) :: rest else (n, v) :: insertMember name value rest

/-- The member of an object with the given name. -/
def field? (name : String) : Document → Option Document
  | .object members => members.lookup name
  | _ => none

/-- The member of an object with the given name, null where there is none. -/
def fieldOrNull (d : Document) (name : String) : Document := (d.field? name).getD .null

/-- The members of an object; nothing else has any. -/
def members : Document → List (String × Document)
  | .object ms => ms
  | _ => []

/-- The items of an array; nothing else has any. -/
def items : Document → List Document
  | .array ds => ds
  | _ => []

/-- Whether the document is null. -/
def isNull : Document → Bool
  | .null => true
  | _ => false

/-- A text is itself and a constant has its value; nothing else has a text. -/
def text? : Document → Option String
  | .text s => some s
  | .constant _ s => some s
  | _ => none

/-- The names of an object in their order. -/
def names (d : Document) : List String := d.members.map Prod.fst

mutual

/-- A document with texts in place of constants. -/
def bare : Document → Document
  | .constant _ s => .text s
  | .array ds => .array (bareItems ds)
  | .object ms => .object (bareMembers ms)
  | d => d

/-- The items of an array with texts in place of constants. -/
def bareItems : List Document → List Document
  | [] => []
  | d :: ds => bare d :: bareItems ds

/-- The members of an object with texts in place of constants. -/
def bareMembers : List (String × Document) → List (String × Document)
  | [] => []
  | (name, d) :: ms => (name, bare d) :: bareMembers ms

end

/-- Null is the absent value. -/
def toOption : Document → Option Document
  | .null => none
  | d => some d

/-- The absent value is null. -/
def ofOption : Option Document → Document
  | none => .null
  | some d => d

/-- Whether the document counts as true: it is neither null, false, zero nor empty. -/
def isTruthy : Document → Bool
  | .null => false
  | .boolean b => b
  | .integer n => !(n == 0)
  | .number x => !x.isZero
  | .text s => !s.isEmpty
  | .constant _ s => !s.isEmpty
  | .array ds => !ds.isEmpty
  | .object ms => !ms.isEmpty

/-- The word for the kind of document in messages about values of the wrong kind. -/
def kindName : Document → String
  | .null => "NoneType"
  | .boolean _ => "bool"
  | .integer _ => "int"
  | .number _ => "float"
  | .text _ => "str"
  | .constant family _ => family
  | .array _ => "list"
  | .object _ => "dict"

theorem lookup_insertMember_self (name : String) (value : Document)
    (ms : List (String × Document)) : (insertMember name value ms).lookup name = some value := by
  induction ms with
  | nil => simp [insertMember]
  | cons m rest ih =>
    obtain ⟨n, v⟩ := m
    by_cases h : n = name
    · subst h
      simp [insertMember]
    · have hb : (name == n) = false := beq_eq_false_iff_ne.mpr fun e => h e.symm
      simp [insertMember, List.lookup_cons, h, hb, ih]

theorem lookup_insertMember_of_ne {name other : String} (h : other ≠ name) (value : Document)
    (ms : List (String × Document)) :
    (insertMember name value ms).lookup other = ms.lookup other := by
  have hb : (other == name) = false := beq_eq_false_iff_ne.mpr h
  induction ms with
  | nil => simp [insertMember, List.lookup_cons, hb]
  | cons m rest ih =>
    obtain ⟨n, v⟩ := m
    by_cases hn : n = name
    · subst hn
      simp [insertMember, List.lookup_cons, hb]
    · simp only [insertMember, beq_iff_eq, hn, if_false, List.lookup_cons]
      cases other == n <;> simp [ih]

end Document

end RouteIntake
