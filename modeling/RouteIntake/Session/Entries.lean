import RouteIntake.Document.Parts
import RouteIntake.Document.Writer

/-!
# Entries of documents

A document may be used as a table: looked up by a key, taken apart into entries, or given a new
entry.  Keys are documents as well, and a table keeps them as texts.  `entriesOf` says what table a
document makes, and `withEntry` what it is after an entry has been set.
-/

namespace RouteIntake

/-! ## Keys -/

/-- A key as text, for the sake of a table of texts. -/
def keyName (key : Document) : String :=
  match key.text? with
  | some s => s
  | none => String.ofList key.compact

/-- Whether a key can be looked up: a list or an object cannot. -/
def hashable (key : Document) : Except Breakdown Document :=
  match key with
  | .array _ => .error (.unhashable key.kindName)
  | .object _ => .error (.unhashable key.kindName)
  | key => .ok key

/-! ## Documents as tables -/

/-- The entry that a document makes at its place in a list: a key and a value. -/
def entryOf (place : Nat) (d : Document) : Except Breakdown (String × Document) :=
  match d.parts with
  | .error _ => .error (.entryWithoutParts place)
  | .ok [key, value] => (hashable key).map fun key => (keyName key, value)
  | .ok ds => .error (.entryOfParts place ds.length)

/-- The table that the documents of a list make, each at its place from `place` on, after `done`. -/
def entriesFrom (place : Nat) (done : List (String × Document)) :
    List Document → Except Breakdown (List (String × Document))
  | [] => .ok done
  | d :: ds => do
    let (key, value) ← entryOf place d
    entriesFrom (place + 1) (Document.insertMember key value done) ds

/-- The table that a document makes: an object is one, and a list may be a list of entries. -/
def entriesOf (d : Document) : Except Breakdown (List (String × Document)) :=
  match d with
  | .object ms => .ok ms
  | d => do entriesFrom 0 [] (← d.parts)

/-- The place in a list that a key means: a whole number counts from the start, or from the end if
it is negative. -/
def placeOf (key : Document) (size : Nat) : Except Breakdown Nat :=
  let place (n : Int) : Except Breakdown Nat :=
    let n := if n < 0 then n + size else n
    if n < 0 || (size : Int) ≤ n then .error .noSuchPlace else .ok n.toNat
  match key with
  | .integer n => place n
  | .boolean b => place (if b then 1 else 0)
  | key => .error (.notPlace key.kindName)

/-- A document with an entry set: an object under a name, a list at a place. -/
def withEntry (d key value : Document) : Except Breakdown Document :=
  match d with
  | .object ms =>
    (hashable key).map fun key => .object (Document.insertMember (keyName key) value ms)
  | .array ds => (placeOf key ds.length).map fun n => .array (ds.set n value)
  | d => .error (.notAssignable d.kindName)

/-- An object is the table that its members make. -/
@[simp] theorem entriesOf_object (ms : List (String × Document)) :
    entriesOf (.object ms) = .ok ms := rfl

end RouteIntake
