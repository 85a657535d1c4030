import RouteIntake.Document.Basic

/-!
# When documents are the same

Two documents are the same when they have the same value: an integer, a number and a boolean are
compared as numbers, a constant as its text, and objects without regard to the order of their
members.  Not a number is not even the same as itself.
-/

namespace RouteIntake.Document

open Numeral

/-- The numerical value of a document, as an integer where it is one. -/
def numeral? : Document → Option (Int ⊕ Binary64)
  | .boolean b => some (.inl (if b then 1 else 0))
  | .integer n => some (.inl n)
  | .number x =>
    match x.toInt? with
    | some n => some (.inl n)
    | none => some (.inr x)
  | _ => none

/-- Whether two numerical values are equal. -/
def sameNumeral : Int ⊕ Binary64 → Int ⊕ Binary64 → Bool
  | .inl m, .inl n => m == n
  | .inr x, .inr y => x.numEq y
  | _, _ => false

/-- Whether two documents without parts are the same. -/
def sameLeaf (a b : Document) : Bool :=
  match a.numeral?, b.numeral? with
  | some x, some y => sameNumeral x y
  | none, none =>
    match a.text?, b.text? with
    | some s, some t => s == t
    | none, none => a.isNull && b.isNull
    | _, _ => false
  | _, _ => false

mutual

/-- Whether two documents are the same. -/
def same : Document → Document → Bool
  | .array ds, .array es => sameItems ds es
  | .object ms, .object ns => ms.length == ns.length && sameMembers ms ns
  | .array _, _ => false
  | .object _, _ => false
  | a, b => sameLeaf a b

/-- Whether the items of two arrays are the same. -/
def sameItems : List Document → List Document → Bool
  | [], [] => true
  | d :: ds, e :: es => same d e && sameItems ds es
  | _, _ => false

/-- Whether an object has the same values as members under their names. -/
def sameMembers : List (String × Document) → List (String × Document) → Bool
  | [], _ => true
  | (name, d) :: ms, ns =>
    (match ns.lookup name with
      | some e => same d e
      | none => false) && sameMembers ms ns

end

end RouteIntake.Document
