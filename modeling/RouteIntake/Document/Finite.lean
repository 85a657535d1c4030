import RouteIntake.Document.Basic

/-!
# Documents without infinities

An answer has no form for a number that is not finite.  `finiteOnly` puts null in its place and
leaves everything else alone; `isFinite` says whether there is none.
-/

namespace RouteIntake.Document

mutual

/-- A document with null in place of numbers that are not finite. -/
def finiteOnly : Document → Document
  | .number x => if x.isFinite then .number x else .null
  | .array ds => .array (finiteItems ds)
  | .object ms => .object (finiteMembers ms)
  | d => d

/-- The items of an array with null in place of numbers that are not finite. -/
def finiteItems : List Document → List Document
  | [] => []
  | d :: ds => finiteOnly d :: finiteItems ds

/-- The members of an object with null in place of numbers that are not finite. -/
def finiteMembers : List (String × Document) → List (String × Document)
  | [] => []
  | (name, d) :: ms => (name, finiteOnly d) :: finiteMembers ms

end

mutual

/-- Whether a document has finite numbers only. -/
def isFinite : Document → Bool
  | .number x => x.isFinite
  | .array ds => itemsFinite ds
  | .object ms => membersFinite ms
  | _ => true

/-- Whether the items of an array have finite numbers only. -/
def itemsFinite : List Document → Bool
  | [] => true
  | d :: ds => isFinite d && itemsFinite ds

/-- Whether the members of an object have finite numbers only. -/
def membersFinite : List (String × Document) → Bool
  | [] => true
  | m :: ms => isFinite m.2 && membersFinite ms

end

end RouteIntake.Document
