import RouteIntake.Document.Basic

/-!
# What of a document is told

Members of objects whose names start with `_sa` belong to whoever keeps the object and are not told
to others.  `publicOnly` leaves them out, however deep they stand.
-/

namespace RouteIntake.Document

/-- Whether members with a name are not told. -/
def isPrivateName (name : String) : Bool := ['_', 's', 'a'].isPrefixOf name.toList

mutual

/-- A document without the members that are not told. -/
def publicOnly : Document → Document
  | .array ds => .array (publicItems ds)
  | .object ms => .object (publicMembers ms)
  | d => d

/-- The items of an array without the members that are not told. -/
def publicItems : List Document → List Document
  | [] => []
  | d :: ds => publicOnly d :: publicItems ds

/-- The members of an object without those that are not told. -/
def publicMembers : List (String × Document) → List (String × Document)
  | [] => []
  | (name, d) :: ms =>
    if isPrivateName name then publicMembers ms else (name, publicOnly d) :: publicMembers ms

end

example : isPrivateName "_sa_state" = true ∧ isPrivateName "_s" = false := by decide

end RouteIntake.Document
