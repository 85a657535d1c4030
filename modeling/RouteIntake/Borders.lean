import RouteIntake.Text.Case

/-!
# Borders to avoid

A request avoids all borders, controlled ones, or none.
-/

namespace RouteIntake

open Text

/-- The borders that a route avoids. -/
inductive Borders
  /-- None. -/
  | none
  /-- Borders with controls. -/
  | controlled
  /-- All. -/
  | all
deriving DecidableEq, Repr

namespace Borders

/-- The name of a choice of borders. -/
def name : Borders → String
  | none => "none"
  | controlled => "controlled"
  | all => "all"

/-- The choices in the order in which a request lists them. -/
def requestable : List String := ["all", "controlled", "none"]

/-- The choices in the order in which an answer lists them. -/
def names : List String := ["none", "controlled", "all"]

/-- The choice that a word in any letter case stands for; an unknown word stands for none. -/
def ofWord (s : String) : Borders :=
  let word := lower s
  if word == "all" then all else if word == "controlled" then controlled else none

end Borders

end RouteIntake
