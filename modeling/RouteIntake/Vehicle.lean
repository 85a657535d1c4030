import RouteIntake.Text.Case

/-!
# Heavy vehicles

The kinds of heavy vehicle have identifiers.  A request names a kind, or the word `unknown`; only
profiles of heavy vehicles may.
-/

namespace RouteIntake

open Text

namespace Vehicle

/-- The vehicles by name, with their identifiers. -/
def table : List (String × Int) :=
  [("goods", 1), ("hgv", 2), ("bus", 4), ("agricultural", 8), ("forestry", 16), ("delivery", 32)]

/-- The vehicles that a request may name. -/
def requestable : List String :=
  ["hgv", "bus", "agricultural", "delivery", "forestry", "goods", "unknown"]

/-- The identifier of a vehicle, its name in any letter case; zero for an unknown name. -/
def idOf (name : String) : Int := (table.lookup (lower name)).getD 0

end Vehicle

end RouteIntake
