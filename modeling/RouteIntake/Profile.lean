import RouteIntake.Text.Case

/-!
# Routing profiles

A profile is a means of travel with an identifier; `Profile.table` lists them.  Every integer has a
`Category`, which decides the restrictions and the features a request may use: an identifier outside
the table is in the category `other`.
-/

namespace RouteIntake

open Text

/-- The kinds of travel that profiles fall into. -/
inductive Category
  /-- Cars and motorcycles. -/
  | driving
  /-- Goods, emergency and off-road vehicles. -/
  | heavyVehicle
  /-- Bicycles. -/
  | cycling
  /-- On foot. -/
  | walking
  /-- Wheelchairs. -/
  | wheelchair
  /-- Not a known profile. -/
  | other
deriving DecidableEq, Repr

namespace Category

/-- All categories. -/
def all : List Category := [driving, heavyVehicle, cycling, walking, wheelchair, other]

/-- The name of a category. -/
def name : Category → String
  | driving => "driving"
  | heavyVehicle => "heavy_vehicle"
  | cycling => "cycling"
  | walking => "walking"
  | wheelchair => "wheelchair"
  | other => "other"

/-- The category with a name. -/
def ofName? (s : String) : Option Category := all.find? fun c => c.name == s

theorem ofName?_name (c : Category) : ofName? c.name = some c := by cases c <;> rfl

end Category

namespace Profile

/-- The profiles by name, with their identifiers. -/
def table : List (String × Int) :=
  [("driving-car", 1), ("driving-hgv", 2), ("driving-emergency", 3), ("driving-offroad", 4),
   ("driving-segway", 5), ("driving-ecar", 6), ("driving-motorcycle", 7), ("driving-traffic", 8),
   ("cycling-regular", 10), ("cycling-mountain", 11), ("cycling-road", 12), ("cycling-tour", 14),
   ("cycling-electric", 17), ("foot-walking", 20), ("foot-hiking", 21), ("foot-jogging", 24),
   ("wheelchair", 30)]

/-- The profiles that a request may name. -/
def requestable : List String :=
  ["driving-car", "driving-hgv", "cycling-regular", "cycling-road", "cycling-mountain",
   "cycling-electric", "foot-walking", "foot-hiking", "wheelchair"]

/-- The identifier of a profile, its name in any letter case; zero for an unknown name. -/
def idOf (name : String) : Int := (table.lookup (lower name)).getD 0

/-- The name of a profile. -/
def nameOf (id : Int) : String :=
  match table.find? fun entry => entry.2 == id with
  | some entry => entry.1
  | none => "unknown"

/-- Whether an identifier is in the table. -/
def isKnown (id : Int) : Bool := table.any fun entry => entry.2 == id

/-- The profiles of heavy vehicles. -/
def heavy : List Int := [2, 3, 4]

/-- The category of a profile. -/
def category (id : Int) : Category :=
  if heavy.contains id then .heavyVehicle
  else if !isKnown id then .other
  else if id < 10 then .driving
  else if id < 20 then .cycling
  else if id < 30 then .walking
  else .wheelchair

/-- Whether the profile travels on roads by motor, heavy vehicles included. -/
def isDriving (id : Int) : Bool :=
  category id == .driving || category id == .heavyVehicle

/-- Every profile that a request may name is in the table. -/
theorem requestable_known : ∀ name ∈ requestable, isKnown (idOf name) = true := by
  decide +kernel

end Profile

end RouteIntake
