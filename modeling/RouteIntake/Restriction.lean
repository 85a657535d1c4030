import RouteIntake.Document.Basic
import RouteIntake.Profile

/-!
# Restrictions of a request

A request may restrict the ways it takes.  `Restriction` names what can be restricted, in the order
of declaration, and every category of profiles knows some of the restrictions.
-/

namespace RouteIntake

/-- What a request can restrict. -/
inductive Restriction
  /-- The slope. -/
  | gradient
  /-- The difficulty of trails. -/
  | trailDifficulty
  /-- The length of the vehicle. -/
  | length
  /-- The width of the vehicle. -/
  | width
  /-- The height of the vehicle. -/
  | height
  /-- The weight of the vehicle. -/
  | weight
  /-- The load on an axle. -/
  | axleload
  /-- Whether the load is hazardous. -/
  | hazmat
  /-- The worst surface. -/
  | surfaceType
  /-- The worst grade of track. -/
  | trackType
  /-- The worst smoothness. -/
  | smoothnessType
  /-- The height of a sloped kerb. -/
  | maximumSlopedKerb
  /-- The incline. -/
  | maximumIncline
  /-- The width of the way. -/
  | minimumWidth
deriving DecidableEq, Repr

namespace Restriction

/-- The restrictions in the order of declaration. -/
def all : List Restriction :=
  [gradient, trailDifficulty, length, width, height, weight, axleload, hazmat, surfaceType,
   trackType, smoothnessType, maximumSlopedKerb, maximumIncline, minimumWidth]

/-- The name of a restriction. -/
def name : Restriction → String
  | gradient => "gradient"
  | trailDifficulty => "trail_difficulty"
  | length => "length"
  | width => "width"
  | height => "height"
  | weight => "weight"
  | axleload => "axleload"
  | hazmat => "hazmat"
  | surfaceType => "surface_type"
  | trackType => "track_type"
  | smoothnessType => "smoothness_type"
  | maximumSlopedKerb => "maximum_sloped_kerb"
  | maximumIncline => "maximum_incline"
  | minimumWidth => "minimum_width"

theorem mem_all (r : Restriction) : r ∈ all := by cases r <;> decide

theorem name_injective {r s : Restriction} (h : r.name = s.name) : r = s := by
  revert h
  cases r <;> cases s <;> decide

end Restriction

/-- The restrictions that a category of profiles knows. -/
def Category.restrictions : Category → List Restriction
  | .driving => []
  | .heavyVehicle => [.length, .width, .height, .axleload, .weight, .hazmat]
  | .cycling => [.gradient, .trailDifficulty]
  | .walking => [.gradient, .trailDifficulty]
  | .wheelchair =>
    [.surfaceType, .trackType, .smoothnessType, .maximumSlopedKerb, .maximumIncline, .minimumWidth]
  | .other => []

/-- The restrictions of a request: what it says for each, null for nothing. -/
abbrev Restrictions := Restriction → Document

namespace Restrictions

/-- The restrictions that an object names. -/
def ofDocument (d : Document) : Restrictions := fun r => d.fieldOrNull r.name

/-- The restrictions that are set, in the order of declaration. -/
def assigned (rs : Restrictions) : List Restriction :=
  Restriction.all.filter fun r => !(rs r).isNull

/-- The restrictions that are set but not known to a category, in the order of declaration. -/
def unknownTo (rs : Restrictions) (c : Category) : List Restriction :=
  rs.assigned.filter fun r => !c.restrictions.contains r

theorem mem_assigned {rs : Restrictions} {r : Restriction} :
    r ∈ rs.assigned ↔ (rs r).isNull = false := by
  simp [assigned, Restriction.mem_all]

end Restrictions

end RouteIntake
