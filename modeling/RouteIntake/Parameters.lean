import RouteIntake.Restriction
import RouteIntake.Weighting

/-!
# Profile parameters

The converted parameters of a profile are limits, weightings that apply and notes of weightings that
were left out.  Which limits there are depends on the variant, and the variant on the category of
the profile.
-/

namespace RouteIntake

/-- The kinds of profile parameters. -/
inductive Variant
  /-- No limits. -/
  | base
  /-- For bicycles. -/
  | cycling
  /-- For walking. -/
  | walking
  /-- For heavy vehicles. -/
  | vehicle
  /-- For wheelchairs. -/
  | wheelchair
deriving DecidableEq, Repr

/-- The limits that profile parameters may hold. -/
inductive Limit
  /-- The steepest slope. -/
  | maximumGradient
  /-- The most difficult trail. -/
  | maximumTrailDifficulty
  /-- The length of the vehicle. -/
  | length
  /-- The width of the vehicle. -/
  | width
  /-- The height of the vehicle. -/
  | height
  /-- The weight of the vehicle. -/
  | weight
  /-- The load on an axle. -/
  | axleload
  /-- A set of properties of the load. -/
  | loadCharacteristics
  /-- The position of the worst surface. -/
  | surfaceType
  /-- The position of the worst track. -/
  | trackType
  /-- The position of the worst smoothness. -/
  | smoothnessType
  /-- The highest sloped kerb. -/
  | maximumSlopedKerb
  /-- The steepest incline. -/
  | maximumIncline
  /-- The narrowest way. -/
  | minimumWidth
deriving DecidableEq, Repr

/-- The name of a limit. -/
def Limit.name : Limit → String
  | maximumGradient => "maximum_gradient"
  | maximumTrailDifficulty => "maximum_trail_difficulty"
  | length => "length"
  | width => "width"
  | height => "height"
  | weight => "weight"
  | axleload => "axleload"
  | loadCharacteristics => "load_characteristics"
  | surfaceType => "surface_type"
  | trackType => "track_type"
  | smoothnessType => "smoothness_type"
  | maximumSlopedKerb => "maximum_sloped_kerb"
  | maximumIncline => "maximum_incline"
  | minimumWidth => "minimum_width"

namespace Variant

/-- The name of a variant. -/
def name : Variant → String
  | base => "base"
  | cycling => "cycling"
  | walking => "walking"
  | vehicle => "vehicle"
  | wheelchair => "wheelchair"

/-- The name of the record that holds parameters of a variant. -/
def recordName : Variant → String
  | base => "ProfileParameters"
  | cycling => "CyclingParameters"
  | walking => "WalkingParameters"
  | vehicle => "VehicleParameters"
  | wheelchair => "WheelchairParameters"

/-- The limits of a variant, in order. -/
def limits : Variant → List Limit
  | base => []
  | cycling => [.maximumGradient, .maximumTrailDifficulty]
  | walking => [.maximumGradient, .maximumTrailDifficulty]
  | vehicle => [.length, .width, .height, .weight, .axleload, .loadCharacteristics]
  | wheelchair =>
    [.surfaceType, .trackType, .smoothnessType, .maximumSlopedKerb, .maximumIncline, .minimumWidth]

end Variant

/-- The variant of a category of profiles. -/
def Category.variant : Category → Variant
  | .driving => .base
  | .heavyVehicle => .vehicle
  | .cycling => .cycling
  | .walking => .walking
  | .wheelchair => .wheelchair
  | .other => .base

/-- Values for limits, null for none. -/
abbrev Limits := Limit → Document

namespace Limits

/-- No limit at all. -/
def none : Limits := fun _ => .null

/-- The limits with one more bound to a value. -/
def set (ls : Limits) (l : Limit) (d : Document) : Limits := fun k => if k = l then d else ls k

@[simp] theorem set_self (ls : Limits) (l : Limit) (d : Document) : ls.set l d l = d := by
  simp [set]

theorem set_of_ne (ls : Limits) {l k : Limit} (d : Document) (h : k ≠ l) :
    ls.set l d k = ls k := by
  simp [set, h]

end Limits

/-- The converted parameters of a profile. -/
structure Parameters where
  /-- The kind of parameters, which says what limits there are. -/
  variant : Variant
  /-- The limits. -/
  limits : Limits
  /-- The weightings that apply. -/
  weightings : List Weighting
  /-- Notes of the weightings that were left out. -/
  notes : List String

namespace Parameters

/-- Parameters of a variant with nothing set. -/
def empty (v : Variant) : Parameters := ⟨v, Limits.none, [], []⟩

/-- The limits that are set, in order. -/
def entries (p : Parameters) : List (Limit × Document) :=
  (p.variant.limits.map fun l => (l, p.limits l)).filter fun e => !e.2.isNull

/-- The limits that are set as a document. -/
def limitsDocument (p : Parameters) : Document :=
  .object (p.entries.map fun e => (e.1.name, e.2))

/-- Why the limits cannot be shown, if they cannot: the first of them that cannot be decides. -/
def unshowable? (room : Room) (p : Parameters) : Option Breakdown :=
  p.entries.findSome? fun e => e.2.unshowable? room.texts

/-- The parameters as they are answered. -/
def toDocument (p : Parameters) : Document :=
  .object
    [("variant", .text p.variant.name),
     ("restrictions", p.limitsDocument),
     ("weightings", .array (p.weightings.map Weighting.toDocument)),
     ("weighting_errors", .array (p.notes.map .text))]

/-- The parameters as they are reported: with a word on whether any weighting applies. -/
def report (p : Parameters) : Document :=
  .object (p.toDocument.members ++ [("has_weightings", .boolean (!p.weightings.isEmpty))])

/-- The parameters that a validated object describes. -/
def ofDocument (v : Variant) (d : Document) : Parameters where
  variant := v
  limits := fun l => d.fieldOrNull l.name
  weightings := (d.fieldOrNull "weightings").items.map Weighting.ofDocument
  notes := (d.fieldOrNull "weighting_errors").items.filterMap Document.text?

/-- The parameters with more weightings and notes at the end. -/
def add (p : Parameters) (applied : Weighting.Applied) : Parameters :=
  { p with
    weightings := p.weightings ++ applied.weightings
    notes := p.notes ++ applied.notes }

theorem entries_empty (v : Variant) : (empty v).entries = [] := by
  cases v <;> rfl

end Parameters

end RouteIntake
