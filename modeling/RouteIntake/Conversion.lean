import RouteIntake.Area.Geometry
import RouteIntake.Document.Parts
import RouteIntake.Request
import RouteIntake.Wheelchair

/-!
# Conversion of requests

A request is converted part by part: the profile to its identifier, the vehicle to its identifier,
the features to a set of bits, the areas to polygons, and the restrictions and weightings to profile
parameters.  Each part has a function of its own, which either gives the converted value or the
reason for which the request is rejected; `Request.convert` puts the parts together in a fixed
order, so the first part that is rejected decides.

All of this is done for a handler, which looks up the code of a rejection where it comes up.
-/

namespace RouteIntake

/-! ## Single values -/

/-- Converts the name of a profile to its identifier. -/
def convertProfile (h : Handler) (d : Document) : Except Failure Int :=
  let name := d.plain
  let id := Profile.idOf name
  if id == 0 then h.reject "INVALID_PARAMETER_VALUE" (.unknownValue "profile" name) else .ok id

/-- Converts the kind of vehicle.  Only profiles of heavy vehicles may have one; a kind that no
table has is the vehicle 0. -/
def convertVehicle (h : Handler) (d : Document) (profile : Int) : Except Failure Int :=
  if d.isNull then .ok 0
  else if Profile.category profile == .heavyVehicle then .ok (Vehicle.idOf d.plain)
  else
    h.reject "INVALID_PARAMETER_VALUE"
      (.incompatible "vehicle_type" d.plain "profile" (Profile.nameOf profile))

/-- Converts the borders to avoid. -/
def convertBorders (d : Document) : Option Borders :=
  if d.isNull then none else some (.ofWord d.plain)

/-- Converts one feature to its bit. -/
def convertFeature (h : Handler) (profile : Int) (d : Document) : Except Failure Nat :=
  let name := d.plain
  let flag := Feature.flagOf name
  if flag == 0 then h.reject "INVALID_PARAMETER_VALUE" (.unknownValue "avoid_features" name)
  else if Feature.isValid profile flag then .ok flag
  else
    h.reject "INVALID_PARAMETER_VALUE"
      (.incompatible "avoid_features" name "profile" (Profile.nameOf profile))

/-- Converts features to the set of their bits, from left to right. -/
def convertFeatures (h : Handler) (profile : Int) : List Document → Except Failure Nat
  | [] => .ok 0
  | d :: ds => do
    let flag ← convertFeature h profile d
    let flags ← convertFeatures h profile ds
    .ok (Nat.lor flag flags)

/-- Converts the features to avoid. -/
def convertFeatureList (h : Handler) (d : Document) (profile : Int) : Except Failure Nat :=
  match d.parts with
  | .ok ds => convertFeatures h profile ds
  | .error b => breakDown b

/-! ## Restrictions -/

/-- Refuses restrictions that the category of the profile does not know, all at once. -/
def validateRestrictions (h : Handler) (rs : Restrictions) (profile : Int) :
    Except Failure (List Restriction) :=
  match rs.unknownTo (Profile.category profile) with
  | [] => .ok rs.assigned
  | unknown =>
    h.reject "UNKNOWN_PARAMETER"
      (.unknownRestrictions (unknown.map Restriction.name) (Profile.nameOf profile))

/-- The limits of bicycles and walkers. -/
def trailLimits (rs : Restrictions) : Limits := fun l =>
  match l with
  | .maximumGradient => rs .gradient
  | .maximumTrailDifficulty => rs .trailDifficulty
  | _ => .null

/-- The bit of a hazardous load. -/
def hazardousLoad : Int := 1

/-- The limits of heavy vehicles.  A load counts as hazardous when the restriction holds. -/
def vehicleLimits (rs : Restrictions) : Limits := fun l =>
  match l with
  | .length => rs .length
  | .width => rs .width
  | .height => rs .height
  | .weight => rs .weight
  | .axleload => rs .axleload
  | .loadCharacteristics => if (rs .hazmat).isTruthy then .integer hazardousLoad else .null
  | _ => .null

/-- Whether a request says which vehicle it is for. -/
def namesVehicle (vehicle : Document) : Bool := !vehicle.isNull && !(vehicle.plain == "unknown")

/-- The position of a word in a table as a limit; a word in no table is rejected. -/
def encodeWord (h : Handler) (r : Restriction) (table : List String) (d : Document) :
    Except Failure Document :=
  match d with
  | .null => .ok .null
  | .text s =>
    match Wheelchair.position? table s with
    | some n => .ok (.integer n)
    | none => h.reject "INVALID_PARAMETER_VALUE" (.unknownValue r.name s)
  | .constant family s =>
    match Wheelchair.position? table s with
    | some n => .ok (.integer n)
    | none => h.reject "INVALID_PARAMETER_VALUE" (.unknownConstant r.name family s)
  | d => breakDown (.noProperty d.kindName "strip")

/-- The limits of wheelchairs. -/
def wheelchairLimits (h : Handler) (rs : Restrictions) : Except Failure Limits := do
  let surface ← encodeWord h .surfaceType Wheelchair.surfaces (rs .surfaceType)
  let track ← encodeWord h .trackType Wheelchair.tracks (rs .trackType)
  let smoothness ←
    encodeWord h .smoothnessType Wheelchair.smoothnesses (rs .smoothnessType)
  .ok fun l =>
    match l with
    | .surfaceType => surface
    | .trackType => track
    | .smoothnessType => smoothness
    | .maximumSlopedKerb => rs .maximumSlopedKerb
    | .maximumIncline => rs .maximumIncline
    | .minimumWidth => rs .minimumWidth
    | _ => .null

/-- The limits that restrictions mean for a category of profiles.  The limits of a heavy vehicle
count only when the request says which vehicle it is for. -/
def limitsFor (h : Handler) (rs : Restrictions) (vehicle : Document) :
    Category → Except Failure Limits
  | .driving => .ok Limits.none
  | .heavyVehicle => .ok (if namesVehicle vehicle then vehicleLimits rs else Limits.none)
  | .cycling => .ok (trailLimits rs)
  | .walking => .ok (trailLimits rs)
  | .wheelchair => wheelchairLimits h rs
  | .other => .ok Limits.none

/-- The parameters of a profile under restrictions. -/
def convertRestrictions (h : Handler) (rs : Restrictions) (vehicle : Document) (profile : Int) :
    Except Failure Parameters := do
  let _ ← validateRestrictions h rs profile
  let category := Profile.category profile
  let limits ← limitsFor h rs vehicle category
  .ok { Parameters.empty category.variant with limits := limits }

/-! ## Profile parameters -/

/-- The parameters of a profile before its weightings. -/
def convertLimits (h : Handler) (o : Options) (profile : Int) : Except Failure Parameters := do
  if !o.vehicleType.isNull then
    let _ ← convertVehicle h o.vehicleType profile
  match o.restrictions? with
  | some rs => convertRestrictions h rs o.vehicleType profile
  | none => .ok (.empty .base)

/-- Adds weightings to parameters, if there are any. -/
def applyWeightings (room : Room) (p : Parameters) : Option Weightings → Traced Failure Parameters
  | some ws => do
    let applied ← Weighting.applyAll room ws
    pure (p.add applied)
  | none => pure p

/-- The parameters, once their limits have been put into words for the sake of debugging.  The words
are made even where nobody reads them, so limits that cannot be shown cut the conversion short. -/
def describeLimits (room : Room) (p : Parameters) : Except Failure Parameters :=
  match p.unshowable? room with
  | some b => breakDown b
  | none => .ok p

/-- Converts the profile parameters of a request. -/
def convertParameters (h : Handler) (room : Room) (o : Options) (profile : Int) :
    Traced Failure Parameters := do
  let p ← Traced.ofOutcome (convertLimits h o profile)
  let p ← applyWeightings room p o.weightings?
  Traced.ofOutcome (describeLimits room p)

/-! ## Whole requests -/

/-- What a route search is asked for. -/
structure Search where
  /-- The identifier of the profile. -/
  profile : Int
  /-- The identifier of the vehicle. -/
  vehicle : Int
  /-- The set of features to avoid. -/
  avoidFeatures : Int
  /-- The borders to avoid. -/
  avoidBorders : Option Borders
  /-- The areas to avoid. -/
  avoidAreas : List Polygon
  /-- The parameters of the profile. -/
  parameters : Option Parameters

namespace Search

/-- A search with nothing asked for. -/
def empty : Search := ⟨0, 0, 0, none, [], none⟩

/-- The name of the logger of whole conversions. -/
def logger : String := "routeparams.services.requests.route_handler"

/-- What the log says of a conversion. -/
def line (s : Search) : LogLine :=
  ⟨logger, .info,
    "Converted " ++ Profile.nameOf s.profile ++ " request: vehicle_type=" ++ toString s.vehicle ++
      " avoid_features=" ++ toString s.avoidFeatures ++ " avoid_areas=" ++
      toString s.avoidAreas.length⟩

end Search

/-- The features of a request: nothing where the option is empty. -/
def convertAvoidFeatures (h : Handler) (d : Document) (profile : Int) : Except Failure Nat :=
  if d.isTruthy then convertFeatureList h d profile else .ok 0

/-- The areas of a request: nothing where the option is absent. -/
def convertAvoidAreas (h : Handler) (room : Room) (d : Document) :
    Except Failure (List Polygon) :=
  if d.isNull then .ok [] else Area.ofDocument h room d

/-- The parts of a request before its profile parameters, in order. -/
def Request.convertParts (h : Handler) (room : Room) (r : Request) : Except Failure Search := do
  let profile ← convertProfile h r.profile
  let vehicle ← convertVehicle h r.options.vehicleType profile
  let features ← convertAvoidFeatures h r.options.avoidFeatures profile
  let areas ← convertAvoidAreas h room r.options.avoidPolygons
  .ok ⟨profile, vehicle, (features : Nat), convertBorders r.options.avoidBorders, areas, none⟩

/-- Converts a request. -/
def Request.convert (h : Handler) (room : Room) (r : Request) : Traced Failure Search := do
  let s ← Traced.ofOutcome (r.convertParts h room)
  let p ← convertParameters h room r.options s.profile
  let s := { s with parameters := some p }
  Traced.say s.line
  pure s

/-- Converts a request with a handler: only a handler of routes converts whole requests. -/
def Handler.convertRequest (h : Handler) (room : Room) (r : Request) : Traced Failure Search :=
  match h.kind with
  | .generic => .ofOutcome (breakDown (.noProperty h.kind.name "convert_route_request"))
  | .route => r.convert h room

end RouteIntake
