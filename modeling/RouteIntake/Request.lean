import RouteIntake.Parameters
import RouteIntake.Feature
import RouteIntake.Vehicle
import RouteIntake.Borders
import RouteIntake.Schema.Shape

/-!
# Requests

A route request names a profile, coordinates and options.  The shapes here say what is admitted, and
the structures are what is read from an object, validated or not: an option that is absent is null,
and undeclared names are passed over.
-/

namespace RouteIntake

open Schema

/-! ## Shapes -/

/-- A field that may be absent or null. -/
def optionalField (name : String) (shape : Shape) : Field :=
  .mk name (.standard .null) (.optional shape)

/-- A field that has to be there. -/
def requiredField (name : String) (shape : Shape) : Field := .mk name .required shape

/-- A field with a default. -/
def defaultField (name : String) (value : Document) (shape : Shape) : Field :=
  .mk name (.standard value) shape

/-- What a restriction may be. -/
def Restriction.shape : Restriction → Shape
  | gradient => .integer [.atMost 35, .atLeast 1]
  | trailDifficulty => .integer [.atMost 6, .atLeast 0]
  | length => .number [.above 0]
  | width => .number [.above 0]
  | height => .number [.above 0]
  | weight => .number [.above 0]
  | axleload => .number [.above 0]
  | hazmat => .boolean
  | surfaceType => .text
  | trackType => .text
  | smoothnessType => .text
  | maximumSlopedKerb => .number [.atLeast 0]
  | maximumIncline => .integer [.atLeast 0]
  | minimumWidth => .number [.above 0]

/-- What a measure may be. -/
def Measure.shape : Measure → Shape
  | green => .number [.atMost 1, .atLeast 0]
  | quiet => .number [.atMost 1, .atLeast 0]
  | steepnessDifficulty => .integer [.atMost 3, .atLeast 0]

/-- The restrictions of a request. -/
def restrictionsShape : Shape :=
  .record "RequestProfileParamsRestrictions" true
    (Restriction.all.map fun r => optionalField r.name r.shape)

/-- The weightings of a request. -/
def weightingsShape : Shape :=
  .record "RequestProfileParamsWeightings" true
    (Measure.all.map fun m => optionalField m.name m.shape)

/-- The profile parameters of a request. -/
def profileParamsShape : Shape :=
  .record "RequestProfileParams" false
    [optionalField "restrictions" restrictionsShape,
     optionalField "weightings" weightingsShape]

/-- The options of a request. -/
def optionsShape : Shape :=
  .record "RouteRequestOptions" false
    [optionalField "avoid_features" (.list 0 (.choice Feature.names)),
     optionalField "avoid_borders" (.choice Borders.requestable),
     optionalField "vehicle_type" (.choice Vehicle.requestable),
     optionalField "profile_params" profileParamsShape,
     optionalField "avoid_polygons" (.dictionary .anything)]

/-- Options with nothing set. -/
def noOptions : Document :=
  .object [("avoid_features", .null), ("avoid_borders", .null), ("vehicle_type", .null),
    ("profile_params", .null), ("avoid_polygons", .null)]

/-- The fields of a request without its profile. -/
def bodyFields : List Field :=
  [requiredField "coordinates" (.list 2 (.list 0 (.number []))),
   defaultField "options" noOptions optionsShape]

/-- What the profile of a request may be. -/
def profileShape : Shape := .choice Profile.requestable

/-- A request with its profile. -/
def requestShape : Shape :=
  .record "RouteRequest" false (requiredField "profile" profileShape :: bodyFields)

/-- A request whose profile comes from elsewhere. -/
def bodyShape : Shape := .record "RouteRequestBody" false bodyFields

/-! ## What is read from a request -/

/-- The profile parameters of a request. -/
structure ProfileParams where
  /-- The restrictions, if there are any. -/
  restrictions : Option Restrictions
  /-- The weightings, if there are any. -/
  weightings : Option Weightings

/-- Reads the profile parameters that an object names. -/
def ProfileParams.ofDocument (d : Document) : ProfileParams where
  restrictions := (d.fieldOrNull "restrictions").toOption.map Restrictions.ofDocument
  weightings := (d.fieldOrNull "weightings").toOption.map Weightings.ofDocument

/-- The options of a request; null stands for nothing. -/
structure Options where
  /-- The features to avoid. -/
  avoidFeatures : Document
  /-- The borders to avoid. -/
  avoidBorders : Document
  /-- The kind of vehicle. -/
  vehicleType : Document
  /-- The parameters of the profile. -/
  profileParams : Option ProfileParams
  /-- The areas to avoid. -/
  avoidPolygons : Document

/-- Reads the options that an object names. -/
def Options.ofDocument (d : Document) : Options where
  avoidFeatures := d.fieldOrNull "avoid_features"
  avoidBorders := d.fieldOrNull "avoid_borders"
  vehicleType := d.fieldOrNull "vehicle_type"
  profileParams := (d.fieldOrNull "profile_params").toOption.map ProfileParams.ofDocument
  avoidPolygons := d.fieldOrNull "avoid_polygons"

/-- The restrictions of a request, if it has any. -/
def Options.restrictions? (o : Options) : Option Restrictions :=
  o.profileParams.bind ProfileParams.restrictions

/-- The weightings of a request, if it has any. -/
def Options.weightings? (o : Options) : Option Weightings :=
  o.profileParams.bind ProfileParams.weightings

/-- A request as far as it is converted. -/
structure Request where
  /-- The profile. -/
  profile : Document
  /-- The options. -/
  options : Options

/-- Reads the request that an object describes. -/
def Request.ofDocument (d : Document) : Request where
  profile := d.fieldOrNull "profile"
  options := Options.ofDocument (d.fieldOrNull "options")

/-- A request body as a request of the given profile. -/
def withProfile (profile body : Document) : Document :=
  .object (("profile", profile) :: body.members)

end RouteIntake
