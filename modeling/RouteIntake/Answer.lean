import RouteIntake.Conversion

/-!
# Answers

A converted request is answered with the identifiers, the areas and the profile parameters that a
route search uses.  The shapes of the answers stand here as well.
-/

namespace RouteIntake

open Schema

namespace Search

/-- The borders of a search as a document. -/
def bordersDocument (s : Search) : Document :=
  .ofOption (s.avoidBorders.map fun b => .text b.name)

/-- The parameters of a search as they are reported. -/
def parametersReport (s : Search) : Document := .ofOption (s.parameters.map Parameters.report)

/-- The identifiers of a search. -/
def identifiers (s : Search) : List (String × Document) :=
  [("profile_type", .integer s.profile),
   ("vehicle_type", .integer s.vehicle),
   ("avoid_features", .integer s.avoidFeatures),
   ("avoid_borders", s.bordersDocument)]

/-- The answer to a request for a profile. -/
def answer (s : Search) (profile : String) : Document :=
  .object ([("profile", .text profile)] ++ s.identifiers ++
    [("avoid_polygons", .array (s.avoidAreas.map Polygon.toDocument)),
     ("profile_params", .ofOption (s.parameters.map Parameters.toDocument))])

/-- A search with its areas. -/
def report (s : Search) : Document :=
  .object (s.identifiers ++
    [("avoid_areas", .array (s.avoidAreas.map Polygon.toDocument)),
     ("has_avoid_areas", .boolean (!s.avoidAreas.isEmpty)),
     ("profile_parameters", s.parametersReport)])

/-- An integer field of a document. -/
def integerField (d : Document) (name : String) : Int :=
  match d.field? name with
  | some (.integer n) => n
  | _ => 0

/-- The search that a validated object describes. -/
def ofDocument (d : Document) : Search where
  profile := integerField d "profile_type"
  vehicle := integerField d "vehicle_type"
  avoidFeatures := integerField d "avoid_features"
  avoidBorders := ((d.fieldOrNull "avoid_borders").text?).map Borders.ofWord
  avoidAreas := []
  parameters :=
    (d.fieldOrNull "profile_parameters").toOption.map (Parameters.ofDocument .base)

end Search

/-! ## Shapes -/

/-- Nothing in a list. -/
def noItems : Document := .array []

/-- Nothing in a dictionary. -/
def noMembers : Document := .object []

/-- A weighting under the name of a record. -/
def weightingShape (recordName : String) : Shape :=
  .record recordName false
    [requiredField "name" .text, defaultField "parameters" noMembers (.dictionary .text)]

/-- What a limit may be. -/
def Limit.shape : Limit → Shape
  | .length | .width | .height | .weight | .axleload | .maximumSlopedKerb | .minimumWidth =>
    .number []
  | _ => .integer []

/-- The profile parameters of a variant. -/
def Variant.shape (v : Variant) : Shape :=
  .record v.recordName false
    ([defaultField "weightings" noItems (.list 0 (weightingShape "ProfileWeighting")),
      defaultField "weighting_errors" noItems (.list 0 .text)] ++
      v.limits.map fun l => optionalField l.name l.shape)

/-- A polygon. -/
def polygonShape : Shape :=
  .record "GeoJSONPolygon" false
    [defaultField "type" (.text "Polygon") .text,
     requiredField "coordinates" (.list 0 (.list 0 (.list 0 (.number []))))]

/-- The state of the service. -/
def healthShape : Shape :=
  .record "HealthResponse" false
    [defaultField "status" (.text "healthy") .text, defaultField "service" (.text "") .text,
     defaultField "environment" (.text "") .text]

/-- Profile parameters in an answer. -/
def parametersAnswerShape : Shape :=
  .record "ProfileParametersResponse" false
    [requiredField "variant" .text,
     defaultField "restrictions" noMembers (.dictionary .anything),
     defaultField "weightings" noItems (.list 0 (weightingShape "ProfileWeightingResponse")),
     defaultField "weighting_errors" noItems (.list 0 .text)]

/-- The answer to a request. -/
def answerShape : Shape :=
  .record "RouteParametersResponse" false
    [requiredField "profile" .text,
     requiredField "profile_type" (.integer []),
     defaultField "vehicle_type" (.integer 0) (.integer []),
     defaultField "avoid_features" (.integer 0) (.integer []),
     optionalField "avoid_borders" .text,
     defaultField "avoid_polygons" noItems (.list 0 polygonShape),
     optionalField "profile_params" parametersAnswerShape]

/-- A search. -/
def searchShape : Shape :=
  .record "RouteSearchParameters" false
    [defaultField "profile_type" (.integer 0) (.integer []),
     defaultField "vehicle_type" (.integer 0) (.integer []),
     defaultField "avoid_features" (.integer 0) (.integer []),
     optionalField "avoid_borders" (.choice Borders.names),
     defaultField "avoid_areas" noItems (.list 0 (.foreign "Polygon")),
     optionalField "profile_parameters" Variant.base.shape]

/-- The records that can be checked by name. -/
def namedShapes : List Shape :=
  [restrictionsShape, weightingsShape, profileParamsShape, optionsShape, requestShape, bodyShape,
   polygonShape, healthShape, weightingShape "ProfileWeighting",
   weightingShape "ProfileWeightingResponse", parametersAnswerShape, answerShape, searchShape,
   Variant.base.shape, Variant.cycling.shape, Variant.walking.shape, Variant.vehicle.shape,
   Variant.wheelchair.shape]

/-- The record with a name. -/
def shapeNamed? (name : String) : Option Shape := namedShapes.find? fun s => s.name == name

end RouteIntake
