import RouteIntake.Session.Entries
import RouteIntake.Session.Refusal

/-!
# Records of a session

Profile parameters, weightings and searches are records, and a step may set any field of a record to
any document.  So a list is a `Slot`, which may hold a document in its place, and what stands in a
list is `Held`, which may be a document as well.

A report of a record needs its fields to be what they should be.  Where they are not, the report is
cut short, in the order in which it comes to them; the record stays as it is.
-/

namespace RouteIntake

/-! ## Lists and documents in their place -/

/-- Something, or a document in its place. -/
inductive Held (α : Type)
  /-- What should stand here. -/
  | proper (a : α)
  /-- A document that was set. -/
  | document (d : Document)

/-- A list, or a document in its place. -/
inductive Slot (α : Type)
  /-- A list. -/
  | list (items : List (Held α))
  /-- A document that does not grow. -/
  | fixed (d : Document)

namespace Slot

variable {α : Type}

/-- A list of what should stand in it. -/
def ofList (items : List α) : Slot α := .list (items.map .proper)

/-- What a document is as a list. -/
def ofDocument : Document → Slot α
  | .array ds => .list (ds.map .document)
  | d => .fixed d

/-- What stands in a list.  The parts of a document in its place count as set. -/
def items : Slot α → Except Breakdown (List (Held α))
  | .list xs => .ok xs
  | .fixed d => d.parts.map fun ds => ds.map .document

/-- The length of a list, or of a document in its place. -/
def length : Slot α → Except Breakdown Nat
  | .list xs => .ok xs.length
  | .fixed (.object ms) => .ok ms.length
  | .fixed d =>
    match d.text? with
    | some s => .ok (Text.size s.toList)
    | none => .error (.noLength d.kindName)

/-- A list with more items at its end.  `verb` is the word for how they are added. -/
def extend (verb : String) (more : List α) : Slot α → Except Breakdown (Slot α)
  | .list xs => .ok (.list (xs ++ more.map .proper))
  | .fixed d => .error (.noProperty d.kindName verb)

/-- What stands in a slot as a document. -/
def toDocument (f : α → Document) : Slot α → Document
  | .list xs =>
    .array (xs.map fun x =>
      match x with
      | .proper a => f a
      | .document d => d)
  | .fixed d => d

theorem items_extend {verb : String} {slot slot' : Slot α} {more : List α}
    (h : slot.extend verb more = .ok slot') :
    slot'.items = slot.items.map (· ++ more.map .proper) := by
  cases slot with
  | list xs => cases h; rfl
  | fixed d => cases h

/-- A list that no document was put into holds what should stand in it. -/
@[simp] theorem items_ofList (xs : List α) :
    (ofList xs).items = .ok (xs.map .proper) := rfl

end Slot

/-! ## Weightings and parameters -/

/-- A weighting with a name in the session. -/
structure NamedWeighting where
  /-- The name of the weighting. -/
  name : Document
  /-- The parameters. -/
  parameters : Document

namespace NamedWeighting

/-- The fields of a weighting. -/
def fields (w : NamedWeighting) : List (String × Document) :=
  [("name", w.name), ("parameters", w.parameters)]

/-- A weighting as it is reported: its parameters have to make a table. -/
def report (w : NamedWeighting) : Except Breakdown Document :=
  (entriesOf w.parameters).map fun ms => .object [("name", w.name), ("parameters", .object ms)]

end NamedWeighting

/-- What was added to parameters as a weighting. -/
inductive WeightingRef
  /-- The weighting in a cell of the session. -/
  | shared (cell : Nat)
  /-- A weighting of the parameters alone. -/
  | own (w : Weighting)
  /-- Something of this kind, which is no weighting. -/
  | stray (kind : String)

/-- Profile parameters whose weightings may be shared. -/
structure SharedParameters where
  /-- The kind of parameters. -/
  variant : Variant
  /-- The limits. -/
  limits : Limits
  /-- The weightings, in order. -/
  weightings : Slot WeightingRef
  /-- Notes of the weightings that were left out. -/
  notes : Slot String

/-- Parameters of their own as shared ones. -/
def SharedParameters.ofParameters (p : Parameters) : SharedParameters :=
  ⟨p.variant, p.limits, .ofList (p.weightings.map .own), .ofList p.notes⟩

/-- The limits of parameters that are set, as a document. -/
def SharedParameters.limitsDocument (p : SharedParameters) : Document :=
  Parameters.limitsDocument { Parameters.empty p.variant with limits := p.limits }

/-! ## Searches -/

/-- A search with a name in the session. -/
structure NamedSearch where
  /-- The identifier of the profile. -/
  profile : Document
  /-- The identifier of the vehicle. -/
  vehicle : Document
  /-- The set of features to avoid. -/
  avoidFeatures : Document
  /-- The borders to avoid. -/
  avoidBorders : Document
  /-- The areas to avoid. -/
  avoidAreas : Slot Polygon
  /-- The parameters of the profile. -/
  parameters : Held (Option Parameters)

namespace NamedSearch

/-- The family of borders. -/
def bordersFamily : String := "AvoidBordersMode"

/-- A search as a named one. -/
def ofSearch (s : Search) : NamedSearch where
  profile := .integer s.profile
  vehicle := .integer s.vehicle
  avoidFeatures := .integer s.avoidFeatures
  avoidBorders := .ofOption (s.avoidBorders.map fun b => .constant bordersFamily b.name)
  avoidAreas := .ofList s.avoidAreas
  parameters := .proper s.parameters

/-- The names of the fields of a search. -/
def fieldNames : List String :=
  ["profile_type", "vehicle_type", "avoid_features", "avoid_borders", "avoid_areas",
   "profile_parameters"]

/-- A search with a field set, whatever is set. -/
def withField (q : NamedSearch) (field : String) (value : Document) : NamedSearch :=
  match field with
  | "profile_type" => { q with profile := value }
  | "vehicle_type" => { q with vehicle := value }
  | "avoid_features" => { q with avoidFeatures := value }
  | "avoid_borders" => { q with avoidBorders := value }
  | "avoid_areas" => { q with avoidAreas := .ofDocument value }
  | "profile_parameters" => { q with parameters := .document value }
  | _ => q

/-- The parameters of a search in the form that `f` gives them. -/
def parametersAs (f : Parameters → Document) (q : NamedSearch) : Except Breakdown Document :=
  match q.parameters with
  | .proper p => .ok (.ofOption (p.map f))
  | .document .null => .ok .null
  | .document d => .error (.noProperty d.kindName "variant")

/-- The fields of a search. -/
def fields (q : NamedSearch) : List (String × Document) :=
  [("profile_type", q.profile), ("vehicle_type", q.vehicle), ("avoid_features", q.avoidFeatures),
   ("avoid_borders", q.avoidBorders), ("avoid_areas", q.avoidAreas.toDocument Polygon.toDocument),
   ("profile_parameters",
    match q.parameters with
    | .proper p => .ofOption (p.map Parameters.report)
    | .document d => d)]

/-- The borders of a search as a text, null for none. -/
def bordersReport (q : NamedSearch) : Except Breakdown Document :=
  match q.avoidBorders with
  | .constant _ s => .ok (.text s)
  | d => if d.isTruthy then .error (.noProperty d.kindName "value") else .ok .null

/-- A search with the number of its areas. -/
def summary (q : NamedSearch) : Except Breakdown Document := do
  let borders ← q.bordersReport
  let areas ← q.avoidAreas.length
  let parameters ← q.parametersAs Parameters.report
  .ok (.object
    [("profile_type", q.profile), ("vehicle_type", q.vehicle),
     ("avoid_features", q.avoidFeatures), ("avoid_borders", borders),
     ("areas", .integer areas), ("has_avoid_areas", .boolean (Nat.blt 0 areas)),
     ("profile_parameters", parameters)])

/-- An area as a document. -/
def areaDocument : Held Polygon → Except Breakdown Document
  | .proper p => .ok p.toDocument
  | .document d => .error (.noProperty d.kindName "__geo_interface__")

/-- The answer with a search for a profile, before it is checked. -/
def answer (q : NamedSearch) (profile : String) : Except Breakdown Document := do
  let parameters ← q.parametersAs Parameters.toDocument
  let borders ← q.bordersReport
  let areas ← (← q.avoidAreas.items).mapM areaDocument
  .ok (.object
    [("profile", .text profile), ("profile_type", q.profile), ("vehicle_type", q.vehicle),
     ("avoid_features", q.avoidFeatures), ("avoid_borders", borders),
     ("avoid_polygons", .array areas), ("profile_params", parameters)])

end NamedSearch

end RouteIntake
