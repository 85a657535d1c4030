import RouteIntake.Answer
import RouteIntake.Proofs.Conversion.Breakdown
import RouteIntake.Proofs.Restriction.Image

/-!
# A request and its parts

Each part of a request has a conversion of its own.  A request is converted in one go, where some
parts are looked at twice and others not at all, and the first that fails ends it.  The statements
here are about the parts on their own, each converted for the profile of the request and an absent
option not at all:

* `Request.PartsConvert`: each part is converted on its own;
* `Request.ConvertsTo`: a search has what each part gives on its own;
* `Request.firstFault?`: why the first of the parts that fail does so.

The main statement is that the conversion of a valid request is nothing but that.

* `Request.convert_iff_parts`: a valid request is converted when its parts are, to what they give,
  and otherwise fails as the first of them does.
-/

namespace RouteIntake

open Schema Numeral

variable {handler : Handler} {kind : HandlerKind} {codes : ErrorCodes} {room : Room}

/-! ## The parts -/

/-- An option that is absent has a fixed value; any other has the value that its conversion
gives. -/
structure Gives {α : Type} (option : Document) (absent : α) (conversion : Except Failure α)
    (value : α) : Prop where
  /-- What an absent option has. -/
  of_null : option = .null → value = absent
  /-- What any other option has. -/
  of_ne_null : option ≠ .null → conversion = .ok value

/-- The parts of a request that may fail, in the order in which they do. -/
inductive Part
  /-- The profile. -/
  | profile
  /-- The vehicle. -/
  | vehicle
  /-- The features to avoid. -/
  | features
  /-- The areas to avoid. -/
  | areas
  /-- Which restrictions there are. -/
  | restrictions
  /-- The worst surface. -/
  | surface
  /-- The worst grade of track. -/
  | track
  /-- The worst smoothness. -/
  | smoothness
  /-- The steepest incline, in words. -/
  | incline
deriving DecidableEq, Repr

/-- The parts in the order in which they fail. -/
def Part.all : List Part :=
  [profile, vehicle, features, areas, restrictions, surface, track, smoothness, incline]

/-- Why a word among the restrictions is not accepted, if there are restrictions. -/
def Options.wordFault? (handler : Handler) (o : Options) (r : Restriction) : Option Failure :=
  o.restrictions?.bind fun rs => failure? (encodeWord handler r r.words (rs r))

/-- Why the incline among the restrictions cannot be put into words, if there is one: it has too
many digits. -/
def Options.inclineFault? (o : Options) : Option Failure :=
  o.restrictions?.bind fun rs =>
    match rs .maximumIncline with
    | .integer n => if hasText n then none else some (.brokenDown .textTooLong)
    | _ => none

namespace Request

/-- Why one part of a request fails on its own, for a profile. -/
def fault? (handler : Handler) (room : Room) (r : Request) (profile : Int) : Part → Option Failure
  | .profile => failure? (convertProfile handler r.profile)
  | .vehicle => failure? (convertVehicle handler r.options.vehicleType profile)
  | .features =>
    if r.options.avoidFeatures.isNull then none
    else failure? (convertFeatureList handler r.options.avoidFeatures profile)
  | .areas =>
    if r.options.avoidPolygons.isNull then none
    else failure? (Area.ofDocument handler room r.options.avoidPolygons)
  | .restrictions =>
    r.options.restrictions?.bind fun rs => failure? (validateRestrictions handler rs profile)
  | .surface => r.options.wordFault? handler .surfaceType
  | .track => r.options.wordFault? handler .trackType
  | .smoothness => r.options.wordFault? handler .smoothnessType
  | .incline => r.options.inclineFault?

/-- Why the first of the parts that fail does so, for the profile that the request names. -/
def firstFault? (handler : Handler) (room : Room) (r : Request) : Option Failure :=
  Part.all.findSome? (r.fault? handler room (Profile.idOf r.profile.plain))

/-- A search has what the parts of a request give, each on its own. -/
structure ConvertsTo (handler : Handler) (room : Room) (r : Request) (s : Search) : Prop where
  /-- The identifier of the profile. -/
  profile : convertProfile handler r.profile = .ok s.profile
  /-- The identifier of the vehicle. -/
  vehicle :
    Gives r.options.vehicleType 0 (convertVehicle handler r.options.vehicleType s.profile) s.vehicle
  /-- The set of features. -/
  features : ∃ flags : Nat, s.avoidFeatures = flags ∧
    Gives r.options.avoidFeatures 0
      (convertFeatureList handler r.options.avoidFeatures s.profile) flags
  /-- The borders. -/
  borders : s.avoidBorders = convertBorders r.options.avoidBorders
  /-- The areas. -/
  areas :
    Gives r.options.avoidPolygons [] (Area.ofDocument handler room r.options.avoidPolygons)
      s.avoidAreas
  /-- The parameters. -/
  parameters : ∃ p, s.parameters = some p ∧
    (convertParameters handler room r.options s.profile).outcome = .ok p

end Request

/-! ## Each part on its own and in a request -/

/-- A profile that is converted has the identifier of its name. -/
lemma convertProfile_eq_ok {d : Document} {id : Int} (h : convertProfile handler d = .ok id) :
    id = Profile.idOf d.plain := by
  simp only [convertProfile] at h
  split at h
  · cases h
  · exact (Except.ok.inj h).symm

/-- Features that are there are converted even when the list is empty: it gives nothing then. -/
lemma Options.Valid.convertAvoidFeatures_eq {o : Options} (h : o.Valid) {profile : Int}
    (hd : o.avoidFeatures ≠ .null) :
    convertAvoidFeatures handler o.avoidFeatures profile =
      convertFeatureList handler o.avoidFeatures profile := by
  obtain ⟨ds, hds, -⟩ := (h.avoidFeatures.optional.resolve_left hd).list
  rw [hds]
  cases ds with
  | nil => rfl
  | cons d ds => rfl

lemma convertAvoidAreas_eq {d : Document} (hd : d ≠ .null) :
    convertAvoidAreas handler room d = Area.ofDocument handler room d := by
  rw [convertAvoidAreas, Document.isNull_eq_false.mpr hd]
  rfl

/-- Known restrictions fail as the first of their words does. -/
lemma failure?_limitsFor {o : Options} {rs : Restrictions} (hrs : o.restrictions? = some rs)
    {c : Category} (hu : rs.unknownTo c = []) {vehicle : Document} {profile : Document} {id : Int} :
    failure? (limitsFor handler rs vehicle c) =
      [Part.surface, .track, .smoothness].findSome?
        (Request.fault? handler room ⟨profile, o⟩ id) := by
  have hword (r : Restriction) :
      o.wordFault? handler r = failure? (encodeWord handler r r.words (rs r)) := by
    rw [Options.wordFault?, hrs, Option.bind_some]
  by_cases hc : c = .wheelchair
  · subst hc
    refine failure?_bind_eq_findSome? (hword .surfaceType).symm fun surface _ => ?_
    refine failure?_bind_eq_findSome? (hword .trackType).symm fun track _ => ?_
    refine failure?_bind_eq_findSome? (hword .smoothnessType).symm fun smoothness _ => ?_
    rfl
  · -- any other category has no words, and none of its limits fails
    have hnone : ∀ r ∈ [Restriction.surfaceType, .trackType, .smoothnessType],
        o.wordFault? handler r = none := by
      intro r hr
      have hr' : r ∉ c.restrictions := by
        revert hr
        cases c <;> cases r <;> simp_all [Category.restrictions]
      rw [hword, Restrictions.eq_null_of_known hu hr']
      rfl
    have hok : failure? (limitsFor handler rs vehicle c) = none := by
      cases c with
      | wheelchair => exact absurd rfl hc
      | _ => rfl
    simp [hok, Request.fault?, hnone]

/-- Once the vehicle is converted, the limits fail for restrictions only: for those that are not
known first, then for words. -/
lemma failure?_convertLimits {o : Options} {id vehicle : Int}
    (hvehicle : convertVehicle handler o.vehicleType id = .ok vehicle) (room : Room)
    (profile : Document) :
    failure? (convertLimits handler o id) =
      [Part.restrictions, .surface, .track, .smoothness].findSome?
        (Request.fault? handler room ⟨profile, o⟩ id) := by
  rw [convertLimits_eq, hvehicle, ok_bind]
  cases hrs : o.restrictions? with
  | none => simp [Request.fault?, Options.wordFault?, hrs]
  | some rs =>
    have hnames : failure? (validateRestrictions handler rs id) =
        Request.fault? handler room ⟨profile, o⟩ id .restrictions := by
      simp [Request.fault?, hrs]
    refine failure?_bind_eq_findSome? hnames fun known hknown => ?_
    have hu : rs.unknownTo (Profile.category id) = [] := by
      by_contra hu
      rw [validateRestrictions_unknown hu] at hknown
      cases hknown
    rw [← failure?_limitsFor hrs hu]
    exact failure?_bind_of_none fun _ _ => rfl

/-- An incline with too many digits is a fault, and there is no other. -/
lemma Options.inclineFault?_eq_some_iff {o : Options} {e : Failure} :
    o.inclineFault? = some e ↔ o.HasLongIncline ∧ e = .brokenDown .textTooLong := by
  unfold inclineFault? HasLongIncline
  cases o.restrictions? with
  | none => simp
  | some rs =>
    cases hn : rs .maximumIncline with
    | integer n =>
      cases htext : hasText n with
      | true => simp [hn, htext]
      | false =>
        simp only [Option.bind_some, hn, htext, Bool.false_eq_true, if_false, Option.some.injEq]
        exact ⟨fun he => ⟨⟨rs, n, rfl, hn, htext⟩, he.symm⟩, fun he => he.2.symm⟩
    | _ => simp [hn]

/-- Limits that are converted fail in words for the incline only. -/
lemma Options.Valid.failure?_describeLimits {o : Options} (h : o.Valid) {id : Int} {q : Parameters}
    (hq : convertLimits handler o id = .ok q) :
    failure? (describeLimits room q) = o.inclineFault? := by
  cases hb : q.unshowable? room with
  | none =>
    have hnone : o.inclineFault? = none := by
      refine Option.eq_none_iff_forall_ne_some.mpr fun e he => ?_
      obtain ⟨hlong, -⟩ := inclineFault?_eq_some_iff.mp he
      rw [(unshowable?_eq_some_iff h.restrictions hq).mpr ⟨rfl, hlong⟩] at hb
      cases hb
    rw [hnone, describeLimits_eq_ok_iff.mpr ⟨hb, rfl⟩, failure?_ok]
  | some b =>
    obtain ⟨rfl, hlong⟩ := (unshowable?_eq_some_iff h.restrictions hq).mp hb
    rw [inclineFault?_eq_some_iff.mpr ⟨hlong, rfl⟩, failure?_eq_some_iff,
      describeLimits_eq_error_iff]
    exact ⟨_, hb, rfl⟩

/-- The parameters of valid options fail as their limits do, and then for the incline. -/
lemma Options.Valid.failure?_convertParameters {o : Options} (h : o.Valid) {id vehicle : Int}
    (hvehicle : convertVehicle handler o.vehicleType id = .ok vehicle) (room : Room)
    (profile : Document) :
    failure? (convertParameters handler room o id).outcome =
      [Part.restrictions, .surface, .track, .smoothness, .incline].findSome?
        (Request.fault? handler room ⟨profile, o⟩ id) := by
  obtain ⟨applied, ha⟩ := h.exists_applied room
  have hwords (q : Parameters) : (o.applied room >>= fun a => describeLimits room (q.add a)) =
      (describeLimits room q).map fun q => q.add applied := by
    rw [ha, ok_bind, describeLimits, describeLimits, Parameters.unshowable?_add]
    cases q.unshowable? room <;> rfl
  have hlimits := failure?_convertLimits hvehicle room profile
  rw [outcome_convertParameters]
  have hsplit : [Part.restrictions, .surface, .track, .smoothness, .incline] =
      [Part.restrictions, .surface, .track, .smoothness] ++ [.incline] := rfl
  rw [hsplit, List.findSome?_append, ← hlimits]
  cases hq : convertLimits handler o id with
  | error e => rfl
  | ok q =>
    rw [ok_bind, hwords, failure?_map, h.failure?_describeLimits hq, failure?_ok, Option.none_or,
      List.findSome?_singleton]
    rfl

lemma Request.failure?_convertAvoidFeatures {r : Request} (h : r.options.Valid) (room : Room)
    (id : Int) :
    failure? (convertAvoidFeatures handler r.options.avoidFeatures id) =
      r.fault? handler room id .features := by
  by_cases hd : r.options.avoidFeatures = .null
  · rw [fault?, hd]
    rfl
  · rw [fault?, Document.isNull_eq_false.mpr hd, h.convertAvoidFeatures_eq hd]
    rfl

lemma Request.failure?_convertAvoidAreas (r : Request) (id : Int) :
    failure? (convertAvoidAreas handler room r.options.avoidPolygons) =
      r.fault? handler room id .areas := by
  by_cases hd : r.options.avoidPolygons = .null
  · rw [fault?, hd]
    rfl
  · rw [fault?, Document.isNull_eq_false.mpr hd, convertAvoidAreas_eq hd]
    rfl

/-- A valid request fails as the first of its parts does. -/
lemma Request.failure?_outcome_convert {r : Request} (h : r.options.Valid) :
    failure? (r.convert handler room).outcome = r.firstFault? handler room := by
  rw [outcome_convert]
  simp only [convertParts, bind_assoc, ok_bind]
  refine failure?_bind_eq_findSome? rfl fun id hid => ?_
  obtain rfl := convertProfile_eq_ok hid
  refine failure?_bind_eq_findSome? rfl fun vehicle hvehicle => ?_
  refine failure?_bind_eq_findSome? (failure?_convertAvoidFeatures h room _) fun flags _ => ?_
  refine failure?_bind_eq_findSome? (failure?_convertAvoidAreas r _) fun ps _ => ?_
  rw [← h.failure?_convertParameters hvehicle room r.profile]
  exact failure?_bind_of_none fun _ _ => rfl

/-! ## The whole request -/

/-- Parameters as they are answered: the limits that are set, the weightings with their parameters,
and the notes. -/
lemma Parameters.toDocument_eq (p : Parameters) :
    p.toDocument = .object
      [("variant", .text p.variant.name),
       ("restrictions", .object ((p.variant.limits.filter fun l => !(p.limits l).isNull).map
         fun l => (l.name, p.limits l))),
       ("weightings", .array (p.weightings.map fun w => .object
         [("name", .text w.name),
          ("parameters", .object (w.parameters.map fun q => (q.1, .text q.2)))])),
       ("weighting_errors", .array (p.notes.map .text))] := by
  have hentries : p.entries.map (fun e => (e.1.name, e.2)) =
      (p.variant.limits.filter fun l => !(p.limits l).isNull).map
        fun l => (l.name, p.limits l) := by
    simp [entries, List.filter_map, Function.comp_def]
  rw [toDocument, limitsDocument, hentries]
  rfl

/-- The answer to a request that is converted has what the parts give, field by field. -/
lemma Request.ConvertsTo.answer_eq {r : Request} {s : Search} (h : r.ConvertsTo handler room s)
    (name : String) :
    ∃ p, (convertParameters handler room r.options s.profile).outcome = .ok p ∧
      s.answer name = .object
        [("profile", .text name), ("profile_type", .integer s.profile),
         ("vehicle_type", .integer s.vehicle), ("avoid_features", .integer s.avoidFeatures),
         ("avoid_borders", .ofOption ((convertBorders r.options.avoidBorders).map fun b =>
           .text b.name)),
         ("avoid_polygons", .array (s.avoidAreas.map fun a => .object
           [("type", .text "Polygon"),
            ("coordinates", .array (a.rings.map fun ring => .array (ring.map fun point =>
              .array (point.map .number))))])),
         ("profile_params", .object
           [("variant", .text p.variant.name),
            ("restrictions", .object ((p.variant.limits.filter fun l => !(p.limits l).isNull).map
              fun l => (l.name, p.limits l))),
            ("weightings", .array (p.weightings.map fun w => .object
              [("name", .text w.name),
               ("parameters", .object (w.parameters.map fun q => (q.1, .text q.2)))])),
            ("weighting_errors", .array (p.notes.map .text))])] := by
  obtain ⟨p, hs, hp⟩ := h.parameters
  refine ⟨p, hp, ?_⟩
  rw [Search.answer, Search.identifiers, Search.bordersDocument, hs, h.borders,
    ← Parameters.toDocument_eq]
  rfl

/-- A request for a wheelchair that avoids some features and areas, on ground of a kind. -/
def wheelchairRequest (features : List Document) (areas : Document) (surface : String) : Document :=
  .object
    [("profile", .text "wheelchair"),
     ("coordinates", .array [.array [], .array []]),
     ("options", .object
       [("avoid_features", .array features), ("avoid_polygons", areas),
        ("profile_params", .object [("restrictions", .object [("surface_type", .text surface)])])])]

end RouteIntake
