import RouteIntake.Proofs.Conversion.Parts
import RouteIntake.Service.Problem

/-!
# What valid requests are rejected for

The choices that validation leaves and the tables that the conversion looks into are written
separately.  They go together: a profile or a feature that validation has let through is never
unknown to the conversion.  `Request.Ground` lists what is left to reject a valid request for, each
with the condition under which it comes up.

The main statement, `Request.convert_grounds`, says that a valid request is rejected on one of these
grounds and on no other, and that it is not converted where there is one.
-/

namespace RouteIntake

open Schema Service

variable {handler : Handler} {room : Room}

/-- The identifier of the profile that a request names. -/
def Request.profileId (r : Request) : Int := Profile.idOf r.profile.plain

/-- What a request may be rejected for by a handler. -/
inductive Request.Ground (handler : Handler) (room : Room) (r : Request) : Reason → Prop
  /-- A vehicle, for a profile that is not one of heavy vehicles. -/
  | vehicle (w : String) (hw : r.options.vehicleType = .text w)
      (hlight : Profile.category r.profileId ≠ .heavyVehicle) :
      Ground handler room r (.incompatible "vehicle_type" w "profile" (Profile.nameOf r.profileId))
  /-- A feature whose bit is none of those that the category of the profile admits. -/
  | feature (ds : List Document) (w : String) (hds : r.options.avoidFeatures = .array ds)
      (hw : .text w ∈ ds)
      (hout : Nat.land (Feature.allowed (Profile.category r.profileId)) (Feature.flagOf w) = 0) :
      Ground handler room r
        (.incompatible "avoid_features" w "profile" (Profile.nameOf r.profileId))
  /-- Restrictions that the category of the profile does not know. -/
  | restrictions (rs : Restrictions) (hrs : r.options.restrictions? = some rs)
      (hu : rs.unknownTo (Profile.category r.profileId) ≠ []) :
      Ground handler room r (.unknownRestrictions
        ((rs.unknownTo (Profile.category r.profileId)).map Restriction.name)
        (Profile.nameOf r.profileId))
  /-- Areas that are not converted on their own. -/
  | areas (code : Document) (reason : Reason) (hthere : r.options.avoidPolygons ≠ .null)
      (h : Area.ofDocument handler room r.options.avoidPolygons =
        .error (.rejected code reason)) : Ground handler room r reason
  /-- A word for the ways of a wheelchair that is not in its table. -/
  | word (rs : Restrictions) (x : Restriction) (s : String)
      (hrs : r.options.restrictions? = some rs) (hx : x.shape = .text) (hs : rs x = .text s)
      (hno : Wheelchair.normalWord s ∉ x.words) (hprofile : r.profile = .text "wheelchair") :
      Ground handler room r (.unknownValue x.name s)

/-! ## Choices and tables -/

/-- Every profile that a request may name has an identifier of its own. -/
lemma Request.Valid.convertProfile_eq {r : Request} (h : r.Valid) :
    convertProfile handler r.profile = .ok r.profileId := by
  obtain ⟨name, hname, hd⟩ := h.profile
  have hknown : ∀ name ∈ Profile.requestable, Profile.idOf name ≠ 0 := by decide +kernel
  have hid : (Profile.idOf name == 0) = false := beq_eq_false_iff_ne.mpr (hknown name hname)
  simp [convertProfile, profileId, hd, Document.plain, hid]

/-- The only profile for wheelchairs that a request may name. -/
lemma Request.Valid.profile_of_wheelchair {r : Request} (h : r.Valid)
    (hc : Profile.category r.profileId = .wheelchair) : r.profile = .text "wheelchair" := by
  obtain ⟨name, hname, hd⟩ := h.profile
  have honly : ∀ name ∈ Profile.requestable,
      Profile.category (Profile.idOf name) = .wheelchair → name = "wheelchair" := by decide +kernel
  rw [profileId, hd] at hc
  rw [hd, honly name hname hc]

/-- The features that validation has let through have names that the conversion knows. -/
lemma Options.Valid.feature {o : Options} (h : o.Valid) {ds : List Document}
    (hds : o.avoidFeatures = .array ds) {d : Document} (hd : d ∈ ds) :
    ∃ w ∈ Feature.names, d = .text w := by
  rcases h.avoidFeatures.optional with hnull | hy
  · rw [hnull] at hds
    cases hds
  · obtain ⟨ds', hds', -, hall⟩ := hy.list
    obtain rfl := Document.array.inj (hds'.symm.trans hds)
    exact (hall d hd).choice

lemma Feature.flagOf_ne_zero {w : String} (hw : w ∈ Feature.names) : Feature.flagOf w ≠ 0 := by
  have hall : ∀ w ∈ Feature.names, Feature.flagOf w ≠ 0 := by decide +kernel
  exact hall w hw

/-! ## Why each part is rejected -/

/-- A feature that the conversion knows is refused when it is outside of what is admitted. -/
lemma Feature.refused_text_iff {w : String} (hw : w ∈ Feature.names) {profile : Int} {e : Failure} :
    Feature.Refused handler profile (.text w) e ↔
      Nat.land (Feature.allowed (Profile.category profile)) (Feature.flagOf w) = 0 ∧
        e = handler.failure "INVALID_PARAMETER_VALUE"
          (.incompatible "avoid_features" w "profile" (Profile.nameOf profile)) := by
  have hlower : ∀ w ∈ names, Text.lower (Document.text w).plain ∈ names := by decide +kernel
  obtain ⟨b, hb⟩ := exists_hasBit_iff.mpr (hlower w hw)
  have hflag : flagOf w = 2 ^ b := hb.flagOf_eq
  have hland : ∀ m : Nat, Nat.land m (2 ^ b) = 0 ↔ m.testBit b = false := by
    intro m
    show m &&& 2 ^ b = 0 ↔ _
    rw [Nat.and_two_pow]
    cases m.testBit b <;> simp
  rw [hflag, hland]
  constructor
  · rintro (h | ⟨c, hc, hout⟩)
    · exact absurd (hlower w hw) h
    · rw [hb.iff_eq.mp hc]
      exact ⟨hout, rfl⟩
  · rintro ⟨hout, rfl⟩
    exact .excluded b hb hout

/-- Features are not converted when one of them is refused. -/
lemma exists_convertFeatures_eq_error {profile : Int} {ds : List Document} {d : Document}
    (hd : d ∈ ds) {e : Failure} (h : Feature.Refused handler profile d e) :
    ∃ e, convertFeatures handler profile ds = .error e := by
  cases hds : convertFeatures handler profile ds with
  | error e => exact ⟨e, rfl⟩
  | ok flags =>
    obtain ⟨b, hb, hin⟩ := (convertFeatures_eq_ok_iff.mp hds).1 d hd
    have hok : convertFeature handler profile d = .ok (2 ^ b) :=
      convertFeature_eq_ok_iff.mpr ⟨b, hb, hin, rfl⟩
    rw [convertFeature_eq_error_iff_refused.mpr h] at hok
    cases hok

/-- Limits fail for a word of a wheelchair in a table of its own. -/
lemma wheelchairLimits_eq_error {rs : Restrictions} {e : Failure}
    (h : wheelchairLimits handler rs = .error e) :
    ∃ x : Restriction, x.shape = .text ∧ encodeWord handler x x.words (rs x) = .error e := by
  simp only [wheelchairLimits, bind_eq_error] at h
  rcases h with h | ⟨_, -, h | ⟨_, -, h | ⟨_, -, h⟩⟩⟩
  · exact ⟨.surfaceType, rfl, h⟩
  · exact ⟨.trackType, rfl, h⟩
  · exact ⟨.smoothnessType, rfl, h⟩
  · cases h

lemma encodeWord_text_eq_error_iff {x : Restriction} {s : String} {e : Failure} :
    encodeWord handler x x.words (.text s) = .error e ↔
      Wheelchair.normalWord s ∉ x.words ∧
        e = handler.failure "INVALID_PARAMETER_VALUE" (.unknownValue x.name s) := by
  have hmem : Wheelchair.normalWord s ∈ x.words ↔
      (Wheelchair.position? x.words s).isSome = true := by
    rw [Wheelchair.position?, Option.isSome_map, List.isSome_idxOf?]
  rw [hmem, encodeWord]
  cases Wheelchair.position? x.words s <;> simp [Handler.reject, eq_comm]

/-! ## Rejections and grounds -/

/-- A valid request is rejected on one of its grounds. -/
lemma Request.Valid.ground_of_rejected {r : Request} (h : r.Valid) {code : Document}
    {reason : Reason} (he : (r.convert handler room).outcome = .error (.rejected code reason)) :
    r.Ground handler room reason := by
  simp only [Request.outcome_convert, Request.convertParts, bind_assoc, ok_bind,
    h.convertProfile_eq] at he
  rcases bind_eq_error.mp he with he | ⟨_, hvehicle, he⟩
  · -- the vehicle
    obtain ⟨hd, hlight, he⟩ := convertVehicle_eq_error_iff.mp he
    obtain rfl := Handler.eq_of_failure_eq_rejected he.symm
    obtain ⟨w, -, hw⟩ := h.options.vehicle.resolve_left hd
    rw [hw]
    exact .vehicle w hw hlight
  rcases bind_eq_error.mp he with he | ⟨_, -, he⟩
  · -- the features
    have hd : r.options.avoidFeatures ≠ .null := by
      intro hd
      rw [hd] at he
      cases he
    rw [h.options.convertAvoidFeatures_eq hd] at he
    obtain ⟨ds, hds, -⟩ := (h.options.avoidFeatures.optional.resolve_left hd).list
    rw [hds] at he
    obtain ⟨d, hmem, he⟩ := exists_refused_of_convertFeatures he
    obtain ⟨w, hname, rfl⟩ := h.options.feature hds hmem
    obtain ⟨hout, he⟩ := (Feature.refused_text_iff hname).mp he
    obtain rfl := Handler.eq_of_failure_eq_rejected he.symm
    exact .feature ds w hds hmem hout
  rcases bind_eq_error.mp he with he | ⟨_, -, he⟩
  · -- the areas
    have hd : r.options.avoidPolygons ≠ .null := by
      intro hd
      rw [hd] at he
      cases he
    rw [convertAvoidAreas_eq hd] at he
    exact .areas code reason hd he
  rcases bind_eq_error.mp he with he | ⟨_, -, he⟩
  · -- the profile parameters
    rcases convertParameters_eq_error he with he | ⟨rs, hrs, hu, he⟩ | ⟨rs, hrs, -, he⟩ |
      ⟨ws, m, -, he⟩ | ⟨_, _, -, -, he⟩
    · rw [hvehicle] at he
      cases he
    · rw [convertRestrictions_unknown hu] at he
      obtain rfl := Handler.eq_of_failure_eq_rejected (Except.error.inj he)
      exact .restrictions rs hrs hu
    · cases hc : Profile.category r.profileId with
      | wheelchair =>
        rw [hc] at he
        obtain ⟨x, hx, he⟩ := wheelchairLimits_eq_error he
        rcases (h.options.restrictions rs hrs).word hx with hs | ⟨s, hs⟩
        · rw [hs] at he
          cases he
        · rw [hs] at he
          obtain ⟨hno, he⟩ := encodeWord_text_eq_error_iff.mp he
          obtain rfl := Handler.eq_of_failure_eq_rejected he.symm
          exact .word rs x s hrs hx hs hno (h.profile_of_wheelchair hc)
      | _ =>
        rw [hc] at he
        cases he
    · obtain ⟨b, he, -⟩ := applyOne_eq_error he
      cases he
    · cases he
  · cases he

/-- A word for the ways of a wheelchair is a part of the request. -/
lemma Request.exists_fault?_of_word {r : Request} {rs : Restrictions}
    (hrs : r.options.restrictions? = some rs) {x : Restriction} (hx : x.shape = .text) {e : Failure}
    (he : encodeWord handler x x.words (rs x) = .error e) (room : Room) (id : Int) :
    ∃ part, r.fault? handler room id part = some e := by
  have hword : r.options.wordFault? handler x = some e := by
    rw [Options.wordFault?, hrs, Option.bind_some, he]
    rfl
  cases x with
  | surfaceType => exact ⟨.surface, hword⟩
  | trackType => exact ⟨.track, hword⟩
  | smoothnessType => exact ⟨.smoothness, hword⟩
  | _ => simp [Restriction.shape] at hx

/-- A ground is a fault of one of the parts. -/
lemma Request.Valid.exists_fault?_of_ground {r : Request} (h : r.Valid) {reason : Reason}
    (hground : r.Ground handler room reason) :
    ∃ part e, r.fault? handler room r.profileId part = some e := by
  cases hground with
  | vehicle w hw hlight =>
    refine ⟨.vehicle, _, failure?_eq_some_iff.mpr (convertVehicle_light ?_ hlight)⟩
    rw [hw]
    simp
  | feature ds w hds hw hout =>
    obtain ⟨w', hname, he⟩ := h.options.feature hds hw
    obtain rfl := Document.text.inj he
    obtain ⟨e, he⟩ :=
      exists_convertFeatures_eq_error hw ((Feature.refused_text_iff hname).mpr ⟨hout, rfl⟩)
    refine ⟨.features, e, ?_⟩
    rw [fault?, hds]
    exact failure?_eq_some_iff.mpr he
  | restrictions rs hrs hu =>
    have he : r.fault? handler room r.profileId .restrictions =
        failure? (validateRestrictions handler rs r.profileId) := by
      rw [fault?, hrs, Option.bind_some]
    exact ⟨.restrictions, _, he.trans (failure?_eq_some_iff.mpr (validateRestrictions_unknown hu))⟩
  | areas code reason hthere he =>
    refine ⟨.areas, .rejected code reason, ?_⟩
    rw [fault?, Document.isNull_eq_false.mpr hthere, he]
    rfl
  | word rs x s hrs hx hs hno =>
    have he : encodeWord handler x x.words (rs x) =
        .error (handler.failure "INVALID_PARAMETER_VALUE" (.unknownValue x.name s)) := by
      rw [hs]
      exact encodeWord_text_eq_error_iff.mpr ⟨hno, rfl⟩
    obtain ⟨part, hpart⟩ := exists_fault?_of_word hrs hx he room r.profileId
    exact ⟨part, _, hpart⟩

/-- Where there is a ground, a valid request is not converted. -/
lemma Request.Valid.not_converted_of_ground {r : Request} (h : r.Valid) {reason : Reason}
    (hground : r.Ground handler room reason) (s : Search) :
    (r.convert handler room).outcome ≠ .ok s := by
  intro hs
  obtain ⟨part, e, he⟩ := h.exists_fault?_of_ground hground
  have hnone : r.firstFault? handler room = none := by
    rw [← failure?_outcome_convert h.options, hs]
    rfl
  have hpart : part ∈ Part.all := by cases part <;> decide
  have hfine : r.fault? handler room r.profileId part = none :=
    List.findSome?_eq_none_iff.mp hnone part hpart
  rw [hfine] at he
  cases he

/-! ## Errors -/

/-- The errors that valid requests are answered with: the kind of the error, and the parameter that
it is about. -/
def Request.errors : List (ParameterKind × String) :=
  [(.incompatible, "vehicle_type"), (.incompatible, "avoid_features"),
   (.incompatible, "restrictions"), (.badForm, "avoid_polygons"), (.badValue, "avoid_polygons"),
   (.unknownValue, "surface_type"), (.unknownValue, "track_type"),
   (.unknownValue, "smoothness_type")]

/-- The error for a ground is one of those, whatever the codes. -/
lemma Request.Ground.error_mem {r : Request} {reason : Reason}
    (h : r.Ground handler room reason) (code : Document) :
    ∃ g ∈ Request.errors, (ParameterError.ofReason code reason).kind = g.1 ∧
      ((ParameterError.ofReason code reason).parameters.head?).map Prod.fst =
        some (.text g.2) := by
  cases h with
  | vehicle => exact ⟨(.incompatible, "vehicle_type"), by decide, rfl, rfl⟩
  | feature => exact ⟨(.incompatible, "avoid_features"), by decide, rfl, rfl⟩
  | restrictions => exact ⟨(.incompatible, "restrictions"), by decide, rfl, rfl⟩
  | areas _ _ _ h =>
    rcases Area.ofDocument_eq_rejected h with rfl | rfl
    · exact ⟨(.badForm, "avoid_polygons"), by decide, rfl, rfl⟩
    · exact ⟨(.badValue, "avoid_polygons"), by decide, rfl, rfl⟩
  | word rs x s hrs hx =>
    refine ⟨(.unknownValue, x.name), ?_, rfl, rfl⟩
    cases x with
    | surfaceType | trackType | smoothnessType => decide
    | _ => simp [Restriction.shape] at hx

/-- **What valid requests are rejected for.**  The tables know every profile and every feature that
validation lets through.  When the conversion of a validated request is rejected, the reason is one
of its grounds, and the error is one of `Request.errors`, whatever code it is reported under; and
where there is a ground, the request is not converted. -/
theorem Request.convert_grounds {d v : Document} (hv : requestShape.check d = .ok v)
    (handler : Handler) (room : Room) :
    (convertProfile handler (Request.ofDocument v).profile = .ok (Request.ofDocument v).profileId ∧
        ∀ ds, (Request.ofDocument v).options.avoidFeatures = .array ds → ∀ f ∈ ds,
          ∃ w, f = .text w ∧ Feature.flagOf w ≠ 0) ∧
      (∀ code reason,
        ((Request.ofDocument v).convert handler room).outcome = .error (.rejected code reason) →
        (Request.ofDocument v).Ground handler room reason ∧
          ∀ code', ∃ g ∈ Request.errors, (ParameterError.ofReason code' reason).kind = g.1 ∧
            ((ParameterError.ofReason code' reason).parameters.head?).map Prod.fst =
              some (.text g.2)) ∧
      ∀ reason, (Request.ofDocument v).Ground handler room reason →
        ∀ s, ((Request.ofDocument v).convert handler room).outcome ≠ .ok s := by
  have hvalid : (Request.ofDocument v).Valid := Request.valid_of_yields ⟨d, hv⟩
  refine ⟨⟨hvalid.convertProfile_eq, fun ds hds f hf => ?_⟩, fun code reason he => ?_,
    fun reason hground => hvalid.not_converted_of_ground hground⟩
  · obtain ⟨w, hw, rfl⟩ := hvalid.options.feature hds hf
    exact ⟨w, rfl, Feature.flagOf_ne_zero hw⟩
  · have hground := hvalid.ground_of_rejected he
    exact ⟨hground, hground.error_mem⟩

/-- A request for a wheelchair that avoids tollways is rejected for them, for they are outside of
what wheelchairs admit.  A request for ways of lava is not converted, for lava is in no table. -/
theorem Request.convert_grounds_wheelchair :
    (∃ v, requestShape.check
        (wheelchairRequest [.text "ferries", .text "tollways"] .null "gravel") =
        .ok v ∧
      (Request.ofDocument v).Ground (.standard .route) .hundred
        (.incompatible "avoid_features" "tollways" "profile" "wheelchair")) ∧
    ∃ v, requestShape.check (wheelchairRequest [] .null "lava") = .ok v ∧
      ∀ s, ((Request.ofDocument v).convert (.standard .route) .hundred).outcome ≠ .ok s := by
  refine ⟨⟨_, rfl, ?_⟩, _, rfl, ?_⟩
  · obtain ⟨-, hrejected, -⟩ := convert_grounds
      (d := wheelchairRequest [.text "ferries", .text "tollways"] .null "gravel") rfl
      (.standard .route) .hundred
    exact (hrejected _ _ rfl).1
  · obtain ⟨-, -, hground⟩ := convert_grounds (d := wheelchairRequest [] .null "lava") rfl
      (.standard .route) .hundred
    exact hground _ (.word _ .surfaceType "lava" rfl rfl rfl (by decide) rfl)

end RouteIntake
