import RouteIntake.Proofs.Area.Faults
import RouteIntake.Proofs.Feature.Union
import RouteIntake.Proofs.Restriction.Shown

/-!
# Which valid requests are not answered

A conversion either gives a search, or rejects the request, or is cut short.  Validation rules out
nearly everything that could cut it short: features are lists, words are texts, and measures are
numbers by then.  Two things are left.  Areas are not looked into before they are converted, and an
incline may have more digits than can be put into words.  A handler has a registry of codes here;
without one every rejection is cut short as well.

* `Request.convert_eq_brokenDown_iff`: the conversion of a valid request is cut short exactly when
  nothing before its areas is rejected and the areas are cut short, or when all is converted and an
  incline has too many digits.
-/

namespace RouteIntake

open Schema

variable {handler : Handler} {kind : HandlerKind} {codes : ErrorCodes} {room : Room}

/-! ## Why single steps fail -/

lemma convertProfile_eq_error {d : Document} {e : Failure}
    (h : convertProfile handler d = .error e) :
    e = handler.failure "INVALID_PARAMETER_VALUE" (.unknownValue "profile" d.plain) := by
  simp only [convertProfile] at h
  split at h
  · exact (Except.error.inj h).symm
  · cases h

/-! ## Steps that are never cut short -/

lemma convertProfile_ne_brokenDown {d : Document} {b : Breakdown} :
    convertProfile (.withCodes kind codes) d ≠ .error (.brokenDown b) := by
  intro h
  cases convertProfile_eq_error h

lemma convertVehicle_ne_brokenDown {d : Document} {profile : Int} {b : Breakdown} :
    convertVehicle (.withCodes kind codes) d profile ≠ .error (.brokenDown b) := by
  intro h
  cases convertVehicle_eq_error h

lemma convertFeatures_ne_brokenDown {ds : List Document} {profile : Int} {b : Breakdown} :
    convertFeatures (.withCodes kind codes) profile ds ≠ .error (.brokenDown b) := by
  intro h
  obtain ⟨d, -, h⟩ := exists_refused_of_convertFeatures h
  cases h

/-- Features that validation has let through are a list. -/
lemma Options.Valid.convertAvoidFeatures_ne_brokenDown {o : Options} (h : o.Valid) {profile : Int}
    {b : Breakdown} :
    convertAvoidFeatures (.withCodes kind codes) o.avoidFeatures profile ≠
      .error (.brokenDown b) := by
  unfold convertAvoidFeatures
  rcases h.avoidFeatures.optional with hd | hy
  · simp [hd, Document.isTruthy]
  · obtain ⟨ds, hd, -⟩ := hy.list
    rw [hd]
    split
    · exact convertFeatures_ne_brokenDown
    · simp

/-! ## Profile parameters -/

/-- The profile parameters of valid options are cut short when their limits are converted and an
incline has too many digits. -/
lemma Options.Valid.convertParameters_eq_brokenDown_iff {o : Options} (h : o.Valid) {profile : Int}
    {b : Breakdown} :
    (convertParameters (.withCodes kind codes) room o profile).outcome = .error (.brokenDown b) ↔
      (∃ q, convertLimits (.withCodes kind codes) o profile = .ok q) ∧ o.HasLongIncline ∧
        b = .textTooLong := by
  constructor
  · intro hp
    -- validation rules out a word that is no text and a weighting that breaks the conversion down
    rcases convertParameters_eq_error hp with
      he | ⟨rs, -, hu, he⟩ | ⟨rs, hrs, -, he⟩ | ⟨ws, m, hws, he⟩ | ⟨q, b', hq, hb, he⟩
    · exact absurd he convertVehicle_ne_brokenDown
    · rw [convertRestrictions_unknown hu] at he
      cases he
    · obtain ⟨r, hword, table, he⟩ := limitsFor_eq_error he
      rcases encodeWord_eq_error he with ⟨_, -, he⟩ | ⟨_, _, -, he⟩ | ⟨-, hnull, htext⟩
      · cases he
      · cases he
      · rcases (h.restrictions rs hrs).word hword with hd | ⟨s, hd⟩
        · exact absurd hd hnull
        · exact absurd hd (htext s)
    · obtain ⟨applied, ha⟩ := (h.weightings ws hws).exists_applyOne_eq_ok room m
      cases ha.symm.trans he
    · obtain ⟨rfl, hlong⟩ := (Options.unshowable?_eq_some_iff h.restrictions hq).mp hb
      exact ⟨⟨q, hq⟩, hlong, Failure.brokenDown.inj he⟩
  · rintro ⟨⟨q, hq⟩, hlong, rfl⟩
    obtain ⟨applied, ha⟩ := h.exists_applied room
    have hb : q.unshowable? room = some .textTooLong :=
      (Options.unshowable?_eq_some_iff h.restrictions hq).mpr ⟨rfl, hlong⟩
    rw [outcome_convertParameters, hq, ok_bind, ha, ok_bind, describeLimits_eq_error_iff]
    exact ⟨_, hb, rfl⟩

/-! ## Whole requests -/

/-- What cuts the conversion of a request short. -/
inductive Request.CutShort (handler : Handler) (room : Room) (r : Request) : Breakdown → Prop
  /-- The parts before its areas are converted, and the areas are cut short. -/
  | areas {profile vehicle : Int} {features : Nat} {b : Breakdown}
    (hprofile : convertProfile handler r.profile = .ok profile)
    (hvehicle : convertVehicle handler r.options.vehicleType profile = .ok vehicle)
    (hfeatures : convertAvoidFeatures handler r.options.avoidFeatures profile = .ok features)
    (hareas : Area.CutShort room.areas r.options.avoidPolygons b) : CutShort handler room r b
  /-- The parts and the limits are converted, and an incline has too many digits for a text. -/
  | limits {s : Search} {q : Parameters} (hparts : r.convertParts handler room = .ok s)
    (hlimits : convertLimits handler r.options s.profile = .ok q)
    (hlong : r.options.HasLongIncline) : CutShort handler room r .textTooLong

/-- The areas of a request are cut short when they are there and cut short. -/
lemma convertAvoidAreas_eq_brokenDown_iff {d : Document} {b : Breakdown} :
    convertAvoidAreas (.withCodes kind codes) room d = .error (.brokenDown b) ↔
      Area.CutShort room.areas d b := by
  have hareas : Area.ofDocument (.withCodes kind codes) room d = .error (.brokenDown b) ↔
      Area.CutShort room.areas d b := Area.ofDocument_eq_brokenDown_iff
  rw [← hareas, convertAvoidAreas]
  cases d with
  | null =>
    simp [Document.isNull, Area.ofDocument, Document.field?, Area.unreadable, Handler.reject]
  | _ => simp [Document.isNull]

/-- The conversion of the parts is cut short in the areas only. -/
lemma Request.convertParts_eq_brokenDown_iff {r : Request} (h : r.options.Valid) {b : Breakdown} :
    r.convertParts (.withCodes kind codes) room = .error (.brokenDown b) ↔
      ∃ profile vehicle features, convertProfile (.withCodes kind codes) r.profile = .ok profile ∧
        convertVehicle (.withCodes kind codes) r.options.vehicleType profile = .ok vehicle ∧
        convertAvoidFeatures (.withCodes kind codes) r.options.avoidFeatures profile =
          .ok features ∧
        Area.CutShort room.areas r.options.avoidPolygons b := by
  simp only [convertParts, bind_eq_error, convertProfile_ne_brokenDown,
    convertVehicle_ne_brokenDown, h.convertAvoidFeatures_ne_brokenDown, false_or,
    convertAvoidAreas_eq_brokenDown_iff, reduceCtorEq, and_false, exists_false, or_false]
  constructor
  · rintro ⟨profile, hp, vehicle, hv, features, hf, hcut⟩
    exact ⟨profile, vehicle, features, hp, hv, hf, hcut⟩
  · rintro ⟨profile, vehicle, features, hp, hv, hf, hcut⟩
    exact ⟨profile, hp, vehicle, hv, features, hf, hcut⟩

/-- A search is what the parts give, with the profile parameters added. -/
lemma Request.outcome_convert (handler : Handler) (room : Room) (r : Request) :
    (r.convert handler room).outcome =
      (r.convertParts handler room >>= fun s =>
        (convertParameters handler room r.options s.profile).outcome >>= fun p =>
          .ok { s with parameters := some p }) := by
  simp only [convert, Traced.outcome_bind, Traced.outcome_ofOutcome, Traced.outcome_say, ok_bind,
    Traced.outcome_pure]

/-- **When a request cannot be answered.**  The conversion of a valid request is cut short exactly
when its areas are, and no part before them is rejected, or when an incline has too many digits, and
nothing is rejected at all. -/
theorem Request.convert_eq_brokenDown_iff {r : Request} (h : r.Valid) {b : Breakdown} :
    (r.convert (.withCodes kind codes) room).outcome = .error (.brokenDown b) ↔
      r.CutShort (.withCodes kind codes) room b := by
  simp only [outcome_convert, bind_eq_error, convertParts_eq_brokenDown_iff h.options,
    h.options.convertParameters_eq_brokenDown_iff, reduceCtorEq, and_false, exists_false, or_false]
  constructor
  · rintro (⟨profile, vehicle, features, hp, hv, hf, hcut⟩ | ⟨s, hs, ⟨q, hq⟩, hlong, rfl⟩)
    · exact .areas hp hv hf hcut
    · exact .limits hs hq hlong
  · rintro (⟨hp, hv, hf, hcut⟩ | ⟨hs, hq, hlong⟩)
    · exact Or.inl ⟨_, _, _, hp, hv, hf, hcut⟩
    · exact Or.inr ⟨_, hs, ⟨_, hq⟩, hlong, rfl⟩

end RouteIntake
