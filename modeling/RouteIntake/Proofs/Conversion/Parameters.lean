import RouteIntake.Conversion
import RouteIntake.Proofs.Outcome
import RouteIntake.Proofs.Request.Valid

/-!
# The conversion of profile parameters, step by step

Profile parameters are converted in a fixed order: the vehicle is looked at, unknown restrictions
are refused, the restrictions become limits, the weightings are added, and the limits are put into
words.  The lemmas here say what each step gives and when, so that nothing after them has to open
the definitions again.  They are the same for all handlers.
-/

namespace RouteIntake

variable {handler : Handler} {room : Room}

/-! ## The vehicle -/

lemma Document.isNull_eq_true {d : Document} : d.isNull = true ↔ d = .null := by
  cases d <;> simp [Document.isNull]

lemma Document.isNull_eq_false {d : Document} : d.isNull = false ↔ d ≠ .null := by
  cases d <;> simp [Document.isNull]

/-- No vehicle is the vehicle 0, whatever the profile. -/
@[simp] lemma convertVehicle_null (profile : Int) :
    convertVehicle handler .null profile = .ok 0 := rfl

/-- For a profile of heavy vehicles every vehicle is looked up. -/
lemma convertVehicle_heavy {d : Document} {profile : Int} (hd : d ≠ .null)
    (hp : Profile.category profile = .heavyVehicle) :
    convertVehicle handler d profile = .ok (Vehicle.idOf d.plain) := by
  simp [convertVehicle, Document.isNull_eq_false.mpr hd, hp]

/-- For any other profile a vehicle is rejected. -/
lemma convertVehicle_light {d : Document} {profile : Int} (hd : d ≠ .null)
    (hp : Profile.category profile ≠ .heavyVehicle) :
    convertVehicle handler d profile =
      handler.reject "INVALID_PARAMETER_VALUE"
        (.incompatible "vehicle_type" d.plain "profile" (Profile.nameOf profile)) := by
  simp [convertVehicle, Document.isNull_eq_false.mpr hd, hp]

/-- A vehicle is converted exactly when there is none or the profile is one of heavy vehicles. -/
lemma exists_convertVehicle_eq_ok {d : Document} {profile : Int} :
    (∃ id, convertVehicle handler d profile = .ok id) ↔
      d = .null ∨ Profile.category profile = .heavyVehicle := by
  by_cases hd : d = .null
  · simp [hd]
  · by_cases hp : Profile.category profile = .heavyVehicle
    · simp [hp, convertVehicle_heavy hd hp]
    · simp [hd, hp, convertVehicle_light hd hp, Handler.reject]

/-- A vehicle is rejected when it is there and the profile is not one of heavy vehicles. -/
lemma convertVehicle_eq_error_iff {d : Document} {profile : Int} {e : Failure} :
    convertVehicle handler d profile = .error e ↔
      d ≠ .null ∧ Profile.category profile ≠ .heavyVehicle ∧
        e = handler.failure "INVALID_PARAMETER_VALUE"
          (.incompatible "vehicle_type" d.plain "profile" (Profile.nameOf profile)) := by
  by_cases hd : d = .null
  · simp [hd]
  · by_cases hp : Profile.category profile = .heavyVehicle
    · simp [hp, convertVehicle_heavy hd hp]
    · simp [hd, hp, convertVehicle_light hd hp, Handler.reject, eq_comm]

/-- A vehicle is only ever rejected for the sake of the profile. -/
lemma convertVehicle_eq_error {d : Document} {profile : Int} {e : Failure}
    (h : convertVehicle handler d profile = .error e) :
    e = handler.failure "INVALID_PARAMETER_VALUE"
      (.incompatible "vehicle_type" d.plain "profile" (Profile.nameOf profile)) :=
  (convertVehicle_eq_error_iff.mp h).2.2

/-! ## Restrictions -/

/-- Restrictions pass when all of them are known. -/
lemma validateRestrictions_known {rs : Restrictions} {profile : Int}
    (h : rs.unknownTo (Profile.category profile) = []) :
    validateRestrictions handler rs profile = .ok rs.assigned := by
  simp [validateRestrictions, h]

/-- Restrictions are refused with the names of all that are not known. -/
lemma validateRestrictions_unknown {rs : Restrictions} {profile : Int}
    (h : rs.unknownTo (Profile.category profile) ≠ []) :
    validateRestrictions handler rs profile =
      handler.reject "UNKNOWN_PARAMETER"
        (.unknownRestrictions ((rs.unknownTo (Profile.category profile)).map Restriction.name)
          (Profile.nameOf profile)) := by
  unfold validateRestrictions
  split
  · contradiction
  · rfl

/-- Known restrictions become the limits of the category, in parameters of its variant. -/
lemma convertRestrictions_known {rs : Restrictions} {vehicle : Document} {profile : Int}
    (h : rs.unknownTo (Profile.category profile) = []) :
    convertRestrictions handler rs vehicle profile =
      (limitsFor handler rs vehicle (Profile.category profile)).map fun ls =>
        { Parameters.empty (Profile.category profile).variant with limits := ls } := by
  rw [convertRestrictions, validateRestrictions_known h, ok_bind]
  cases hl : limitsFor handler rs vehicle (Profile.category profile) with
  | error e => simp [hl, Except.map]
  | ok ls => simp [hl, Except.map]

lemma convertRestrictions_unknown {rs : Restrictions} {vehicle : Document} {profile : Int}
    (h : rs.unknownTo (Profile.category profile) ≠ []) :
    convertRestrictions handler rs vehicle profile =
      handler.reject "UNKNOWN_PARAMETER"
        (.unknownRestrictions ((rs.unknownTo (Profile.category profile)).map Restriction.name)
          (Profile.nameOf profile)) := by
  rw [convertRestrictions, validateRestrictions_unknown h]
  rfl

/-- The vehicle comes first, then the restrictions, if there are any. -/
lemma convertLimits_eq (handler : Handler) (o : Options) (profile : Int) :
    convertLimits handler o profile =
      (convertVehicle handler o.vehicleType profile >>= fun _ =>
        match o.restrictions? with
        | some rs => convertRestrictions handler rs o.vehicleType profile
        | none => .ok (.empty .base)) := by
  unfold convertLimits
  by_cases hv : o.vehicleType = .null
  · rw [hv, convertVehicle_null]
    rfl
  · have hpresent : (!o.vehicleType.isNull) = true := by
      rw [Document.isNull_eq_false.mpr hv, Bool.not_false]
    exact if_pos hpresent

/-- Restrictions that are converted were all known, and the vehicle went with the profile. -/
lemma convertLimits_eq_ok {o : Options} {profile : Int} {rs : Restrictions} {p : Parameters}
    (hrs : o.restrictions? = some rs) (h : convertLimits handler o profile = .ok p) :
    rs.unknownTo (Profile.category profile) = [] ∧
      p.variant = (Profile.category profile).variant ∧
      limitsFor handler rs o.vehicleType (Profile.category profile) = .ok p.limits := by
  rw [convertLimits_eq, bind_eq_ok] at h
  obtain ⟨-, -, h⟩ := h
  simp only [hrs] at h
  by_cases hu : rs.unknownTo (Profile.category profile) = []
  · rw [convertRestrictions_known hu, map_eq_ok] at h
    obtain ⟨ls, hls, rfl⟩ := h
    exact ⟨hu, rfl, hls⟩
  · rw [convertRestrictions_unknown hu] at h
    cases h

/-- Why a word is not accepted: it is in no table, or it is no word at all. -/
lemma encodeWord_eq_error {r : Restriction} {table : List String} {d : Document} {e : Failure}
    (h : encodeWord handler r table d = .error e) :
    (∃ s, d = .text s ∧
        e = handler.failure "INVALID_PARAMETER_VALUE" (.unknownValue r.name s)) ∨
      (∃ family s, d = .constant family s ∧
        e = handler.failure "INVALID_PARAMETER_VALUE" (.unknownConstant r.name family s)) ∨
      (∃ b, e = .brokenDown b) ∧ d ≠ .null ∧ ∀ s, d ≠ .text s := by
  cases d with
  | null => cases h
  | text s =>
    left
    simp only [encodeWord] at h
    split at h
    · cases h
    · exact ⟨s, rfl, (Except.error.inj h).symm⟩
  | constant family s =>
    right; left
    simp only [encodeWord] at h
    split at h
    · cases h
    · exact ⟨family, s, rfl, (Except.error.inj h).symm⟩
  | _ =>
    right; right
    exact ⟨⟨_, (Except.error.inj h).symm⟩, by simp, by simp⟩

/-- Limits fail only with a word of a wheelchair. -/
lemma limitsFor_eq_error {rs : Restrictions} {vehicle : Document} {c : Category} {e : Failure}
    (h : limitsFor handler rs vehicle c = .error e) :
    ∃ r : Restriction, r.shape = .text ∧ ∃ table, encodeWord handler r table (rs r) = .error e := by
  cases c with
  | wheelchair =>
    simp only [limitsFor, wheelchairLimits, bind_eq_error] at h
    rcases h with h | ⟨_, -, h | ⟨_, -, h | ⟨_, -, h⟩⟩⟩
    · exact ⟨.surfaceType, rfl, _, h⟩
    · exact ⟨.trackType, rfl, _, h⟩
    · exact ⟨.smoothnessType, rfl, _, h⟩
    · cases h
  | _ => cases h

/-! ## Weightings -/

/-- A weighting is never rejected.  It breaks the conversion down where its value does, or where the
value has a flaw and cannot be shown. -/
lemma applyOne_eq_error {m : Measure} {d : Document} {e : Failure}
    (h : (Weighting.applyOne room m d).outcome = .error e) :
    ∃ b, e = .brokenDown b ∧ (Weighting.valueText m d = .error b ∨
      d.unshowable? room.texts = some b ∧ ∃ flaw, Weighting.valueText m d = .ok (.error flaw)) := by
  unfold Weighting.applyOne at h
  split at h
  · cases h
  · split at h
    · rename_i b hb
      exact ⟨b, (Except.error.inj h).symm, Or.inl hb⟩
    · cases h
    · rename_i flaw hflaw
      unfold Weighting.leaveOut at h
      split at h
      · rename_i b hb
        exact ⟨b, (Except.error.inj h).symm, Or.inr ⟨hb, flaw, hflaw⟩⟩
      · simp only [Traced.outcome_bind, Traced.outcome_say, ok_bind] at h
        cases h

/-- Weightings fail in one of them. -/
lemma applyEach_eq_error {ws : Weightings} {ms : List Measure} {e : Failure}
    (h : (Weighting.applyEach room ws ms).outcome = .error e) :
    ∃ m ∈ ms, (Weighting.applyOne room m (ws m)).outcome = .error e := by
  induction ms with
  | nil => cases h
  | cons m ms ih =>
    simp only [Weighting.applyEach, Traced.outcome_bind, bind_eq_error] at h
    rcases h with h | ⟨_, -, h | ⟨_, -, h⟩⟩
    · exact ⟨m, List.mem_cons_self, h⟩
    · obtain ⟨m', hm', h⟩ := ih h
      exact ⟨m', List.mem_cons_of_mem _ hm', h⟩
    · cases h

/-- What the weightings of a request add to its parameters; nothing where there are none. -/
def Options.applied (o : Options) (room : Room) : Except Failure Weighting.Applied :=
  match o.weightings? with
  | some ws => (Weighting.applyAll room ws).outcome
  | none => .ok ⟨[], []⟩

/-- A valid value of a measure always adds something, be it nothing. -/
lemma Weightings.Valid.exists_applyOne_eq_ok {ws : Weightings} (h : ws.Valid) (room : Room)
    (m : Measure) :
    ∃ applied, (Weighting.applyOne room m (ws m)).outcome = .ok applied := by
  unfold Weighting.applyOne
  split
  · exact ⟨_, rfl⟩
  · rename_i hm
    obtain ⟨s, hs⟩ := h.exists_valueText (Document.isNull_eq_false.mp (by simpa using hm))
    rw [hs]
    exact ⟨_, rfl⟩

/-- Valid weightings always add something, be it nothing. -/
lemma Options.Valid.exists_applied {o : Options} (h : o.Valid) (room : Room) :
    ∃ a, o.applied room = .ok a := by
  unfold Options.applied
  cases hws : o.weightings? with
  | none => exact ⟨_, rfl⟩
  | some ws =>
    cases ha : (Weighting.applyAll room ws).outcome with
    | ok applied => exact ⟨applied, ha⟩
    | error e =>
      obtain ⟨m, -, he⟩ := applyEach_eq_error ha
      obtain ⟨applied, hok⟩ := (h.weightings ws hws).exists_applyOne_eq_ok room m
      cases hok.symm.trans he

/-! ## Limits in words -/

lemma describeLimits_eq_ok_iff {p q : Parameters} :
    describeLimits room p = .ok q ↔ p.unshowable? room = none ∧ q = p := by
  unfold describeLimits
  cases p.unshowable? room <;> simp [breakDown, eq_comm]

lemma describeLimits_eq_error_iff {p : Parameters} {e : Failure} :
    describeLimits room p = .error e ↔ ∃ b, p.unshowable? room = some b ∧ e = .brokenDown b := by
  unfold describeLimits
  cases p.unshowable? room <;> simp [breakDown, eq_comm]

/-- Weightings do not matter to the words for the limits. -/
@[simp] lemma Parameters.unshowable?_add (p : Parameters) (a : Weighting.Applied) :
    (p.add a).unshowable? room = p.unshowable? room := rfl

/-! ## All parameters -/

/-- Weightings are added to the parameters, and the limits are put into words. -/
lemma outcome_convertParameters (handler : Handler) (room : Room) (o : Options) (profile : Int) :
    (convertParameters handler room o profile).outcome =
      (convertLimits handler o profile >>= fun p => o.applied room >>= fun a =>
        describeLimits room (p.add a)) := by
  rw [convertParameters, Traced.outcome_bind, Traced.outcome_ofOutcome]
  congr 1
  funext p
  rw [Traced.outcome_bind, Options.applied]
  cases o.weightings? with
  | none =>
    have hadd : p.add ⟨[], []⟩ = p := by simp [Parameters.add]
    rw [ok_bind, hadd]
    rfl
  | some ws =>
    simp only [applyWeightings, Traced.outcome_bind]
    cases (Weighting.applyAll room ws).outcome <;> rfl

/-- Converted parameters are the limits with what the weightings add, and the limits can be
shown. -/
lemma convertParameters_eq_ok_iff {o : Options} {profile : Int} {p : Parameters} :
    (convertParameters handler room o profile).outcome = .ok p ↔
      ∃ q a, convertLimits handler o profile = .ok q ∧ o.applied room = .ok a ∧
        q.unshowable? room = none ∧ p = q.add a := by
  simp only [outcome_convertParameters, bind_eq_ok, describeLimits_eq_ok_iff,
    Parameters.unshowable?_add]
  constructor
  · rintro ⟨q, hq, a, ha, hshown, rfl⟩
    exact ⟨q, a, hq, ha, hshown, rfl⟩
  · rintro ⟨q, a, hq, ha, hshown, rfl⟩
    exact ⟨q, hq, a, ha, hshown, rfl⟩

/-- Converted parameters have the variant and the limits that they had before their weightings. -/
lemma convertParameters_eq_ok {o : Options} {profile : Int} {p : Parameters}
    (h : (convertParameters handler room o profile).outcome = .ok p) :
    ∃ q, convertLimits handler o profile = .ok q ∧ p.variant = q.variant ∧ p.limits = q.limits := by
  obtain ⟨q, a, hq, -, -, rfl⟩ := convertParameters_eq_ok_iff.mp h
  exact ⟨q, hq, rfl, rfl⟩

/-- Why parameters are not converted: the vehicle does not go with the profile, restrictions are
not known, a word among known ones is not accepted, a weighting breaks down, or the limits cannot be
shown. -/
lemma convertParameters_eq_error {o : Options} {profile : Int} {e : Failure}
    (h : (convertParameters handler room o profile).outcome = .error e) :
    convertVehicle handler o.vehicleType profile = .error e ∨
      (∃ rs, o.restrictions? = some rs ∧ rs.unknownTo (Profile.category profile) ≠ [] ∧
        convertRestrictions handler rs o.vehicleType profile = .error e) ∨
      (∃ rs, o.restrictions? = some rs ∧ rs.unknownTo (Profile.category profile) = [] ∧
        limitsFor handler rs o.vehicleType (Profile.category profile) = .error e) ∨
      (∃ ws m, o.weightings? = some ws ∧
        (Weighting.applyOne room m (ws m)).outcome = .error e) ∨
      ∃ q b, convertLimits handler o profile = .ok q ∧ q.unshowable? room = some b ∧
        e = .brokenDown b := by
  simp only [outcome_convertParameters, bind_eq_error, describeLimits_eq_error_iff,
    Parameters.unshowable?_add] at h
  rw [convertLimits_eq, bind_eq_error, ← convertLimits_eq] at h
  -- the vehicle, the restrictions, the weightings, the words for the limits
  rcases h with (h | ⟨-, -, h⟩) | ⟨q, hq, h | ⟨-, -, b, hb, rfl⟩⟩
  · exact Or.inl h
  · cases hrs : o.restrictions? with
    | none => simp [hrs] at h
    | some rs =>
      simp only [hrs] at h
      by_cases hu : rs.unknownTo (Profile.category profile) = []
      · refine Or.inr (Or.inr (Or.inl ⟨rs, rfl, hu, ?_⟩))
        rwa [convertRestrictions_known hu, map_eq_error] at h
      · exact Or.inr (Or.inl ⟨rs, rfl, hu, h⟩)
  · rw [Options.applied] at h
    cases hws : o.weightings? with
    | none => simp [hws] at h
    | some ws =>
      simp only [hws] at h
      obtain ⟨m, -, h⟩ := applyEach_eq_error h
      exact Or.inr (Or.inr (Or.inr (Or.inl ⟨ws, m, rfl, h⟩)))
  · exact Or.inr (Or.inr (Or.inr (Or.inr ⟨q, b, hq, hb, rfl⟩)))

end RouteIntake
