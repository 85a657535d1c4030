import RouteIntake.Proofs.Conversion.Bounds
import RouteIntake.Proofs.Conversion.Parts
import RouteIntake.Proofs.Numeral.Same

/-!
# Weightings and the rest of a request

Weightings are added to parameters that are there already, and these may be of any variant.  The
runs of two requests are compared here in both directions: for requests that are the same but for
their weightings (`Request.SameButWeightings`), and for requests that have nothing but their
weightings in common.

Both come down to one description of a run (`Request.outcome_convert_of_applied`): what the
weightings add depends on them alone (`Options.applied`), and what it is added to does not depend on
them.  The main statement is

* `Request.convert_weightings_apart`.

Weightings that are equal are written alike, with one exception: a zero with a sign is equal to one
without, and the text of a factor shows the sign.  `Request.convert_weightings_zeros` is such a
case.
-/

namespace RouteIntake

open Numeral

variable {handler : Handler} {room : Room}

/-! ## What is compared -/

/-- Options that are the same but for the weightings in their profile parameters. -/
structure Options.SameButWeightings (o o' : Options) : Prop where
  /-- The features are the same. -/
  avoidFeatures : o'.avoidFeatures = o.avoidFeatures
  /-- The borders are the same. -/
  avoidBorders : o'.avoidBorders = o.avoidBorders
  /-- The vehicle is the same. -/
  vehicleType : o'.vehicleType = o.vehicleType
  /-- Both have profile parameters, with the same restrictions or none. -/
  profileParams : ∃ p p', o.profileParams = some p ∧ o'.profileParams = some p' ∧
    p'.restrictions = p.restrictions
  /-- The areas are the same. -/
  avoidPolygons : o'.avoidPolygons = o.avoidPolygons

/-- Requests that are the same but for their weightings. -/
structure Request.SameButWeightings (r r' : Request) : Prop where
  /-- The profile is the same. -/
  profile : r'.profile = r.profile
  /-- The options are the same but for the weightings. -/
  options : r.options.SameButWeightings r'.options

/-- Searches that are the same but for the weightings that apply and the notes of those left out. -/
structure Search.SameButWeightings (s s' : Search) : Prop where
  /-- The profile is the same. -/
  profile : s'.profile = s.profile
  /-- The vehicle is the same. -/
  vehicle : s'.vehicle = s.vehicle
  /-- The set of features is the same. -/
  avoidFeatures : s'.avoidFeatures = s.avoidFeatures
  /-- The borders are the same. -/
  avoidBorders : s'.avoidBorders = s.avoidBorders
  /-- The areas are the same. -/
  avoidAreas : s'.avoidAreas = s.avoidAreas
  /-- Both have parameters, of the same variant and with the same limits. -/
  parameters : ∃ p p', s.parameters = some p ∧ s'.parameters = some p' ∧
    p'.variant = p.variant ∧ p'.limits = p.limits

/-- Values that are zeros with different signs. -/
def Document.ZerosApart (d d' : Document) : Prop :=
  ∃ x y, d = .number x ∧ d' = .number y ∧ x.ZerosApart y

/-- Weightings that are the same but for the sign of a factor that is zero. -/
def Weighting.SameButSign (w w' : Weighting) : Prop :=
  w' = w ∨ w'.name = w.name ∧
    (w.parameters = [("factor", "0.00")] ∧ w'.parameters = [("factor", "-0.00")] ∨
      w.parameters = [("factor", "-0.00")] ∧ w'.parameters = [("factor", "0.00")])

/-! ## What weightings add -/

/-- A request whose weightings add something is converted when its parts and its limits are, and the
limits can be put into words. -/
lemma Request.outcome_convert_of_applied {r : Request} {a : Weighting.Applied}
    (ha : r.options.applied room = .ok a) :
    (r.convert handler room).outcome =
      (r.convertParts handler room >>= fun s =>
        (convertLimits handler r.options s.profile >>= describeLimits room).map fun p =>
          { s with parameters := some (p.add a) }) := by
  rw [outcome_convert]
  congr 1
  funext s
  rw [outcome_convertParameters, ha]
  cases convertLimits handler r.options s.profile with
  | error e => rfl
  | ok p =>
    simp only [ok_bind, describeLimits, Parameters.unshowable?_add]
    cases p.unshowable? room <;> rfl

/-- The weightings of a search are just those that the request adds. -/
lemma Request.applied_of_convert {r : Request} {s : Search}
    (h : (r.convert handler room).outcome = .ok s) :
    ∃ p a, s.parameters = some p ∧ r.options.applied room = .ok a ∧ p.weightings = a.weightings ∧
      p.notes = a.notes := by
  rw [outcome_convert, bind_eq_ok] at h
  obtain ⟨s, -, h⟩ := h
  rw [bind_eq_ok] at h
  obtain ⟨p, hp, h⟩ := h
  obtain rfl := Except.ok.inj h
  obtain ⟨q, a, hq, ha, -, rfl⟩ := convertParameters_eq_ok_iff.mp hp
  -- the limits come without weightings and notes
  obtain ⟨hweightings, hnotes⟩ := convertLimits_eq_ok_empty hq
  exact ⟨_, a, rfl, ha, by simp [Parameters.add, hweightings], by simp [Parameters.add, hnotes]⟩

/-! ## What does not depend on weightings -/

lemma Options.SameButWeightings.restrictions? {o o' : Options} (h : o.SameButWeightings o') :
    o'.restrictions? = o.restrictions? := by
  obtain ⟨p, p', hp, hp', hrestrictions⟩ := h.profileParams
  rw [Options.restrictions?, Options.restrictions?, hp, hp']
  exact hrestrictions

/-- The limits do not depend on the weightings. -/
lemma Options.SameButWeightings.convertLimits_eq {o o' : Options} (h : o.SameButWeightings o')
    (profile : Int) : convertLimits handler o' profile = convertLimits handler o profile := by
  rw [RouteIntake.convertLimits_eq, RouteIntake.convertLimits_eq, h.vehicleType, h.restrictions?]

/-- The parts of a request before its parameters do not depend on the weightings. -/
lemma Request.SameButWeightings.convertParts_eq {r r' : Request} (h : r.SameButWeightings r') :
    r'.convertParts handler room = r.convertParts handler room := by
  simp only [convertParts, h.profile, h.options.vehicleType, h.options.avoidFeatures,
    h.options.avoidBorders, h.options.avoidPolygons]

/-- Requests that are the same but for their weightings fail alike, or are converted to searches
that are the same but for the weightings. -/
lemma Request.SameButWeightings.convert {r r' : Request} (h : r.SameButWeightings r')
    (hvalid : r.options.Valid) (hvalid' : r'.options.Valid) :
    (∃ e, (r.convert handler room).outcome = .error e ∧
        (r'.convert handler room).outcome = .error e) ∨
      ∃ s s', (r.convert handler room).outcome = .ok s ∧
        (r'.convert handler room).outcome = .ok s' ∧ s.SameButWeightings s' := by
  obtain ⟨a, ha⟩ := hvalid.exists_applied room
  obtain ⟨a', ha'⟩ := hvalid'.exists_applied room
  rw [outcome_convert_of_applied ha, outcome_convert_of_applied ha', h.convertParts_eq]
  simp only [h.options.convertLimits_eq]
  -- both runs do the same up to here: the parts, then the limits
  cases r.convertParts handler room with
  | error e => exact Or.inl ⟨e, rfl, rfl⟩
  | ok s =>
    simp only [ok_bind]
    cases convertLimits handler r.options s.profile >>= describeLimits room with
    | error e => exact Or.inl ⟨e, rfl, rfl⟩
    | ok p =>
      exact Or.inr ⟨_, _, rfl, rfl,
        { profile := rfl
          vehicle := rfl
          avoidFeatures := rfl
          avoidBorders := rfl
          avoidAreas := rfl
          parameters := ⟨_, _, rfl, rfl, rfl, rfl⟩ }⟩

/-! ## Equal weightings -/

section

variable {m : Measure} {d d' : Document} {text text' : String}

/-- Values of a measure that are the same are written alike, unless they are zeros with different
signs. -/
lemma Measure.text_eq_iff (hd : m.shape.Yields d) (hd' : m.shape.Yields d')
    (hsame : d.same d' = true) (ht : Weighting.valueText m d = .ok (.ok text))
    (ht' : Weighting.valueText m d' = .ok (.ok text')) : text' = text ↔ ¬d.ZerosApart d' := by
  cases m with
  | green | quiet =>
    obtain ⟨x, rfl, -⟩ := hd.number
    obtain ⟨y, rfl, -⟩ := hd'.number
    obtain rfl : x.fixedText = text := Except.ok.inj (Except.ok.inj ht)
    obtain rfl : y.fixedText = text' := Except.ok.inj (Except.ok.inj ht')
    have hapart : (Document.number x).ZerosApart (.number y) ↔ x.ZerosApart y := by
      simp [Document.ZerosApart]
    rw [hapart, eq_comm, Binary64.fixedText_eq_iff (Document.numEq_of_same hsame)]
  | steepnessDifficulty =>
    obtain ⟨n, rfl, -⟩ := hd.integer
    obtain ⟨n', rfl, -⟩ := hd'.integer
    obtain rfl := Document.eq_of_same_integer hsame
    obtain rfl := Except.ok.inj (Except.ok.inj (ht.symm.trans ht'))
    simp [Document.ZerosApart]

/-- The texts of zeros with different signs. -/
lemma Document.ZerosApart.text_eq (h : d.ZerosApart d')
    (ht : Weighting.valueText m d = .ok (.ok text))
    (ht' : Weighting.valueText m d' = .ok (.ok text')) :
    m.parameter = "factor" ∧
      (text = "0.00" ∧ text' = "-0.00" ∨ text = "-0.00" ∧ text' = "0.00") := by
  obtain ⟨x, y, rfl, rfl, hx, hy, hsign⟩ := h
  cases m with
  | green | quiet =>
    obtain rfl : x.fixedText = text := Except.ok.inj (Except.ok.inj ht)
    obtain rfl : y.fixedText = text' := Except.ok.inj (Except.ok.inj ht')
    rw [Binary64.fixedText_of_isZero hx, Binary64.fixedText_of_isZero hy]
    revert hsign
    cases x.isNegative <;> cases y.isNegative <;> decide
  | steepnessDifficulty => cases ht

end

/-- Measures of which two requests say the same are the same ones. -/
lemma Options.measures_of_same {o o' : Options}
    (h : ∀ m, (o.weighting m).same (o'.weighting m) = true) : o'.measures = o.measures := by
  simp only [measures_eq, fun m => Document.isNull_of_same (h m)]

/-- Valid options that say the same of all measures add the same but for the signs of zeros. -/
lemma Options.Valid.applied_of_same {o o' : Options} (hv : o.Valid) (hv' : o'.Valid)
    (h : ∀ m, (o.weighting m).same (o'.weighting m) = true) {a a' : Weighting.Applied}
    (ha : o.applied room = .ok a) (ha' : o'.applied room = .ok a') :
    a'.notes = a.notes ∧ List.Forall₂ Weighting.SameButSign a.weightings a'.weightings ∧
      (a'.weightings = a.weightings ↔
        ∀ m, ¬(o.weighting m).ZerosApart (o'.weighting m)) := by
  obtain ⟨hnotes, text, htext, hwritten⟩ := hv.exists_text ha
  obtain ⟨hnotes', text', htext', hwritten'⟩ := hv'.exists_text ha'
  have hmeasures := measures_of_same h
  rw [hmeasures] at htext' hwritten'
  have hyields' : ∀ m ∈ o.measures, m.shape.Yields (o'.weighting m) :=
    fun m hm => hv'.yields (hmeasures ▸ hm)
  have hiff : ∀ m ∈ o.measures,
      (text' m = text m ↔ ¬(o.weighting m).ZerosApart (o'.weighting m)) := fun m hm =>
    Measure.text_eq_iff (hv.yields hm) (hyields' m hm) (h m) (hwritten m hm) (hwritten' m hm)
  refine ⟨hnotes'.trans hnotes.symm, ?_, ?_⟩
  · rw [htext, htext']
    refine List.forall₂_map_left_iff.mpr (List.forall₂_map_right_iff.mpr
      (List.forall₂_same.mpr fun m hm => ?_))
    by_cases hapart : (o.weighting m).ZerosApart (o'.weighting m)
    · obtain ⟨hfactor, hzeros⟩ := hapart.text_eq (hwritten m hm) (hwritten' m hm)
      rw [hfactor]
      refine Or.inr ⟨rfl, ?_⟩
      rcases hzeros with ⟨hz, hz'⟩ | ⟨hz, hz'⟩
      · exact Or.inl ⟨by rw [hz], by rw [hz']⟩
      · exact Or.inr ⟨by rw [hz], by rw [hz']⟩
    · exact Or.inl (by rw [(hiff m hm).mpr hapart])
  · rw [htext, htext', List.map_inj_left]
    constructor
    · intro heq m hapart
      by_cases hm : m ∈ o.measures
      · have htexts : text' m = text m := by simpa using heq m hm
        exact (hiff m hm).mp htexts hapart
      · -- nothing is said of the measure, so there is no zero
        obtain ⟨x, -, hx, -⟩ := hapart
        rw [measures_eq, List.mem_filter, hx] at hm
        exact hm ⟨by cases m <;> decide, rfl⟩
    · intro hnone m hm
      rw [(hiff m hm).mpr (hnone m)]

/-! ## Both directions -/

/-- **Weightings and the rest do not interfere.**  Let two requests be valid.  If they are the same
but for the weightings in their profile parameters, then both fail in the same way, or both are
converted and the searches are the same but for the weightings that apply and the notes.  If they
say the same of all measures and both are converted, then whatever else they ask for the notes are
equal, and the same weightings apply but for the sign of a factor that is zero; they are equal
exactly when no measure has zeros with different signs in the two requests. -/
theorem Request.convert_weightings_apart {d d' v v' : Document} (hv : requestShape.check d = .ok v)
    (hv' : requestShape.check d' = .ok v') (handler : Handler) (room : Room) :
    ((Request.ofDocument v).SameButWeightings (Request.ofDocument v') →
      (∃ e, ((Request.ofDocument v).convert handler room).outcome = .error e ∧
          ((Request.ofDocument v').convert handler room).outcome = .error e) ∨
        ∃ s s', ((Request.ofDocument v).convert handler room).outcome = .ok s ∧
          ((Request.ofDocument v').convert handler room).outcome = .ok s' ∧
          s.SameButWeightings s') ∧
    ((∀ m, ((Request.ofDocument v).options.weighting m).same
        ((Request.ofDocument v').options.weighting m) = true) →
      ∀ s s', ((Request.ofDocument v).convert handler room).outcome = .ok s →
        ((Request.ofDocument v').convert handler room).outcome = .ok s' →
          ∃ p p', s.parameters = some p ∧ s'.parameters = some p' ∧ p'.notes = p.notes ∧
            List.Forall₂ Weighting.SameButSign p.weightings p'.weightings ∧
            (p'.weightings = p.weightings ↔
              ∀ m, ¬((Request.ofDocument v).options.weighting m).ZerosApart
                ((Request.ofDocument v').options.weighting m))) := by
  have hvalid : (Request.ofDocument v).options.Valid := (valid_of_yields ⟨d, hv⟩).options
  have hvalid' : (Request.ofDocument v').options.Valid := (valid_of_yields ⟨d', hv'⟩).options
  refine ⟨fun h => h.convert hvalid hvalid', fun h s s' hs hs' => ?_⟩
  obtain ⟨p, a, hp, ha, hweightings, hnotes⟩ := applied_of_convert hs
  obtain ⟨p', a', hp', ha', hweightings', hnotes'⟩ := applied_of_convert hs'
  obtain ⟨hsame, hsigns, hiff⟩ := hvalid.applied_of_same hvalid' h ha ha'
  refine ⟨p, p', hp, hp', ?_, ?_, ?_⟩
  · rw [hnotes, hnotes', hsame]
  · rw [hweightings, hweightings']
    exact hsigns
  · rw [hweightings, hweightings', hiff]

/-- A request for a profile with restrictions and weightings. -/
def weighedRequest (profile : String) (restrictions weightings : Document) : Document :=
  .object
    [("profile", .text profile),
     ("coordinates", .array [.array [], .array []]),
     ("options", .object
       [("profile_params", .object
         [("restrictions", restrictions), ("weightings", weightings)])])]

/-- A level for slopes changes nothing but the weightings of a search for bicycles, and it gives the
same weighting for a walk without restrictions, whose parameters are of another variant. -/
theorem Request.convert_weightings_apart_slopes :
    let handler := Handler.standard .route
    ∃ v v' v'' s s' s'' p p'',
      requestShape.check (weighedRequest "cycling-regular" (.object [("gradient", .integer 5)])
        (.object [("steepness_difficulty", .integer 2)])) = .ok v ∧
      requestShape.check (weighedRequest "cycling-regular" (.object [("gradient", .integer 5)])
        .null) = .ok v' ∧
      requestShape.check (weighedRequest "foot-walking" .null
        (.object [("steepness_difficulty", .integer 2)])) = .ok v'' ∧
      ((Request.ofDocument v).convert handler .hundred).outcome = .ok s ∧
      ((Request.ofDocument v').convert handler .hundred).outcome = .ok s' ∧
      ((Request.ofDocument v'').convert handler .hundred).outcome = .ok s'' ∧
      s.SameButWeightings s' ∧ s.parameters = some p ∧ s''.parameters = some p'' ∧
      p.variant = .cycling ∧ p''.variant = .base ∧
      p.weightings = [⟨"steepness_difficulty", [("level", "2")]⟩] ∧
      p''.weightings = p.weightings := by
  intro handler
  have hlevel : requestShape.check (weighedRequest "cycling-regular"
      (.object [("gradient", .integer 5)]) (.object [("steepness_difficulty", .integer 2)])) =
        .ok _ := rfl
  have hnone : requestShape.check (weighedRequest "cycling-regular"
      (.object [("gradient", .integer 5)]) .null) = .ok _ := rfl
  have hwalk : requestShape.check (weighedRequest "foot-walking" .null
      (.object [("steepness_difficulty", .integer 2)])) = .ok _ := rfl
  refine ⟨_, _, _, _, _, _, _, _, hlevel, hnone, hwalk, rfl, rfl, rfl, ?_, rfl, rfl, rfl, rfl, rfl,
    ?_⟩
  · obtain ⟨hrest, -⟩ := Request.convert_weightings_apart hlevel hnone handler .hundred
    rcases hrest ⟨rfl, rfl, rfl, rfl, ⟨_, _, rfl, rfl, rfl⟩, rfl⟩ with
      ⟨e, he, -⟩ | ⟨s, s', hs, hs', hsame⟩
    · cases he
    · obtain rfl := Except.ok.inj hs
      obtain rfl := Except.ok.inj hs'
      exact hsame
  · obtain ⟨-, hweightings⟩ := Request.convert_weightings_apart hlevel hwalk handler .hundred
    obtain ⟨p, p'', hp, hp'', -, -, hiff⟩ :=
      hweightings (fun m => by cases m <;> rfl) _ _ rfl rfl
    obtain rfl := Option.some.inj hp
    obtain rfl := Option.some.inj hp''
    refine hiff.mpr fun m => ?_
    rintro ⟨x, -, hx, -⟩
    cases m <;> cases hx

/-- Zero and negative zero are the same factor, and they are not written alike. -/
theorem Request.convert_weightings_zeros :
    let handler := Handler.standard .route
    ∃ v v' s s' p p',
      requestShape.check (weighedRequest "foot-walking" .null
        (.object [("green", .number (.signedZero false))])) = .ok v ∧
      requestShape.check (weighedRequest "foot-walking" .null
        (.object [("green", .number (.signedZero true))])) = .ok v' ∧
      (∀ m, ((Request.ofDocument v).options.weighting m).same
        ((Request.ofDocument v').options.weighting m) = true) ∧
      ((Request.ofDocument v).convert handler .hundred).outcome = .ok s ∧
      ((Request.ofDocument v').convert handler .hundred).outcome = .ok s' ∧
      s.parameters = some p ∧ s'.parameters = some p' ∧
      p.weightings = [⟨"green", [("factor", "0.00")]⟩] ∧
      p'.weightings = [⟨"green", [("factor", "-0.00")]⟩] ∧ p'.weightings ≠ p.weightings := by
  intro handler
  let run (negative : Bool) : Option (Document × Search × Parameters) :=
    (requestShape.check (weighedRequest "foot-walking" .null
      (.object [("green", .number (.signedZero negative))]))).toOption.bind fun v =>
        ((Request.ofDocument v).convert handler .hundred).outcome.toOption.bind fun s =>
          s.parameters.map fun p => (v, s, p)
  have hboth : ((run false).bind fun a => (run true).map fun b =>
      (a.2.2.weightings, b.2.2.weightings, Measure.all.all fun m =>
        ((Request.ofDocument a.1).options.weighting m).same
          ((Request.ofDocument b.1).options.weighting m))) =
      some ([⟨"green", [("factor", "0.00")]⟩], [⟨"green", [("factor", "-0.00")]⟩], true) := by
    decide +kernel
  have hrun {negative : Bool} {v : Document} {s : Search} {p : Parameters}
      (h : run negative = some (v, s, p)) :
      requestShape.check (weighedRequest "foot-walking" .null
          (.object [("green", .number (.signedZero negative))])) = .ok v ∧
        ((Request.ofDocument v).convert handler .hundred).outcome = .ok s ∧
        s.parameters = some p := by
    obtain ⟨v', hv, h⟩ := Option.bind_eq_some_iff.mp h
    obtain ⟨s', hs, h⟩ := Option.bind_eq_some_iff.mp h
    obtain ⟨p', hp, h⟩ := Option.map_eq_some_iff.mp h
    obtain ⟨rfl, rfl, rfl⟩ : v' = v ∧ s' = s ∧ p' = p := by simpa using h
    exact ⟨toOption_eq_some_iff.mp hv, toOption_eq_some_iff.mp hs, hp⟩
  obtain ⟨⟨v, s, p⟩, ha, hb⟩ := Option.bind_eq_some_iff.mp hboth
  obtain ⟨⟨v', s', p'⟩, hb, hresults⟩ := Option.map_eq_some_iff.mp hb
  obtain ⟨hv, hs, hp⟩ := hrun ha
  obtain ⟨hv', hs', hp'⟩ := hrun hb
  obtain ⟨hplain, hsigned, hsame⟩ :
      p.weightings = [⟨"green", [("factor", "0.00")]⟩] ∧
        p'.weightings = [⟨"green", [("factor", "-0.00")]⟩] ∧
        (Measure.all.all fun m => ((Request.ofDocument v).options.weighting m).same
          ((Request.ofDocument v').options.weighting m)) = true := by
    simpa using hresults
  refine ⟨v, v', s, s', p, p', hv, hv', fun m => ?_, hs, hs', hp, hp', hplain, hsigned, ?_⟩
  · exact List.all_eq_true.mp hsame m (by cases m <;> decide)
  · rw [hplain, hsigned]
    decide

end RouteIntake
