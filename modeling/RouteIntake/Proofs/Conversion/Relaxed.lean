import RouteIntake.Proofs.Conversion.Breakdown
import RouteIntake.Proofs.Restriction.Unknown
import RouteIntake.Proofs.Weighting.Partition

/-!
# Requests that ask for less

A request is relaxed by taking out some of what it asks for: an option, items of a list, single
restrictions and weightings, or all of them at once.  `Request.Relaxes` says that one request is
another that is relaxed, and `Search.Relaxes` that one search has nothing but what another has.

Options are not converted independently of each other: the limits of a heavy vehicle depend on the
vehicle, and the variant of the parameters on whether there are restrictions.  The main statement is
that nothing is ever needed for the sake of something else:

* `Request.convert_relaxes`: what is left of a request that is converted is converted too, to a
  search that has nothing but what the search of the whole request has.

It does not matter whether the request was validated.
-/

namespace RouteIntake

variable {handler : Handler} {room : Room}

/-! ## Relaxed requests -/

/-- A value is kept, or null stands in its place. -/
def Document.Relaxes (d' d : Document) : Prop := d' = d ∨ d' = .null

/-- A list is kept or null like any value, or only some of its items are kept. -/
def Document.RelaxesList (d' d : Document) : Prop :=
  d'.Relaxes d ∨ ∃ ds' ds, d' = .array ds' ∧ d = .array ds ∧ ds'.Sublist ds

/-- Profile parameters that are relaxed. -/
structure ProfileParams.Relaxes (p' p : ProfileParams) : Prop where
  /-- Restrictions that are left were there, and each is kept or null. -/
  restrictions : ∀ rs', p'.restrictions = some rs' →
    ∃ rs, p.restrictions = some rs ∧ ∀ r, (rs' r).Relaxes (rs r)
  /-- Weightings that are left were there, and each is kept or null. -/
  weightings : ∀ ws', p'.weightings = some ws' →
    ∃ ws, p.weightings = some ws ∧ ∀ m, (ws' m).Relaxes (ws m)

/-- Options that are relaxed. -/
structure Options.Relaxes (o' o : Options) : Prop where
  /-- Some of the features are kept. -/
  avoidFeatures : o'.avoidFeatures.RelaxesList o.avoidFeatures
  /-- The borders are kept or null. -/
  avoidBorders : o'.avoidBorders.Relaxes o.avoidBorders
  /-- The vehicle is kept or null. -/
  vehicleType : o'.vehicleType.Relaxes o.vehicleType
  /-- Profile parameters that are left were there and are relaxed. -/
  profileParams : ∀ p', o'.profileParams = some p' →
    ∃ p, o.profileParams = some p ∧ p'.Relaxes p
  /-- The areas are kept or null. -/
  avoidPolygons : o'.avoidPolygons.Relaxes o.avoidPolygons

/-- Requests that are relaxed: for the same profile, with relaxed options. -/
structure Request.Relaxes (r' r : Request) : Prop where
  /-- The profile is the same. -/
  profile : r'.profile = r.profile
  /-- The options are relaxed. -/
  options : r'.options.Relaxes r.options

/-! ## Searches with less -/

/-- Parameters that have nothing but what others have. -/
structure Parameters.Relaxes (p' p : Parameters) : Prop where
  /-- The limits are some of the others, with the same values. -/
  limits : p'.limitsDocument.members.Sublist p.limitsDocument.members
  /-- The weightings are some of the others. -/
  weightings : p'.weightings.Sublist p.weightings
  /-- The notes are some of the others. -/
  notes : p'.notes.Sublist p.notes

/-- A search that has nothing but what another has. -/
structure Search.Relaxes (s' s : Search) : Prop where
  /-- The profile is the same. -/
  profile : s'.profile = s.profile
  /-- The vehicle is the same, or none. -/
  vehicle : s'.vehicle = s.vehicle ∨ s'.vehicle = 0
  /-- Every feature of the set is one of the others. -/
  avoidFeatures : ∃ flags' flags : ℕ, s'.avoidFeatures = flags' ∧ s.avoidFeatures = flags ∧
    ∀ i, flags'.testBit i = true → flags.testBit i = true
  /-- The borders are the same, or none. -/
  avoidBorders : s'.avoidBorders = s.avoidBorders ∨ s'.avoidBorders = none
  /-- The areas are the same, or none. -/
  avoidAreas : s'.avoidAreas = s.avoidAreas ∨ s'.avoidAreas = []
  /-- There are parameters, with nothing but what the others have. -/
  parameters : ∃ p' p, s'.parameters = some p' ∧ s.parameters = some p ∧ p'.Relaxes p

/-! ## Single options -/

lemma Document.Relaxes.null (d : Document) : Document.null.Relaxes d := Or.inr rfl

lemma Document.Relaxes.refl (d : Document) : d.Relaxes d := Or.inl rfl

lemma Options.Relaxes.restrictions? {o' o : Options} (h : o'.Relaxes o) {rs' : Restrictions}
    (hrs : o'.restrictions? = some rs') :
    ∃ rs, o.restrictions? = some rs ∧ ∀ r, (rs' r).Relaxes (rs r) := by
  obtain ⟨p', hp', hrs⟩ := Option.bind_eq_some_iff.mp hrs
  obtain ⟨p, hp, hparams⟩ := h.profileParams p' hp'
  obtain ⟨rs, hrs, hr⟩ := hparams.restrictions rs' hrs
  exact ⟨rs, Option.bind_eq_some_iff.mpr ⟨p, hp, hrs⟩, hr⟩

lemma Options.Relaxes.weightings? {o' o : Options} (h : o'.Relaxes o) {ws' : Weightings}
    (hws : o'.weightings? = some ws') :
    ∃ ws, o.weightings? = some ws ∧ ∀ m, (ws' m).Relaxes (ws m) := by
  obtain ⟨p', hp', hws⟩ := Option.bind_eq_some_iff.mp hws
  obtain ⟨p, hp, hparams⟩ := h.profileParams p' hp'
  obtain ⟨ws, hws, hm⟩ := hparams.weightings ws' hws
  exact ⟨ws, Option.bind_eq_some_iff.mpr ⟨p, hp, hws⟩, hm⟩

lemma convertVehicle_relaxes {v' v : Document} (hv : v'.Relaxes v) {profile id : Int}
    (h : convertVehicle handler v profile = .ok id) :
    ∃ id', convertVehicle handler v' profile = .ok id' ∧ (id' = id ∨ id' = 0) := by
  rcases hv with rfl | rfl
  · exact ⟨id, h, Or.inl rfl⟩
  · exact ⟨0, convertVehicle_null profile, Or.inr rfl⟩

lemma convertBorders_relaxes {d' d : Document} (hd : d'.Relaxes d) :
    convertBorders d' = convertBorders d ∨ convertBorders d' = none := by
  rcases hd with rfl | rfl
  · exact Or.inl rfl
  · exact Or.inr rfl

lemma convertAvoidAreas_relaxes {d' d : Document} (hd : d'.Relaxes d) {ps : List Polygon}
    (h : convertAvoidAreas handler room d = .ok ps) :
    ∃ ps', convertAvoidAreas handler room d' = .ok ps' ∧ (ps' = ps ∨ ps' = []) := by
  rcases hd with rfl | rfl
  · exact ⟨ps, h, Or.inl rfl⟩
  · exact ⟨[], rfl, Or.inr rfl⟩

/-! ## Features -/

/-- Features that are taken out of a list take only their own bits with them. -/
lemma convertFeatures_sublist {profile : Int} {ds' ds : List Document} (hds : ds'.Sublist ds)
    {flags : Nat} (h : convertFeatures handler profile ds = .ok flags) :
    ∃ flags', convertFeatures handler profile ds' = .ok flags' ∧
      ∀ i, flags'.testBit i = true → flags.testBit i = true := by
  obtain ⟨hall, hbits⟩ := convertFeatures_eq_ok_iff.mp h
  obtain ⟨flags', h'⟩ := exists_convertFeatures_eq_ok fun d hd => hall d (hds.subset hd)
  refine ⟨flags', h', fun i hi => ?_⟩
  obtain ⟨d, hd, hbit⟩ := ((convertFeatures_eq_ok_iff.mp h').2 i).mp hi
  exact (hbits i).mpr ⟨d, hds.subset hd, hbit⟩

/-- A list of features is converted one by one, also when it is empty. -/
lemma convertAvoidFeatures_array (ds : List Document) (profile : Int) :
    convertAvoidFeatures handler (.array ds) profile = convertFeatures handler profile ds := by
  cases ds <;> rfl

lemma convertAvoidFeatures_relaxes {d' d : Document} (hd : d'.RelaxesList d) {profile : Int}
    {flags : Nat} (h : convertAvoidFeatures handler d profile = .ok flags) :
    ∃ flags', convertAvoidFeatures handler d' profile = .ok flags' ∧
      ∀ i, flags'.testBit i = true → flags.testBit i = true := by
  rcases hd with (rfl | rfl) | ⟨ds', ds, rfl, rfl, hds⟩
  · exact ⟨flags, h, fun _ hi => hi⟩
  · exact ⟨0, rfl, fun i hi => by simp at hi⟩
  · rw [convertAvoidFeatures_array] at h ⊢
    exact convertFeatures_sublist hds h

/-! ## Restrictions -/

lemma Restrictions.unknownTo_relaxes {rs' rs : Restrictions} (h : ∀ r, (rs' r).Relaxes (rs r))
    {c : Category} (hu : rs.unknownTo c = []) : rs'.unknownTo c = [] := by
  by_contra hne
  obtain ⟨r, hset, hr⟩ := unknownTo_ne_nil.mp hne
  rw [(h r).resolve_right hset] at hset
  exact unknownTo_ne_nil.mpr ⟨r, hset, hr⟩ hu

lemma encodeWord_relaxes {r : Restriction} {table : List String} {d' d v : Document}
    (hd : d'.Relaxes d) (h : encodeWord handler r table d = .ok v) :
    ∃ v', encodeWord handler r table d' = .ok v' ∧ v'.Relaxes v := by
  rcases hd with rfl | rfl
  · exact ⟨v, h, .refl v⟩
  · exact ⟨.null, rfl, .null v⟩

/-- Limits of relaxed restrictions are what they were, or null: each limit depends on one
restriction, and those of a heavy vehicle on the vehicle as well. -/
lemma limitsFor_relaxes {rs' rs : Restrictions} (hrs : ∀ r, (rs' r).Relaxes (rs r))
    {v' v : Document} (hv : v'.Relaxes v) {c : Category} {ls : Limits}
    (h : limitsFor handler rs v c = .ok ls) :
    ∃ ls', limitsFor handler rs' v' c = .ok ls' ∧ ∀ l, (ls' l).Relaxes (ls l) := by
  cases c with
  | driving | other => exact ⟨ls, h, fun l => .refl _⟩
  | cycling | walking =>
    obtain rfl := Except.ok.inj h
    refine ⟨trailLimits rs', rfl, fun l => ?_⟩
    cases l with
    | maximumGradient => exact hrs .gradient
    | maximumTrailDifficulty => exact hrs .trailDifficulty
    | _ => exact .refl _
  | heavyVehicle =>
    obtain rfl := Except.ok.inj h
    refine ⟨_, rfl, fun l => ?_⟩
    rcases hv with rfl | rfl
    · cases hn : namesVehicle v' with
      | false => exact .refl _
      | true =>
        simp only [if_true]
        cases l with
        | length => exact hrs .length
        | width => exact hrs .width
        | height => exact hrs .height
        | weight => exact hrs .weight
        | axleload => exact hrs .axleload
        | loadCharacteristics =>
          rcases hrs .hazmat with he | he
          · simp only [vehicleLimits, he]
            exact .refl _
          · simp only [vehicleLimits, he]
            exact .null _
        | _ => exact .refl _
    · -- without a vehicle there is no limit left
      exact .null _
  | wheelchair =>
    simp only [limitsFor, wheelchairLimits, bind_eq_ok, Except.ok.injEq] at h ⊢
    obtain ⟨surface, hsurface, track, htrack, smoothness, hsmoothness, rfl⟩ := h
    obtain ⟨surface', hsurface', hs⟩ := encodeWord_relaxes (hrs .surfaceType) hsurface
    obtain ⟨track', htrack', ht⟩ := encodeWord_relaxes (hrs .trackType) htrack
    obtain ⟨smoothness', hsmoothness', hm⟩ := encodeWord_relaxes (hrs .smoothnessType) hsmoothness
    refine ⟨_, ⟨surface', hsurface', track', htrack', smoothness', hsmoothness', rfl⟩, fun l => ?_⟩
    cases l with
    | surfaceType => exact hs
    | trackType => exact ht
    | smoothnessType => exact hm
    | maximumSlopedKerb => exact hrs .maximumSlopedKerb
    | maximumIncline => exact hrs .maximumIncline
    | minimumWidth => exact hrs .minimumWidth
    | _ => exact .refl _

/-- Of limits that are relaxed those that are still set are listed, with their values. -/
lemma Parameters.entries_sublist {p' p : Parameters} (hvariant : p'.variant = p.variant)
    (h : ∀ l, (p'.limits l).Relaxes (p.limits l)) : p'.entries.Sublist p.entries := by
  simp only [entries, hvariant, List.filter_map, Function.comp_def]
  have hkept : ∀ l ∈ p.variant.limits.filter fun l => !(p'.limits l).isNull,
      (l, p'.limits l) = (l, p.limits l) := by
    intro l hl
    have hset : p'.limits l ≠ .null := by
      rw [← Document.isNull_eq_false]
      simpa using (List.mem_filter.mp hl).2
    rw [(h l).resolve_right hset]
  rw [List.map_congr_left hkept]
  refine List.Sublist.map _ (List.monotone_filter_right _ fun l hl => ?_)
  have hset : p'.limits l ≠ .null := by
    rw [← Document.isNull_eq_false]
    simpa using hl
  rwa [(h l).resolve_right hset] at hl

/-- Of limits that can be shown some can be shown as well. -/
lemma Parameters.unshowable?_of_sublist {p' p : Parameters} (h : p'.entries.Sublist p.entries)
    (hp : p.unshowable? room = none) : p'.unshowable? room = none :=
  List.findSome?_eq_none_iff.mpr fun e he => List.findSome?_eq_none_iff.mp hp e (h.subset he)

/-- Relaxed options have limits when the options have, and no others. -/
lemma convertLimits_relaxes {o' o : Options} (h : o'.Relaxes o) {profile : Int} {p : Parameters}
    (hp : convertLimits handler o profile = .ok p) :
    ∃ p', convertLimits handler o' profile = .ok p' ∧ p'.entries.Sublist p.entries := by
  have hvehicle : ∃ id, convertVehicle handler o.vehicleType profile = .ok id := by
    rw [convertLimits_eq, bind_eq_ok] at hp
    obtain ⟨id, hid, -⟩ := hp
    exact ⟨id, hid⟩
  obtain ⟨id, hid⟩ := hvehicle
  obtain ⟨id', hid', -⟩ := convertVehicle_relaxes h.vehicleType hid
  rw [convertLimits_eq handler o', hid', ok_bind]
  cases hrs' : o'.restrictions? with
  | none =>
    refine ⟨.empty .base, rfl, ?_⟩
    rw [Parameters.entries_empty]
    exact List.nil_sublist _
  | some rs' =>
    obtain ⟨rs, hrs, hr⟩ := h.restrictions? hrs'
    obtain ⟨hu, hvariant, hls⟩ := convertLimits_eq_ok hrs hp
    obtain ⟨ls', hls', hl⟩ := limitsFor_relaxes hr h.vehicleType hls
    simp only [convertRestrictions_known (Restrictions.unknownTo_relaxes hr hu), hls', Except.map]
    exact ⟨_, rfl, Parameters.entries_sublist hvariant.symm hl⟩

/-! ## Weightings -/

lemma applyOne_relaxes {m : Measure} {d' d : Document} (hd : d'.Relaxes d)
    {a : Weighting.Applied} (h : (Weighting.applyOne room m d).outcome = .ok a) :
    ∃ a', (Weighting.applyOne room m d').outcome = .ok a' ∧
      a'.weightings.Sublist a.weightings ∧ a'.notes.Sublist a.notes := by
  rcases hd with rfl | rfl
  · exact ⟨a, h, .refl _, .refl _⟩
  · exact ⟨⟨[], []⟩, rfl, List.nil_sublist _, List.nil_sublist _⟩

/-- Weightings that are taken out take only their own entries with them. -/
lemma applyEach_relaxes {ws' ws : Weightings} (hws : ∀ m, (ws' m).Relaxes (ws m))
    {ms : List Measure} {a : Weighting.Applied}
    (h : (Weighting.applyEach room ws ms).outcome = .ok a) :
    ∃ a', (Weighting.applyEach room ws' ms).outcome = .ok a' ∧
      a'.weightings.Sublist a.weightings ∧ a'.notes.Sublist a.notes := by
  induction ms generalizing a with
  | nil => exact ⟨a, h, .refl _, .refl _⟩
  | cons m ms ih =>
    simp only [Weighting.applyEach, Traced.outcome_bind, Traced.outcome_pure, bind_eq_ok,
      Except.ok.injEq] at h ⊢
    obtain ⟨first, hfirst, others, hothers, rfl⟩ := h
    obtain ⟨first', hfirst', hw, hn⟩ := applyOne_relaxes (hws m) hfirst
    obtain ⟨others', hothers', hws', hns'⟩ := ih hothers
    exact ⟨_, ⟨first', hfirst', others', hothers', rfl⟩, hw.append hws', hn.append hns'⟩

/-- Relaxed options add nothing but what the options add. -/
lemma Options.Relaxes.applied {o' o : Options} (h : o'.Relaxes o) {a : Weighting.Applied}
    (ha : o.applied room = .ok a) :
    ∃ a', o'.applied room = .ok a' ∧
      a'.weightings.Sublist a.weightings ∧ a'.notes.Sublist a.notes := by
  unfold Options.applied at ha ⊢
  cases hws' : o'.weightings? with
  | none => exact ⟨⟨[], []⟩, rfl, List.nil_sublist _, List.nil_sublist _⟩
  | some ws' =>
    obtain ⟨ws, hws, hm⟩ := h.weightings? hws'
    simp only [hws] at ha
    exact applyEach_relaxes hm ha

/-- Relaxed options have parameters when the options have, with nothing but what they have. -/
lemma convertParameters_relaxes {o' o : Options} (h : o'.Relaxes o) {profile : Int}
    {p : Parameters} (hp : (convertParameters handler room o profile).outcome = .ok p) :
    ∃ p', (convertParameters handler room o' profile).outcome = .ok p' ∧ p'.Relaxes p := by
  obtain ⟨q, a, hq, ha, hshown, rfl⟩ := convertParameters_eq_ok_iff.mp hp
  obtain ⟨q', hq', hsub⟩ := convertLimits_relaxes h hq
  obtain ⟨a', ha', hw, hn⟩ := h.applied ha
  have hshown' := Parameters.unshowable?_of_sublist hsub hshown
  obtain ⟨hweightings, hnotes⟩ := convertLimits_eq_ok_empty hq'
  refine ⟨q'.add a', convertParameters_eq_ok_iff.mpr ⟨q', a', hq', ha', hshown', rfl⟩,
    hsub.map _, ?_, ?_⟩
  · rw [Parameters.add, hweightings, List.nil_append]
    exact hw.trans (List.sublist_append_right _ _)
  · rw [Parameters.add, hnotes, List.nil_append]
    exact hn.trans (List.sublist_append_right _ _)

/-! ## Whole requests -/

/-- **What is left of a request that is converted is converted too.**  Let a request be converted,
and let any of its options be taken out, any items of its list of features, any of its restrictions
and weightings, or all of these at once.  Then the rest is converted as well, for the same profile.
Its set of features is contained in that of the whole request, its limits and its weightings are
some of those of the whole request, with the same values and in the same order, and its areas are
the same or none. -/
theorem Request.convert_relaxes {handler : Handler} {room : Room} {r' r : Request}
    (h : r'.Relaxes r) {s : Search} (hs : (r.convert handler room).outcome = .ok s) :
    ∃ s', (r'.convert handler room).outcome = .ok s' ∧ s'.Relaxes s := by
  simp only [outcome_convert, convertParts, bind_eq_ok, Except.ok.injEq] at hs ⊢
  obtain ⟨-, ⟨profile, hprofile, vehicle, hvehicle, flags, hflags, ps, hps, rfl⟩, p, hp, rfl⟩ := hs
  obtain ⟨vehicle', hvehicle', hv⟩ := convertVehicle_relaxes h.options.vehicleType hvehicle
  obtain ⟨flags', hflags', hf⟩ := convertAvoidFeatures_relaxes h.options.avoidFeatures hflags
  obtain ⟨ps', hps', ha⟩ := convertAvoidAreas_relaxes h.options.avoidPolygons hps
  obtain ⟨p', hp', hr⟩ := convertParameters_relaxes h.options hp
  rw [← h.profile] at hprofile
  refine ⟨_, ⟨_, ⟨profile, hprofile, vehicle', hvehicle', flags', hflags', ps', hps', rfl⟩, p', hp',
    rfl⟩, ?_⟩
  exact
    { profile := rfl
      vehicle := hv
      avoidFeatures := ⟨flags', flags, rfl, rfl, hf⟩
      avoidBorders := convertBorders_relaxes h.options.avoidBorders
      avoidAreas := ha
      parameters := ⟨p', p, rfl, rfl, hr⟩ }

/-- A request for a heavy vehicle with a hazardous load that avoids some features. -/
def hazardousRequest (features : List String) (vehicle weightings : Document) : Document :=
  .object
    [("profile", .text "driving-hgv"),
     ("coordinates", .array [.array [], .array []]),
     ("options", .object
       [("avoid_features", .array (features.map .text)), ("vehicle_type", vehicle),
        ("profile_params", .object
          [("restrictions", .object [("hazmat", .boolean true)]), ("weightings", weightings)])])]

/-- A feature, the vehicle and the weightings are taken out of a request.  What is left is
converted: it avoids ferries, and its load has no limit without a vehicle. -/
theorem Request.convert_relaxes_hazardousRequest :
    ∃ d d' s,
      requestShape.check (hazardousRequest ["tollways", "ferries"] (.text "goods")
        (.object [("steepness_difficulty", .integer 2)])) = .ok d ∧
      requestShape.check (hazardousRequest ["ferries"] .null .null) = .ok d' ∧
      (Request.ofDocument d').Relaxes (Request.ofDocument d) ∧
      ((Request.ofDocument d).convert (.standard .route) .hundred).outcome = .ok s ∧
      (s.avoidFeatures, s.vehicle) = (6, 1) ∧
      ∃ s', ((Request.ofDocument d').convert (.standard .route) .hundred).outcome = .ok s' ∧
        (s'.avoidFeatures, s'.vehicle) = (4, 0) ∧ s'.Relaxes s := by
  have hfeatures : [Document.text "ferries"].Sublist [.text "tollways", .text "ferries"] :=
    List.sublist_cons_self _ _
  refine ⟨_, _, _, rfl, rfl, ?relaxes, rfl, rfl,
    (Request.convert_relaxes ?relaxes rfl).imp fun s' hs' => ⟨hs'.1, ?_, hs'.2⟩⟩
  case relaxes =>
    refine ⟨rfl, Or.inr ⟨_, _, rfl, rfl, hfeatures⟩, .refl _, .null _, ?_, .refl _⟩
    intro p' hp'
    obtain rfl := Option.some.inj hp'
    refine ⟨_, rfl, fun rs' hrs' => ?_, fun ws' hws' => ?_⟩
    · obtain rfl := Option.some.inj hrs'
      exact ⟨_, rfl, fun r => .refl _⟩
    · cases hws'
  obtain rfl := Except.ok.inj hs'.1
  rfl

end RouteIntake
