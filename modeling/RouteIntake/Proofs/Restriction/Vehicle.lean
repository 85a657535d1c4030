import RouteIntake.Proofs.Restriction.Shown

/-!
# Which heavy vehicles have limits

Two places decide whether the vehicle of a request is known.  `convertVehicle` looks its name up in
a table, in any letter case, and gives 0 for a name that is not there.  `namesVehicle` compares the
name with the word `unknown`, and the limits of the vehicle follow that.  The main statement says
where the two agree:

* `limitsDocument_heavyVehicle`: a vehicle with an identifier has the limits that its restrictions
  set; a vehicle without one has none exactly when it is absent, or called precisely `unknown`, or
  there is nothing to limit.

A vehicle that is not in the table under another name than `unknown`, be it `UNKNOWN`, is limited
all the same.  `limitsDocument_unknownVehicle` is such a case.
-/

namespace RouteIntake

open Schema

variable {handler : Handler} {room : Room}

/-- A vehicle is not named when it is absent or called unknown. -/
lemma namesVehicle_eq_false {v : Document} :
    namesVehicle v = false ↔ v = .null ∨ v.plain = "unknown" := by
  cases hv : v.isNull with
  | true => simp [namesVehicle, Document.isNull_eq_true.mp hv, Document.isNull]
  | false => simp [namesVehicle, hv, Document.isNull_eq_false.mp hv]

/-- A vehicle that is not named is the vehicle 0. -/
lemma convertVehicle_unnamed {v : Document} {profile : Int}
    (hp : Profile.category profile = .heavyVehicle) (hv : namesVehicle v = false) :
    convertVehicle handler v profile = .ok 0 := by
  rcases namesVehicle_eq_false.mp hv with rfl | hname
  · exact convertVehicle_null profile
  · by_cases hnull : v = .null
    · rw [hnull, convertVehicle_null]
    · rw [convertVehicle_heavy hnull hp, hname]
      rfl

/-- The parameters of a heavy vehicle are converted when valid restrictions are known and the
weightings are valid, whatever the vehicle. -/
lemma exists_convertParameters_heavy (handler : Handler) (room : Room) {o : Options}
    (hv : o.Valid) {profile : Int} {rs : Restrictions} (v : Document)
    (hp : Profile.category profile = .heavyVehicle)
    (hrs : o.restrictions? = some rs) (hu : rs.unknownTo .heavyVehicle = []) :
    ∃ p, (convertParameters handler room { o with vehicleType := v } profile).outcome = .ok p := by
  cases ho : (convertParameters handler room { o with vehicleType := v } profile).outcome with
  | ok p => exact ⟨p, rfl⟩
  | error e =>
    exfalso
    rcases convertParameters_eq_error ho with
      h | ⟨rs', hrs', hu', -⟩ | ⟨rs', -, -, h⟩ | ⟨ws, m, hws, h⟩ | ⟨q, b, hq, hb, -⟩
    · obtain ⟨id, hid⟩ := exists_convertVehicle_eq_ok.mpr (Or.inr hp)
      rw [hid] at h
      cases h
    · obtain rfl := Option.some.inj (hrs.symm.trans hrs')
      rw [hp] at hu'
      exact hu' hu
    · rw [hp] at h
      cases h
    · obtain ⟨applied, ha⟩ := (hv.weightings ws hws).exists_applyOne_eq_ok room m
      cases ha.symm.trans h
    · -- the limit that cannot be shown is an incline, which vehicles do not have
      obtain ⟨-, rs', n, hrs', hn, -⟩ :=
        (Options.unshowable?_eq_some_iff (o := { o with vehicleType := v })
          hv.restrictions hq).mp hb
      obtain rfl := Option.some.inj (hrs.symm.trans hrs')
      rw [Restrictions.eq_null_of_known hu (by decide)] at hn
      cases hn

/-- **Where the two places agree.**  Let valid options have restrictions that heavy vehicles know,
and let the vehicle be any name at all, or absent.  The vehicle has an identifier and the parameters
are converted.  Where the identifier is not 0, the limits are all that the restrictions set.  Where
it is 0, there are no limits exactly when the vehicle is absent or its name is precisely `unknown`,
or the restrictions set nothing; any other name that is not in the table still has all limits. -/
theorem limitsDocument_heavyVehicle (handler : Handler) (room : Room) {d o : Document}
    {profile : Int} {rs : Restrictions} (v : Document) (ho : optionsShape.check d = .ok o)
    (hp : Profile.category profile = .heavyVehicle)
    (hrs : (Options.ofDocument o).restrictions? = some rs)
    (hu : rs.unknownTo .heavyVehicle = []) :
    ∃ id p, convertVehicle handler v profile = .ok id ∧
      (convertParameters handler room { Options.ofDocument o with vehicleType := v }
        profile).outcome = .ok p ∧
      (id ≠ 0 → p.limitsDocument = .object rs.image) ∧
      (id = 0 → (p.limitsDocument = .object [] ↔
        v = .null ∨ v.plain = "unknown" ∨ rs.image = [])) ∧
      (id = 0 → v ≠ .null → v.plain ≠ "unknown" → p.limitsDocument = .object rs.image) := by
  have hvalid : (Options.ofDocument o).Valid := Options.valid_of_yields ⟨d, ho⟩
  obtain ⟨p, hconv⟩ := exists_convertParameters_heavy handler room hvalid v hp hrs hu
  obtain ⟨id, hid⟩ := exists_convertVehicle_eq_ok.mpr (Or.inr hp : v = .null ∨ _)
  obtain ⟨q, hq, hvariant, hlimits⟩ := convertParameters_eq_ok hconv
  obtain ⟨-, hqv, hls⟩ := convertLimits_eq_ok
    (o := { Options.ofDocument o with vehicleType := v }) hrs hq
  rw [← hlimits, hp] at hls
  rw [← hvariant, hp] at hqv
  cases hn : namesVehicle v with
  | true =>
    have himage : p.limitsDocument = .object rs.image :=
      limitsDocument_eq_image hu hqv fun r hr =>
        (limitsFor_eq_ok (hvalid.restrictions rs hrs) (fun _ => hn) hls r hr).1
    have hnamed : ¬(v = .null ∨ v.plain = "unknown") := by
      rw [← namesVehicle_eq_false, hn]
      decide
    refine ⟨id, p, hid, hconv, fun _ => himage, fun _ => ?_, fun _ _ _ => himage⟩
    rw [← or_assoc, or_iff_right hnamed, himage, Document.object.injEq]
  | false =>
    have hunnamed := namesVehicle_eq_false.mp hn
    have hempty : p.limitsDocument = .object [] := by
      rw [limitsFor, hn] at hls
      exact limitsDocument_eq_empty (Except.ok.inj hls).symm
    refine ⟨0, p, convertVehicle_unnamed hp hn, hconv, fun h => absurd rfl h, fun _ => ?_,
      fun _ hnull hname => absurd hunnamed (not_or.mpr ⟨hnull, hname⟩)⟩
    refine ⟨fun _ => ?_, fun _ => hempty⟩
    rcases hunnamed with hnull | hname
    · exact Or.inl hnull
    · exact Or.inr (Or.inl hname)

/-- Options of a vehicle with a hazardous load. -/
def hazardousOptions : Document :=
  .object [("profile_params", .object [("restrictions",
    .object [("hazmat", .boolean true)])])]

/-- The vehicle `UNKNOWN` has the identifier 0, and its load is limited nevertheless. -/
theorem limitsDocument_unknownVehicle :
    ∃ o p, optionsShape.check hazardousOptions = .ok o ∧
      convertVehicle (.standard .route) (.text "UNKNOWN") 2 = .ok 0 ∧
      (convertParameters (.standard .route) .hundred
        { Options.ofDocument o with vehicleType := .text "UNKNOWN" } 2).outcome = .ok p ∧
      p.limitsDocument = .object [("load_characteristics", .integer 1)] := by
  have hheavy : Profile.category 2 = .heavyVehicle := by decide
  obtain ⟨id, p, hid, hp, -, -, hlimits⟩ :=
    limitsDocument_heavyVehicle (.standard .route) .hundred (.text "UNKNOWN")
      (show optionsShape.check hazardousOptions = .ok _ from rfl) hheavy rfl rfl
  have hzero : convertVehicle (.standard .route) (.text "UNKNOWN") 2 = .ok 0 := rfl
  obtain rfl := Except.ok.inj (hzero.symm.trans hid)
  exact ⟨_, p, rfl, hid, hp, hlimits rfl (by simp) (by decide)⟩

end RouteIntake
