import Mathlib
import RouteIntake.Proofs.Conversion.Parameters
import RouteIntake.Proofs.Request.Valid

/-!
# The limits that restrictions become

Each restriction sets one limit.  `Restriction.limitName` and `Restriction.limitValue` say which one
and to what, without regard to profiles: most restrictions keep their name and their value, a word
becomes its place in its table, and a hazardous load becomes a property of the load.  The image of
the restrictions of a request (`Restrictions.image`) lists the limits that all of them set.

The conversion works differently: the category of the profile decides which restrictions it accepts,
which variant of parameters it builds, and which of the restrictions it copies there.  Three tables
have to agree for nothing to be lost.  The main statement is that they do:

* `limitsDocument_convertParameters`: the limits of the converted parameters are the image of the
  restrictions, unless the request is for a heavy vehicle and does not say for which.
-/

namespace RouteIntake

open Schema

variable {handler : Handler} {room : Room}

/-! ## What a restriction means on its own -/

namespace Restriction

/-- The name of the limit that a restriction sets. -/
def limitName : Restriction → String
  | gradient => "maximum_gradient"
  | trailDifficulty => "maximum_trail_difficulty"
  | hazmat => "load_characteristics"
  | r => r.name

/-- The table that the words of a restriction are in; a restriction that is no word has none. -/
def words : Restriction → List String
  | surfaceType => Wheelchair.surfaces
  | trackType => Wheelchair.tracks
  | smoothnessType => Wheelchair.smoothnesses
  | _ => []

/-- What a restriction sets its limit to, null for nothing.  A hazardous load is the property 1 of
the load, a word is its place in its table, counted from one, and everything else is itself. -/
def limitValue (r : Restriction) (d : Document) : Document :=
  match r, d with
  | hazmat, .boolean true => .integer 1
  | hazmat, _ => .null
  | _, .text s => .integer (r.words.idxOf (Wheelchair.normalWord s) + 1 : Nat)
  | _, d => d

/-- The limit with the name that a restriction sets. -/
def limit : Restriction → Limit
  | gradient => .maximumGradient
  | trailDifficulty => .maximumTrailDifficulty
  | length => .length
  | width => .width
  | height => .height
  | weight => .weight
  | axleload => .axleload
  | hazmat => .loadCharacteristics
  | surfaceType => .surfaceType
  | trackType => .trackType
  | smoothnessType => .smoothnessType
  | maximumSlopedKerb => .maximumSlopedKerb
  | maximumIncline => .maximumIncline
  | minimumWidth => .minimumWidth

@[simp] lemma name_limit (r : Restriction) : r.limit.name = r.limitName := by
  cases r <;> rfl

@[simp] lemma limitValue_null (r : Restriction) : r.limitValue .null = .null := by
  cases r <;> rfl

end Restriction

/-- The limits that the restrictions of a request set, by name and in the order of declaration. -/
def Restrictions.image (rs : Restrictions) : List (String × Document) :=
  (rs.assigned.map fun r => (r.limitName, r.limitValue (rs r))).filter fun e => !e.2.isNull

/-! ## The three tables agree -/

/-- The restrictions that a category knows, in the order of declaration. -/
def Category.declared (c : Category) : List Restriction :=
  Restriction.all.filter fun r => c.restrictions.contains r

lemma Category.mem_declared {c : Category} {r : Restriction} :
    r ∈ c.declared ↔ r ∈ c.restrictions := by
  simp [declared, Restriction.mem_all]

/-- The limits of a variant are those that the restrictions of its category set, in the same
order. -/
lemma Category.limits_variant (c : Category) :
    c.variant.limits = c.declared.map Restriction.limit := by
  cases c <;> rfl

/-- Where all restrictions are known, those that are set are among those that the category
declares. -/
lemma Restrictions.assigned_of_known {rs : Restrictions} {c : Category} (h : rs.unknownTo c = []) :
    rs.assigned = c.declared.filter fun r => !(rs r).isNull := by
  have hknown : ∀ r, (rs r).isNull = false → c.restrictions.contains r = true := by
    intro r hr
    have hmem : r ∈ rs.assigned := mem_assigned.mpr hr
    simpa using List.filter_eq_nil_iff.mp h r hmem
  rw [assigned, Category.declared, List.filter_filter]
  refine List.filter_congr fun r _ => ?_
  cases hr : (rs r).isNull with
  | true => rfl
  | false => simpa using hknown r hr

/-- The words of a table are found at their places. -/
lemma position?_eq_some {table : List String} {s : String} {n : Nat}
    (h : Wheelchair.position? table s = some n) :
    Wheelchair.normalWord s ∈ table ∧ n = table.idxOf (Wheelchair.normalWord s) + 1 := by
  obtain ⟨k, hk, rfl⟩ := Option.map_eq_some_iff.mp h
  have hmem : Wheelchair.normalWord s ∈ table := by
    rw [← List.isSome_idxOf?, hk]
    rfl
  exact ⟨hmem, by rw [List.idxOf_eq_getD_idxOf?, hk, Option.getD_some]⟩

/-- A word that is accepted is in the table, and its limit is its place there. -/
lemma encodeWord_eq_ok {r : Restriction} {table : List String} {d v : Document}
    (hd : d = .null ∨ ∃ s, d = .text s) (h : encodeWord handler r table d = .ok v) :
    (d = .null ∧ v = .null) ∨ ∃ s, d = .text s ∧ Wheelchair.normalWord s ∈ table ∧
      v = .integer (table.idxOf (Wheelchair.normalWord s) + 1 : Nat) := by
  rcases hd with rfl | ⟨s, rfl⟩
  · left
    simpa [encodeWord, eq_comm] using h
  · right
    simp only [encodeWord] at h
    split at h
    · rename_i n hn
      obtain ⟨hmem, rfl⟩ := position?_eq_some hn
      exact ⟨s, rfl, hmem, (Except.ok.inj h).symm⟩
    · cases h

/-- A restriction that is neither a word nor about the load is no text, and sets its limit to its
own value. -/
lemma Restrictions.Valid.limitValue_eq_self {rs : Restrictions} (hv : rs.Valid) {r : Restriction}
    (hr : r ∉ [.surfaceType, .trackType, .smoothnessType, .hazmat]) :
    rs r = r.limitValue (rs r) ∧ ∀ s, rs r = .text s → Wheelchair.normalWord s ∈ r.words := by
  have hshape : r.shape ≠ .text := by
    cases r <;> simp_all [Restriction.shape]
  have hne : r ≠ .hazmat := by
    rintro rfl
    simp at hr
  have htext : ∀ s, rs r ≠ .text s := fun s hs => hshape (hv.shape_eq_text hs)
  refine ⟨?_, fun s hs => absurd hs (htext s)⟩
  unfold Restriction.limitValue
  split <;> simp_all

/-- A load that holds is the property 1, and any other is nothing. -/
lemma Restrictions.Valid.limitValue_hazmat {rs : Restrictions} (hv : rs.Valid) :
    Restriction.hazmat.limitValue (rs .hazmat) =
      if (rs .hazmat).isTruthy then .integer hazardousLoad else .null := by
  rcases hv.hazmat with hd | ⟨b, hd⟩
  · rw [hd]
    rfl
  · rw [hd]
    cases b <;> rfl

/-- A word that is accepted for a restriction of its own table sets its limit to its place. -/
lemma Restrictions.Valid.limitValue_word {rs : Restrictions} (hv : rs.Valid) {r : Restriction}
    (hr : r.shape = .text) {v : Document} (h : encodeWord handler r r.words (rs r) = .ok v) :
    v = r.limitValue (rs r) ∧ ∀ s, rs r = .text s → Wheelchair.normalWord s ∈ r.words := by
  have hne : r ≠ .hazmat := by
    rintro rfl
    simp [Restriction.shape] at hr
  rcases encodeWord_eq_ok (hv.word hr) h with ⟨hd, rfl⟩ | ⟨s, hd, hmem, rfl⟩
  · rw [hd]
    exact ⟨(r.limitValue_null).symm, fun s hs => by cases hs⟩
  · rw [hd]
    refine ⟨?_, fun t ht => ?_⟩
    · unfold Restriction.limitValue
      split <;> simp_all
    · rw [← Document.text.inj ht]
      exact hmem

/-- Whatever the category, the limits are those that the restrictions it knows set, each for itself,
and every word among them is in its table.  A heavy vehicle has to be named for that. -/
lemma limitsFor_eq_ok {rs : Restrictions} (hv : rs.Valid) {vehicle : Document} {c : Category}
    (hn : c = .heavyVehicle → namesVehicle vehicle = true) {ls : Limits}
    (h : limitsFor handler rs vehicle c = .ok ls) :
    ∀ r ∈ c.restrictions, ls r.limit = r.limitValue (rs r) ∧
      ∀ s, rs r = .text s → Wheelchair.normalWord s ∈ r.words := by
  intro r hr
  -- one case for each converter: what it copies is compared with what the category knows
  cases c with
  | driving | other => simp [Category.restrictions] at hr
  | cycling | walking =>
    obtain rfl := Except.ok.inj h
    simp only [Category.restrictions, List.mem_cons, List.not_mem_nil, or_false] at hr
    rcases hr with rfl | rfl
    · exact hv.limitValue_eq_self (r := .gradient) (by decide)
    · exact hv.limitValue_eq_self (r := .trailDifficulty) (by decide)
  | heavyVehicle =>
    simp only [limitsFor, hn rfl, if_true, Except.ok.injEq] at h
    subst h
    simp only [Category.restrictions, List.mem_cons, List.not_mem_nil, or_false] at hr
    rcases hr with rfl | rfl | rfl | rfl | rfl | rfl
    · exact hv.limitValue_eq_self (r := .length) (by decide)
    · exact hv.limitValue_eq_self (r := .width) (by decide)
    · exact hv.limitValue_eq_self (r := .height) (by decide)
    · exact hv.limitValue_eq_self (r := .axleload) (by decide)
    · exact hv.limitValue_eq_self (r := .weight) (by decide)
    · refine ⟨hv.limitValue_hazmat.symm, fun s hs => ?_⟩
      exact absurd (hv.shape_eq_text hs) (by simp [Restriction.shape])
  | wheelchair =>
    simp only [limitsFor, wheelchairLimits, bind_eq_ok, Except.ok.injEq] at h
    obtain ⟨surface, hsurface, track, htrack, smoothness, hsmoothness, rfl⟩ := h
    simp only [Category.restrictions, List.mem_cons, List.not_mem_nil, or_false] at hr
    rcases hr with rfl | rfl | rfl | rfl | rfl | rfl
    · exact hv.limitValue_word rfl hsurface
    · exact hv.limitValue_word rfl htrack
    · exact hv.limitValue_word rfl hsmoothness
    · exact hv.limitValue_eq_self (r := .maximumSlopedKerb) (by decide)
    · exact hv.limitValue_eq_self (r := .maximumIncline) (by decide)
    · exact hv.limitValue_eq_self (r := .minimumWidth) (by decide)

/-! ## Converted parameters -/

lemma Parameters.mem_entries {p : Parameters} {l : Limit} {d : Document} :
    (l, d) ∈ p.entries ↔ l ∈ p.variant.limits ∧ p.limits l = d ∧ d ≠ .null := by
  rw [entries, List.mem_filter, List.mem_map]
  constructor
  · rintro ⟨⟨k, hk, he⟩, hd⟩
    obtain ⟨rfl, rfl⟩ := Prod.mk.inj he
    exact ⟨hk, rfl, Document.isNull_eq_false.mp (by simpa using hd)⟩
  · rintro ⟨hl, rfl, hd⟩
    exact ⟨⟨l, hl, rfl⟩, by simpa using Document.isNull_eq_false.mpr hd⟩

/-- Every limit of valid restrictions is what one of them sets it to, and a word among the
restrictions is in its table. -/
lemma exists_limitValue_of_mem_entries {o : Options}
    (hv : ∀ rs, o.restrictions? = some rs → rs.Valid) {profile : Int} {q : Parameters}
    (hq : convertLimits handler o profile = .ok q) {l : Limit} {d : Document}
    (hd : (l, d) ∈ q.entries) :
    ∃ rs r, o.restrictions? = some rs ∧ Restriction.limit r = l ∧ r.limitValue (rs r) = d ∧
      d ≠ .null ∧ ∀ s, rs r = .text s → Wheelchair.normalWord s ∈ r.words := by
  obtain ⟨hl, rfl, hd⟩ := Parameters.mem_entries.mp hd
  cases hrs : o.restrictions? with
  | none =>
    -- without restrictions the parameters are of the variant that has no limits
    rw [convertLimits_eq, hrs, bind_eq_ok] at hq
    obtain ⟨-, -, hq⟩ := hq
    rw [← Except.ok.inj hq] at hl
    cases hl
  | some rs =>
    obtain ⟨-, hqv, hls⟩ := convertLimits_eq_ok hrs hq
    rw [hqv, Category.limits_variant, List.mem_map] at hl
    obtain ⟨r, hr, rfl⟩ := hl
    have hnamed : Profile.category profile = .heavyVehicle → namesVehicle o.vehicleType = true := by
      intro hc
      by_contra hn
      rw [hc, limitsFor, Bool.eq_false_of_not_eq_true hn] at hls
      exact hd (congrFun (Except.ok.inj hls).symm r.limit)
    obtain ⟨hlimit, hword⟩ := limitsFor_eq_ok (hv rs hrs) hnamed hls r
      (Category.mem_declared.mp hr)
    exact ⟨rs, r, rfl, rfl, hlimit.symm, hd, hword⟩

/-- Parameters of the variant of a category hold the image of the restrictions when each of their
limits is what the restriction for it sets. -/
lemma limitsDocument_eq_image {rs : Restrictions} {c : Category} {p : Parameters}
    (hu : rs.unknownTo c = []) (hp : p.variant = c.variant)
    (hl : ∀ r ∈ c.restrictions, p.limits r.limit = r.limitValue (rs r)) :
    p.limitsDocument = .object rs.image := by
  let entry (r : Restriction) : String × Document := (r.limitName, r.limitValue (rs r))
  have hentries : p.entries.map (fun e => (e.1.name, e.2)) =
      (c.declared.map entry).filter fun e => !e.2.isNull := by
    have hentry : ∀ r ∈ c.declared, (r.limit.name, p.limits r.limit) = entry r := by
      intro r hr
      rw [hl r (Category.mem_declared.mp hr), Restriction.name_limit]
    rw [← List.map_congr_left hentry, Parameters.entries, hp, c.limits_variant]
    simp [List.filter_map, Function.comp_def]
  have himage : rs.image = (c.declared.map entry).filter fun e => !e.2.isNull := by
    rw [Restrictions.image, Restrictions.assigned_of_known hu, List.filter_map, List.filter_map,
      List.filter_filter]
    congr 1
    refine List.filter_congr fun r _ => ?_
    -- a restriction that is not set sets nothing, so the second filter covers the first
    cases hr : (rs r).isNull with
    | true => simp [entry, Document.isNull_eq_true.mp hr, Document.isNull]
    | false => simp [entry]
  rw [Parameters.limitsDocument, hentries, himage]

/-- Parameters whose limits are all null have an empty list of them. -/
lemma limitsDocument_eq_empty {p : Parameters} (h : p.limits = Limits.none) :
    p.limitsDocument = .object [] := by
  simp [Parameters.limitsDocument, Parameters.entries, h, Limits.none, Document.isNull]

/-- A vehicle of valid options is named unless it is absent or called unknown. -/
lemma Options.Valid.namesVehicle_iff {o : Options} (h : o.Valid) :
    namesVehicle o.vehicleType = true ↔
      ¬(o.vehicleType = .null ∨ o.vehicleType = .text "unknown") := by
  rcases h.vehicle with hd | ⟨w, -, hd⟩
  · simp [hd, namesVehicle, Document.isNull]
  · simp [hd, namesVehicle, Document.isNull]

/-- **Restrictions become limits, and nothing else does.**  Whatever the profile, when the
parameters of valid options with restrictions are converted, they are of the variant of the
profile's category, and their limits are the image of the restrictions: none is lost, none is
added, and none is put in the place of another.  Only for a heavy vehicle that is not named, or is
called unknown, there are no limits at all. -/
theorem limitsDocument_convertParameters {d o : Document} {profile : Int} {rs : Restrictions}
    {p : Parameters} (ho : optionsShape.check d = .ok o)
    (hrs : (Options.ofDocument o).restrictions? = some rs)
    (hp : (convertParameters handler room (Options.ofDocument o) profile).outcome = .ok p) :
    p.variant = (Profile.category profile).variant ∧
      (Profile.category profile = .driving ∨ Profile.category profile = .other →
        p.variant = .base) ∧
      (Profile.category profile = .heavyVehicle →
        (Options.ofDocument o).vehicleType = .null ∨
          (Options.ofDocument o).vehicleType = .text "unknown" →
        p.limitsDocument = .object []) ∧
      (¬(Profile.category profile = .heavyVehicle ∧
          ((Options.ofDocument o).vehicleType = .null ∨
            (Options.ofDocument o).vehicleType = .text "unknown")) →
        p.limitsDocument = .object rs.image ∧
          ∀ r s, rs r = .text s → Wheelchair.normalWord s ∈ r.words) := by
  have hvalid : (Options.ofDocument o).Valid := Options.valid_of_yields ⟨d, ho⟩
  have hv : rs.Valid := hvalid.restrictions rs hrs
  obtain ⟨q, hq, hvariant, hlimits⟩ := convertParameters_eq_ok hp
  obtain ⟨hu, hqv, hls⟩ := convertLimits_eq_ok hrs hq
  rw [← hlimits] at hls
  have hpv : p.variant = (Profile.category profile).variant := hvariant.trans hqv
  refine ⟨hpv, ?_, ?_, ?_⟩
  · rintro (hc | hc) <;> rw [hpv, hc] <;> rfl
  · intro hc hunnamed
    have hn : namesVehicle (Options.ofDocument o).vehicleType = false := by
      rw [← Bool.not_eq_true, hvalid.namesVehicle_iff, not_not]
      exact hunnamed
    rw [hc, limitsFor, hn] at hls
    exact limitsDocument_eq_empty (Except.ok.inj hls).symm
  · intro hnamed
    have hl := limitsFor_eq_ok hv (fun hc => hvalid.namesVehicle_iff.mpr
      fun hunnamed => hnamed ⟨hc, hunnamed⟩) hls
    refine ⟨limitsDocument_eq_image hu hpv fun r hr => (hl r hr).1, fun r s hs => ?_⟩
    have hmem : r ∈ rs.assigned := Restrictions.mem_assigned.mpr (by rw [hs]; rfl)
    rw [Restrictions.assigned_of_known hu] at hmem
    exact (hl r (Category.mem_declared.mp (List.mem_of_mem_filter hmem))).2 s hs

/-- Options of a wheelchair that takes gravel and some incline. -/
def gravelOptions : Document :=
  .object [("profile_params", .object [("restrictions",
    .object [("surface_type", .text " Gravel"), ("maximum_incline", .integer 6)])])]

/-- The word of the options becomes its place in the table, and the incline stays. -/
theorem limitsDocument_gravelOptions :
    ∃ o rs p, optionsShape.check gravelOptions = .ok o ∧
      (Options.ofDocument o).restrictions? = some rs ∧
      (convertParameters (.standard .route) .hundred (Options.ofDocument o) 30).outcome = .ok p ∧
      p.variant = .wheelchair ∧
      p.limitsDocument =
        .object [("surface_type", .integer 16), ("maximum_incline", .integer 6)] := by
  refine ⟨_, _, _, rfl, rfl, rfl, ?_⟩
  obtain ⟨hvariant, -, -, hlimits⟩ := limitsDocument_convertParameters
    (show optionsShape.check gravelOptions = .ok _ from rfl) rfl
    (show (convertParameters (.standard .route) .hundred (Options.ofDocument _) 30).outcome =
      .ok _ from rfl)
  have hlight : Profile.category 30 ≠ .heavyVehicle := by decide
  exact ⟨hvariant, (hlimits fun hn => hlight hn.1).1⟩

end RouteIntake
