import Mathlib
import RouteIntake.Proofs.Numeral.Fixed
import RouteIntake.Proofs.Restriction.Image
import RouteIntake.Proofs.Weighting.Partition

/-!
# Numbers stay within their bounds

The shapes of a request bound its numbers.  What a conversion makes of them is bounded as well, but
the bounds are those of the converted parameters: `Limit.Keeps` gives them for the limits, and
`Measure.Keeps` for the texts of the weightings.  Numbers may be infinite here, and a value that is
not a number keeps no bound.

* `keeps_convertParameters`: when the parameters of valid options are converted, every limit that is
  set keeps its bound, every weighting that was asked for applies and keeps its bound, and nothing
  is left out.
-/

namespace RouteIntake

open Schema Numeral

variable {handler : Handler} {room : Room}

/-- The text of a weighting denotes a value of its measure: a number from 0 to 1 for a factor, a
whole number from 0 to 3 for a level. -/
def Measure.Keeps (m : Measure) (text : String) : Prop :=
  match m with
  | green | quiet => ∃ q, decimalValue? text.toList = some q ∧ 0 ≤ q ∧ q ≤ 1
  | steepnessDifficulty => ∃ n : ℕ, decimalValue? text.toList = some (n : ℚ) ∧ n ≤ 3

/-- A limit is set to a value of its kind, within its bounds. -/
def Limit.Keeps (l : Limit) (d : Document) : Prop :=
  match l with
  | maximumGradient => ∃ n : ℤ, d = .integer n ∧ 1 ≤ n ∧ n ≤ 35
  | maximumTrailDifficulty => ∃ n : ℤ, d = .integer n ∧ 0 ≤ n ∧ n ≤ 6
  | maximumIncline => ∃ n : ℤ, d = .integer n ∧ 0 ≤ n
  | maximumSlopedKerb => ∃ x v, d = .number x ∧ x.value? = some v ∧ Extended.ofRat 0 ≤ v
  | length | width | height | weight | axleload | minimumWidth =>
    ∃ x v, d = .number x ∧ x.value? = some v ∧ Extended.ofRat 0 < v
  | surfaceType | trackType | smoothnessType => ∃ n : ℕ, d = .integer n ∧ 0 < n
  | loadCharacteristics => d = .integer 1

/-! ## Normal numbers -/

namespace Schema

/-- A normal integer keeps its bounds. -/
lemma Shape.Yields.exists_integer {bounds : List Bound} {d : Document}
    (h : (Shape.integer bounds).Yields d) :
    ∃ n, d = .integer n ∧ ∀ b ∈ bounds, b.KeepsInt n := by
  obtain ⟨n, hn, hbounds⟩ := h.integer
  exact ⟨n, hn, fun b hb => Bound.allowsInt_iff.mp (hbounds b hb)⟩

/-- A normal number with bounds has a value, which keeps them. -/
lemma Shape.Yields.exists_value {bounds : List Bound} {d : Document}
    (h : (Shape.number bounds).Yields d) (hne : bounds ≠ [])
    (hsmall : ∀ b ∈ bounds, b.limit.natAbs < 2 ^ 53) :
    ∃ x v, d = .number x ∧ x.value? = some v ∧ ∀ b ∈ bounds, b.Keeps v := by
  obtain ⟨x, hx, hbounds⟩ := h.number
  have hkeeps : ∀ b ∈ bounds, ∃ v, x.value? = some v ∧ b.Keeps v :=
    fun b hb => (Bound.allows_iff (hsmall b hb)).mp (hbounds b hb)
  obtain ⟨b, hb⟩ := List.exists_mem_of_ne_nil bounds hne
  obtain ⟨v, hv, -⟩ := hkeeps b hb
  refine ⟨x, v, hx, hv, fun c hc => ?_⟩
  obtain ⟨w, hw, hcw⟩ := hkeeps c hc
  rwa [Option.some.inj (hv.symm.trans hw)]

end Schema

/-! ## Weightings -/

/-- The text of a whole number denotes it. -/
lemma exists_decimalValue?_toString {n : Int} (h : 0 ≤ n) :
    ∃ k : ℕ, n = k ∧ decimalValue? (toString n).toList = some (k : ℚ) := by
  obtain ⟨k, rfl⟩ := Int.eq_ofNat_of_zero_le h
  refine ⟨k, rfl, ?_⟩
  have htext : (toString (k : Int)).toList = Nat.toDigits 10 k := String.toList_ofList
  rw [htext, decimalValue?_toDigits]

/-- A number that a request may give for a measure is written within the bounds of the measure. -/
lemma Measure.keeps_of_yields {m : Measure} {d : Document} (hy : m.shape.Yields d) {text : String}
    (ht : Weighting.valueText m d = .ok (.ok text)) : m.Keeps text := by
  cases m with
  | green | quiet =>
    obtain ⟨x, v, hx, hv, hkeeps⟩ := hy.exists_value (by simp) (by decide)
    have hhigh : v ≤ Extended.ofRat ((1 : ℤ) : ℚ) := hkeeps (.atMost 1) (by simp)
    have hlow : Extended.ofRat ((0 : ℤ) : ℚ) ≤ v := hkeeps (.atLeast 0) (by simp)
    rw [Int.cast_one] at hhigh
    rw [Int.cast_zero] at hlow
    rw [hx] at ht
    obtain rfl : x.fixedText = text := Except.ok.inj (Except.ok.inj ht)
    rw [Measure.Keeps, Binary64.fixedText, String.toList_ofList]
    exact Binary64.exists_decimalValue?_fixedChars hv hlow hhigh
  | steepnessDifficulty =>
    obtain ⟨n, hn, hkeeps⟩ := hy.exists_integer
    have hhigh : n ≤ 3 := hkeeps (.atMost 3) (by simp)
    have hlow : 0 ≤ n := hkeeps (.atLeast 0) (by simp)
    have hlong : hasText n = true := hasText_of_natAbs_lt (by omega)
    obtain rfl : toString n = text := by
      simpa only [hn, Weighting.valueText, Measure.isLevel, Weighting.levelText, hlong, if_true,
        Except.ok.injEq] using ht
    obtain ⟨k, rfl, hk⟩ := exists_decimalValue?_toString hlow
    exact ⟨k, hk, by omega⟩

/-- A value that a request may give for a measure can be written unless it is null. -/
lemma Weightings.Valid.isWritable_eq {ws : Weightings} (hv : ws.Valid) (m : Measure) :
    Weighting.isWritable m (ws m) = !(ws m).isNull := by
  rcases (hv m).optional with hnull | hy
  · rw [hnull]
    rfl
  · cases m with
    | green | quiet =>
      obtain ⟨x, hx, -⟩ := hy.number
      rw [hx]
      rfl
    | steepnessDifficulty =>
      obtain ⟨n, hn, hkeeps⟩ := hy.exists_integer
      have hhigh : n ≤ 3 := hkeeps (.atMost 3) (by simp)
      have hlow : 0 ≤ n := hkeeps (.atLeast 0) (by simp)
      have htext : hasText n = true := hasText_of_natAbs_lt (by omega)
      simp only [hn, Weighting.isWritable, htext, Bool.or_true, Document.isNull, Bool.not_false]

/-- No value that a request may give for a measure breaks the conversion down. -/
lemma Weightings.Valid.breakdown?_eq_none {ws : Weightings} (hv : ws.Valid) {room : Room}
    (m : Measure) : Weighting.breakdown? room m (ws m) = none := by
  refine Weighting.breakdown?_eq_none_iff.mpr ⟨?_, fun hout => ?_⟩
  · rcases (hv m).optional with hnull | hy
    · rw [hnull]
      rfl
    · cases m with
      | green | quiet =>
        obtain ⟨x, hx, -⟩ := hy.number
        rw [hx]
        rfl
      | steepnessDifficulty =>
        obtain ⟨n, hn, -⟩ := hy.integer
        rw [hn]
        rfl
  · rw [Weighting.isLeftOut, hv.isWritable_eq m] at hout
    cases hnull : (ws m).isNull <;> simp [hnull] at hout

/-- The measures that a request says something of, in order. -/
def Options.measures (o : Options) : List Measure :=
  match o.weightings? with
  | some ws => Measure.all.filter fun m => !(ws m).isNull
  | none => []

/-- What a request says of a measure, null for nothing. -/
def Options.weighting (o : Options) (m : Measure) : Document :=
  match o.weightings? with
  | some ws => ws m
  | none => .null

lemma Options.measures_eq (o : Options) :
    o.measures = Measure.all.filter fun m => !(o.weighting m).isNull := by
  unfold measures weighting
  cases o.weightings? <;> rfl

/-- What valid options say of a measure is a normal form of its shape. -/
lemma Options.Valid.yields {o : Options} (hv : o.Valid) {m : Measure} (hm : m ∈ o.measures) :
    m.shape.Yields (o.weighting m) := by
  rw [o.measures_eq, List.mem_filter] at hm
  unfold weighting at hm ⊢
  cases hws : o.weightings? with
  | none => simp [hws, Document.isNull] at hm
  | some ws =>
    refine (hv.weightings ws hws m).optional.resolve_left fun hnull => ?_
    simp [hws, hnull, Document.isNull] at hm

/-- Of valid weightings none is left out, and each is written. -/
lemma Options.Valid.exists_text {o : Options} (hv : o.Valid) {a : Weighting.Applied}
    (ha : o.applied room = .ok a) :
    a.notes = [] ∧ ∃ text : Measure → String,
      a.weightings = o.measures.map (fun m => ⟨m.name, [(m.parameter, text m)]⟩) ∧
        ∀ m ∈ o.measures, Weighting.valueText m (o.weighting m) = .ok (.ok (text m)) := by
  cases hws : o.weightings? with
  | none =>
    simp only [applied, hws, Except.ok.injEq] at ha
    rw [← ha]
    exact ⟨rfl, fun _ => "", by simp [measures, hws], by simp [measures, hws]⟩
  | some ws =>
    have hwv := hv.weightings ws hws
    obtain ⟨text, flaw, hwritten⟩ : ∃ text flaw, Weighting.Written room ws text flaw :=
      Weighting.exists_written fun m => hwv.breakdown?_eq_none m
    simp only [applied, hws, Weighting.applyAll, Weighting.applyEach_eq hwritten] at ha
    obtain rfl := Except.ok.inj ha
    refine ⟨?_, text, ?_, fun m hm => ?_⟩
    · simp [Weighting.isLeftOut, hwv.isWritable_eq]
    · simp [measures, hws, hwv.isWritable_eq]
    · simp only [measures, hws, List.mem_filter, ← hwv.isWritable_eq] at hm
      simpa only [weighting, hws] using hwritten.text m hm.2

/-- Valid weightings are written within their bounds. -/
lemma exists_weightings_of_valid {o : Options} (hv : o.Valid) {profile : Int} {p : Parameters}
    (hp : (convertParameters handler room o profile).outcome = .ok p) :
    p.notes = [] ∧ ∃ text : Measure → String,
      p.weightings = o.measures.map (fun m => ⟨m.name, [(m.parameter, text m)]⟩) ∧
        ∀ m ∈ o.measures, m.Keeps (text m) := by
  obtain ⟨q, applied, hq, happlied, -, rfl⟩ := convertParameters_eq_ok_iff.mp hp
  obtain ⟨hweightings, hnotes⟩ := convertLimits_eq_ok_empty hq
  obtain ⟨hnone, text, htext, hwritten⟩ := hv.exists_text happlied
  exact ⟨by simp [Parameters.add, hnotes, hnone], text,
    by simp [Parameters.add, hweightings, htext],
    fun m hm => Measure.keeps_of_yields (hv.yields hm) (hwritten m hm)⟩

/-! ## Limits -/

/-- A restriction that a request may give sets its limit within the bounds of the limit. -/
lemma Restrictions.Valid.keeps {rs : Restrictions} (hv : rs.Valid) {r : Restriction}
    (hr : r.limitValue (rs r) ≠ .null) : r.limit.Keeps (r.limitValue (rs r)) := by
  -- null sets nothing, so the value is a normal form of the shape of the restriction
  have hy : r.shape.Yields (rs r) := by
    refine (hv r).optional.resolve_left fun hnull => ?_
    rw [hnull] at hr
    exact hr r.limitValue_null
  cases r with
  | gradient =>
    obtain ⟨n, hn, hkeeps⟩ := hy.exists_integer
    rw [hn]
    exact ⟨n, rfl, hkeeps (.atLeast 1) (by simp), hkeeps (.atMost 35) (by simp)⟩
  | trailDifficulty =>
    obtain ⟨n, hn, hkeeps⟩ := hy.exists_integer
    rw [hn]
    exact ⟨n, rfl, hkeeps (.atLeast 0) (by simp), hkeeps (.atMost 6) (by simp)⟩
  | maximumIncline =>
    obtain ⟨n, hn, hkeeps⟩ := hy.exists_integer
    rw [hn]
    exact ⟨n, rfl, hkeeps (.atLeast 0) (by simp)⟩
  | maximumSlopedKerb =>
    obtain ⟨x, v, hx, hv, hkeeps⟩ := hy.exists_value (by simp) (by decide)
    have hlow : Extended.ofRat ((0 : ℤ) : ℚ) ≤ v := hkeeps (.atLeast 0) (by simp)
    rw [Int.cast_zero] at hlow
    rw [hx]
    exact ⟨x, v, rfl, hv, hlow⟩
  | length | width | height | weight | axleload | minimumWidth =>
    obtain ⟨x, v, hx, hv, hkeeps⟩ := hy.exists_value (by simp) (by decide)
    have hlow : Extended.ofRat ((0 : ℤ) : ℚ) < v := hkeeps (.above 0) (by simp)
    rw [Int.cast_zero] at hlow
    rw [hx]
    exact ⟨x, v, rfl, hv, hlow⟩
  | surfaceType | trackType | smoothnessType =>
    obtain ⟨s, hs⟩ := hy.text
    rw [hs]
    exact ⟨_, rfl, Nat.succ_pos _⟩
  | hazmat =>
    obtain ⟨b, hb⟩ := hy.boolean
    rw [hb] at hr ⊢
    cases b with
    | true => rfl
    | false => exact absurd rfl hr

/-! ## Converted parameters -/

/-- **Numbers stay within their bounds.**  Whatever the profile, when the parameters of valid
options are converted, nothing is left out: every measure that the request says something of becomes
a weighting, in order, and its text denotes a value within the bounds of the measure.  Every limit
that is set has a value of its kind within its bounds. -/
theorem keeps_convertParameters {handler : Handler} {room : Room} {d o : Document} {profile : Int}
    {p : Parameters} (ho : optionsShape.check d = .ok o)
    (hp : (convertParameters handler room (Options.ofDocument o) profile).outcome = .ok p) :
    p.notes = [] ∧
      (∃ text : Measure → String,
        p.weightings = (Options.ofDocument o).measures.map
          (fun m => ⟨m.name, [(m.parameter, text m)]⟩) ∧
        ∀ m ∈ (Options.ofDocument o).measures, m.Keeps (text m)) ∧
      ∀ name value, (name, value) ∈ p.limitsDocument.members →
        ∃ l : Limit, l.name = name ∧ l.Keeps value := by
  have hvalid : (Options.ofDocument o).Valid := Options.valid_of_yields ⟨d, ho⟩
  obtain ⟨hnotes, hweightings⟩ := exists_weightings_of_valid hvalid hp
  refine ⟨hnotes, hweightings, fun name value hmem => ?_⟩
  obtain ⟨⟨l, v⟩, he, hlv⟩ := List.mem_map.mp hmem
  obtain ⟨rfl, rfl⟩ := Prod.mk.inj hlv
  obtain ⟨q, hq, hvariant, hlimits⟩ := convertParameters_eq_ok hp
  have hentries : p.entries = q.entries := by rw [Parameters.entries, hvariant, hlimits]; rfl
  rw [hentries] at he
  obtain ⟨rs, r, hrs, rfl, rfl, hne, -⟩ :=
    exists_limitValue_of_mem_entries hvalid.restrictions hq he
  exact ⟨r.limit, rfl, (hvalid.restrictions rs hrs).keeps hne⟩

/-- Options of a hike through green surroundings that is neither steep nor difficult; one of the
numbers is given as a text. -/
def hikeOptions : Document :=
  .object [("profile_params", .object
    [("restrictions", .object [("gradient", .text "7")]),
     ("weightings", .object
      [("green", .number (.ofDecimal false 999 (-3))), ("steepness_difficulty", .integer 2)])])]

/-- The factor is rounded up to one, and not beyond. -/
theorem keeps_hikeOptions :
    ∃ o p, optionsShape.check hikeOptions = .ok o ∧
      (convertParameters (.standard .route) .hundred (Options.ofDocument o) 21).outcome = .ok p ∧
      p.notes = [] ∧
      p.weightings = [⟨"green", [("factor", "1.00")]⟩, ⟨"steepness_difficulty", [("level", "2")]⟩] ∧
      Measure.green.Keeps "1.00" ∧ Measure.steepnessDifficulty.Keeps "2" ∧
      ∃ v, p.limitsDocument.members = [("maximum_gradient", v)] ∧
        ∃ l : Limit, l.name = "maximum_gradient" ∧ l.Keeps v := by
  let convert (o : Document) :=
    convertParameters (.standard .route) .hundred (Options.ofDocument o) 21
  have hrun : ((optionsShape.check hikeOptions).toOption.bind fun o =>
      (convert o).outcome.toOption.map fun p =>
        (p.weightings, (Options.ofDocument o).measures, p.limitsDocument.members.map Prod.fst)) =
      some ([⟨"green", [("factor", "1.00")]⟩, ⟨"steepness_difficulty", [("level", "2")]⟩],
        [.green, .steepnessDifficulty], ["maximum_gradient"]) := by
    decide +kernel
  cases ho : optionsShape.check hikeOptions with
  | error issues => simp [ho, Except.toOption] at hrun
  | ok o =>
    cases hp : (convert o).outcome with
    | error e => simp [ho, hp, Except.toOption] at hrun
    | ok p =>
      obtain ⟨hw, hm, v, hv⟩ : p.weightings =
            [⟨"green", [("factor", "1.00")]⟩, ⟨"steepness_difficulty", [("level", "2")]⟩] ∧
          (Options.ofDocument o).measures = [.green, .steepnessDifficulty] ∧
          ∃ v, p.limitsDocument.members = [("maximum_gradient", v)] := by
        simpa [ho, hp, Except.toOption] using hrun
      obtain ⟨hnotes, ⟨text, htext, hkeeps⟩, hlimits⟩ := keeps_convertParameters ho hp
      obtain ⟨hgreen, hsteep⟩ : "1.00" = text .green ∧ "2" = text .steepnessDifficulty := by
        simpa [hw, hm, Measure.name, Measure.parameter] using htext
      refine ⟨o, p, rfl, hp, hnotes, hw, ?_, ?_, v, hv, hlimits _ v (by simp [hv])⟩
      · rw [hgreen]
        exact hkeeps .green (by simp [hm])
      · rw [hsteep]
        exact hkeeps .steepnessDifficulty (by simp [hm])

end RouteIntake
