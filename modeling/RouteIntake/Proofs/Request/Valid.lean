import RouteIntake.Proofs.Schema.Normal
import RouteIntake.Request

/-!
# What validated requests are made of

A conversion starts from options and requests that validation has given.  `Restrictions.Valid`,
`Weightings.Valid`, `Options.Valid` and `Request.Valid` say what these are made of: null where
nothing is said, and otherwise a normal form of the shape that the place declares.  They are what
the conversion may rely on, and they follow from the checks of the shapes.

The lemmas after them say which kinds of values that leaves, as far as the conversion asks.
-/

namespace RouteIntake

open Schema

/-- Restrictions that validation can give. -/
def Restrictions.Valid (rs : Restrictions) : Prop :=
  ∀ r, (Shape.optional r.shape).Yields (rs r)

/-- Weightings that validation can give. -/
def Weightings.Valid (ws : Weightings) : Prop :=
  ∀ m, (Shape.optional m.shape).Yields (ws m)

/-- Options that validation can give. -/
structure Options.Valid (o : Options) : Prop where
  /-- The features are null or a list of names of features. -/
  avoidFeatures : (Shape.optional (.list 0 (.choice Feature.names))).Yields o.avoidFeatures
  /-- The borders are null or one of the choices. -/
  avoidBorders : (Shape.optional (.choice Borders.requestable)).Yields o.avoidBorders
  /-- The vehicle is null or one of the kinds. -/
  vehicleType : (Shape.optional (.choice Vehicle.requestable)).Yields o.vehicleType
  /-- The restrictions are valid, if there are any. -/
  restrictions : ∀ rs, o.restrictions? = some rs → rs.Valid
  /-- The weightings are valid, if there are any. -/
  weightings : ∀ ws, o.weightings? = some ws → ws.Valid
  /-- The areas are null or an object. -/
  avoidPolygons : (Shape.optional (.dictionary .anything)).Yields o.avoidPolygons

/-- Requests that validation can give. -/
structure Request.Valid (r : Request) : Prop where
  /-- The profile is one that a request may name. -/
  profile : ∃ name ∈ Profile.requestable, r.profile = .text name
  /-- The options are valid. -/
  options : r.options.Valid

/-! ## Validity from the checks -/

/-- An optional field of a normal record is null or a normal form of its shape. -/
lemma yields_optionalField {name : String} {closed : Bool} {fields : List Field} {d : Document}
    (h : (Shape.record name closed fields).Yields d) (hn : (fields.map Field.name).Nodup)
    {fieldName : String} {shape : Shape} (hf : optionalField fieldName shape ∈ fields) :
    (Shape.optional shape).Yields (d.fieldOrNull fieldName) := by
  rcases h.field hn hf with h | h
  · exact h
  · rw [Presence.standard.injEq] at h
    rw [← h]
    exact Shape.Yields.optional_null shape

lemma Restrictions.valid_of_yields {d : Document} (h : restrictionsShape.Yields d) :
    (Restrictions.ofDocument d).Valid := by
  intro r
  exact yields_optionalField h (by decide) (List.mem_map.mpr ⟨r, r.mem_all, rfl⟩)

lemma Weightings.valid_of_yields {d : Document} (h : weightingsShape.Yields d) :
    (Weightings.ofDocument d).Valid := by
  intro m
  have hm : m ∈ Measure.all := by cases m <;> decide
  exact yields_optionalField h (by decide) (List.mem_map.mpr ⟨m, hm, rfl⟩)

/-- What is read from an optional field comes from a normal form of its shape. -/
lemma exists_of_toOption_map {α : Type} {shape : Shape} {d : Document} {f : Document → α} {a : α}
    (h : (Shape.optional shape).Yields d) (ha : d.toOption.map f = some a) :
    shape.Yields d ∧ a = f d := by
  cases d with
  | null => simp [Document.toOption] at ha
  | _ =>
    simp only [Document.toOption, Option.map_some, Option.some.injEq] at ha
    exact ⟨h.optional.resolve_left (by simp), ha.symm⟩

lemma ProfileParams.valid_of_yields {d : Document} (h : profileParamsShape.Yields d) :
    (∀ rs, (ProfileParams.ofDocument d).restrictions = some rs → rs.Valid) ∧
      (∀ ws, (ProfileParams.ofDocument d).weightings = some ws → ws.Valid) := by
  constructor
  · intro rs hrs
    have hy : (Shape.optional restrictionsShape).Yields (d.fieldOrNull "restrictions") :=
      yields_optionalField h (by decide) (by simp)
    obtain ⟨hy, rfl⟩ := exists_of_toOption_map hy hrs
    exact Restrictions.valid_of_yields hy
  · intro ws hws
    have hy : (Shape.optional weightingsShape).Yields (d.fieldOrNull "weightings") :=
      yields_optionalField h (by decide) (by simp)
    obtain ⟨hy, rfl⟩ := exists_of_toOption_map hy hws
    exact Weightings.valid_of_yields hy

/-- What is read from normal options is valid. -/
lemma Options.valid_of_yields {d : Document} (h : optionsShape.Yields d) :
    (Options.ofDocument d).Valid := by
  have hn : (optionsShape.fieldNames).Nodup := by decide
  have hp : (Shape.optional profileParamsShape).Yields (d.fieldOrNull "profile_params") :=
    yields_optionalField h hn (by simp)
  have hparams : ∀ p, (Options.ofDocument d).profileParams = some p →
      (∀ rs, p.restrictions = some rs → rs.Valid) ∧
        (∀ ws, p.weightings = some ws → ws.Valid) := by
    intro p he
    obtain ⟨hy, rfl⟩ := exists_of_toOption_map hp he
    exact ProfileParams.valid_of_yields hy
  exact
    { avoidFeatures := yields_optionalField h hn (by simp)
      avoidBorders := yields_optionalField h hn (by simp)
      vehicleType := yields_optionalField h hn (by simp)
      restrictions := by
        intro rs hrs
        obtain ⟨p, he, hrs⟩ := Option.bind_eq_some_iff.mp hrs
        exact (hparams p he).1 rs hrs
      weightings := by
        intro ws hws
        obtain ⟨p, he, hws⟩ := Option.bind_eq_some_iff.mp hws
        exact (hparams p he).2 ws hws
      avoidPolygons := yields_optionalField h hn (by simp) }

/-- Options that are absent are valid too. -/
lemma Options.valid_of_default {d : Document}
    (h : optionsShape.Yields d ∨ Presence.standard noOptions = .standard d) :
    (Options.ofDocument d).Valid := by
  rcases h with h | h
  · exact Options.valid_of_yields h
  · rw [Presence.standard.injEq] at h
    rw [← h]
    exact Options.valid_of_yields ⟨.object [], rfl⟩

/-- What is read from a normal request is valid. -/
lemma Request.valid_of_yields {d : Document} (h : requestShape.Yields d) :
    (Request.ofDocument d).Valid := by
  have hn : (requestShape.fieldNames).Nodup := by decide
  refine ⟨?_, Options.valid_of_default (h.field hn (by simp [bodyFields, defaultField]))⟩
  rcases h.field hn (List.mem_cons_self : requiredField "profile" profileShape ∈ _) with h | h
  · exact h.choice
  · cases h

/-- A profile that is put before a body leaves the other fields of the body as they are. -/
lemma fieldOrNull_withProfile {profile body : Document} {name : String} (h : name ≠ "profile") :
    (withProfile profile body).fieldOrNull name = body.fieldOrNull name := by
  have hb : (name == "profile") = false := beq_eq_false_iff_ne.mpr h
  cases body <;>
    simp [withProfile, Document.fieldOrNull, Document.field?, Document.members, List.lookup_cons,
      hb]

/-- What is read from a normal body is valid with any profile that may be named. -/
lemma Request.valid_withProfile {d : Document} (h : bodyShape.Yields d) {profile : String}
    (hp : profile ∈ Profile.requestable) :
    (Request.ofDocument (withProfile (.text profile) d)).Valid := by
  have hn : (bodyShape.fieldNames).Nodup := by decide
  refine ⟨⟨profile, hp, rfl⟩, ?_⟩
  show (Options.ofDocument ((withProfile (.text profile) d).fieldOrNull "options")).Valid
  rw [fieldOrNull_withProfile (by decide)]
  exact Options.valid_of_default (h.field hn (by simp [bodyFields, defaultField]))

/-! ## The kinds of values -/

namespace Restrictions.Valid

variable {rs : Restrictions}

/-- Whether the load is hazardous is null or a boolean. -/
lemma hazmat (h : rs.Valid) : rs .hazmat = .null ∨ ∃ b, rs .hazmat = .boolean b :=
  (h .hazmat).optional.imp_right fun hy => hy.boolean

/-- A restriction whose shape is a text is null or a text. -/
lemma word (h : rs.Valid) {r : Restriction} (hr : r.shape = .text) :
    rs r = .null ∨ ∃ s, rs r = .text s := by
  rcases (h r).optional with hd | hy
  · exact Or.inl hd
  · rw [hr] at hy
    exact Or.inr hy.text

/-- Only a restriction whose shape is a text is a text. -/
lemma shape_eq_text (h : rs.Valid) {r : Restriction} {s : String} (hs : rs r = .text s) :
    r.shape = .text := by
  rcases (h r).optional with hd | hy
  · rw [hd] at hs
    cases hs
  · rw [hs] at hy
    cases r with
    | surfaceType | trackType | smoothnessType => rfl
    | gradient | trailDifficulty | maximumIncline =>
      obtain ⟨n, hn, -⟩ := hy.integer
      cases hn
    | hazmat =>
      obtain ⟨b, hb⟩ := hy.boolean
      cases hb
    | length | width | height | weight | axleload | maximumSlopedKerb | minimumWidth =>
      obtain ⟨x, hx, -⟩ := hy.number
      cases hx

end Restrictions.Valid

/-- Numbers below a power of ten are those with so many digits. -/
lemma Numeral.fitsDigits_iff {limit n : Nat} : fitsDigits limit n = true ↔ n < 10 ^ limit := by
  induction limit generalizing n with
  | zero => simp [fitsDigits]
  | succ limit ih =>
    have hpos : 0 < 10 ^ limit := Nat.pow_pos (by decide)
    simp only [fitsDigits, Bool.or_eq_true, beq_iff_eq, ih]
    rw [Nat.pow_succ]
    omega

/-- A number with two digits has a text. -/
lemma hasText_of_natAbs_lt {n : Int} (h : n.natAbs < 100) : Numeral.hasText n = true := by
  have hlimit : 10 ^ 2 ≤ 10 ^ Numeral.integerTextLimit :=
    Nat.pow_le_pow_right (by decide) (by decide)
  exact Numeral.fitsDigits_iff.mpr (h.trans_le hlimit)

/-- A valid value of a measure has a text unless it is null; it never breaks down. -/
lemma Weightings.Valid.exists_valueText {ws : Weightings} (h : ws.Valid) {m : Measure}
    (hm : ws m ≠ .null) : ∃ s, Weighting.valueText m (ws m) = .ok (.ok s) := by
  have hy : m.shape.Yields (ws m) := (h m).optional.resolve_left hm
  cases m with
  | green | quiet =>
    -- a factor is a number by now, so that no integer is left that might be too large
    obtain ⟨x, hx, -⟩ := hy.number
    rw [hx]
    exact ⟨_, rfl⟩
  | steepnessDifficulty =>
    obtain ⟨n, hn, hbounds⟩ := hy.integer
    have hlow : 0 ≤ n := of_decide_eq_true (hbounds (.atLeast 0) (by simp))
    have hhigh : n ≤ 3 := of_decide_eq_true (hbounds (.atMost 3) (by simp))
    have htext : Numeral.hasText n = true := hasText_of_natAbs_lt (by omega)
    refine ⟨toString n, ?_⟩
    rw [hn, Weighting.valueText, Weighting.levelText, htext]
    rfl

/-- The vehicle of valid options is null or the name of a kind. -/
lemma Options.Valid.vehicle {o : Options} (h : o.Valid) :
    o.vehicleType = .null ∨ ∃ w ∈ Vehicle.requestable, o.vehicleType = .text w :=
  h.vehicleType.optional.imp_right fun hy => hy.choice

end RouteIntake
