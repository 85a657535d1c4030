import RouteIntake.Conversion
import RouteIntake.Proofs.Outcome

/-!
# Lists of features as sets

A list of features is converted to a number, from left to right.  What comes of it is stated here
with the tables alone, without the conversion:

* `Feature.HasBit d b`: a document names the feature of a bit, in any letter case;
* `Feature.Admitted`: the category of the profile admits that bit;
* `Feature.Refused`: why a document that is not admitted is refused.

The lemmas are about one feature first and then about several, by induction on the list.  The main
statement is that the number is the union of the features, so that neither their order nor their
repetition matters, and that a list fails for the first feature that is not admitted:

* `convertFeatureList_union`.
-/

namespace RouteIntake

open Text

namespace Feature

/-- A document names the feature of a bit, in any letter case. -/
def HasBit (d : Document) (b : ℕ) : Prop := (lower d.plain, 2 ^ b) ∈ table

/-- A document names a feature whose bit is in the mask of the category of the profile. -/
def Admitted (profile : Int) (d : Document) : Prop :=
  ∃ b, HasBit d b ∧ (allowed (Profile.category profile)).testBit b = true

/-- Why a handler refuses a document as a feature. -/
inductive Refused (handler : Handler) (profile : Int) (d : Document) : Failure → Prop
  /-- Its name, in lower case, is not in the table. -/
  | unknown (h : lower d.plain ∉ names) :
    Refused handler profile d
      (handler.failure "INVALID_PARAMETER_VALUE" (.unknownValue "avoid_features" d.plain))
  /-- It names a feature whose bit is not in the mask of the category of the profile. -/
  | excluded (b : ℕ) (h : HasBit d b)
      (hout : (allowed (Profile.category profile)).testBit b = false) :
    Refused handler profile d
      (handler.failure "INVALID_PARAMETER_VALUE"
        (.incompatible "avoid_features" d.plain "profile" (Profile.nameOf profile)))

/-! ## Bits -/

variable {profile : Int} {d : Document} {b : ℕ}

/-- A feature has no other flag than that of its bit. -/
lemma HasBit.flagOf_eq (h : HasBit d b) : flagOf d.plain = 2 ^ b := by
  have hlookup : ∀ e ∈ table, table.lookup e.1 = some e.2 := by decide +kernel
  rw [flagOf, hlookup _ h]
  rfl

/-- A feature has only one bit. -/
lemma HasBit.iff_eq (h : HasBit d b) {c : ℕ} : HasBit d c ↔ b = c := by
  constructor
  · intro hc
    exact Nat.pow_right_injective le_rfl (h.flagOf_eq.symm.trans hc.flagOf_eq)
  · rintro rfl
    exact h

/-- Every name of the table goes with a bit. -/
lemma exists_hasBit_iff : (∃ b, HasBit d b) ↔ lower d.plain ∈ names := by
  constructor
  · rintro ⟨b, hb⟩
    exact List.mem_map.mpr ⟨_, hb, rfl⟩
  · intro h
    have hpow : ∀ e ∈ table, ∃ b < 5, e.2 = 2 ^ b := by decide +kernel
    obtain ⟨⟨name, flag⟩, he, rfl⟩ := List.mem_map.mp h
    obtain ⟨b, -, rfl⟩ := hpow _ he
    exact ⟨b, he⟩

/-- A name that is not in the table has no flag. -/
lemma flagOf_eq_zero {name : String} (h : lower name ∉ names) : flagOf name = 0 := by
  have hlookup : table.lookup (lower name) = none := by
    rw [List.lookup_eq_none_iff]
    intro e he
    rw [bne_iff_ne]
    intro hname
    exact h (hname ▸ List.mem_map.mpr ⟨e, he, rfl⟩)
  rw [flagOf, hlookup]
  rfl

/-- A set is valid when it is not empty and all of its bits are in the mask of the category. -/
lemma isValid_natCast_iff {n : ℕ} :
    isValid profile (n : Int) = true ↔
      n ≠ 0 ∧ ∀ b, n.testBit b = true → (allowed (Profile.category profile)).testBit b = true := by
  have hwithin : ∀ m : ℕ, within m (n : Int) = ((m &&& n : ℕ) : Int) := fun m => rfl
  have hsubset : ∀ m : ℕ, m &&& n = n ↔ ∀ b, n.testBit b = true → m.testBit b = true := by
    intro m
    constructor
    · intro h b hb
      rw [← h, Nat.testBit_and, Bool.and_eq_true] at hb
      exact hb.1
    · intro h
      refine Nat.eq_of_testBit_eq fun b => ?_
      rw [Nat.testBit_and]
      cases hb : n.testBit b with
      | false => rw [Bool.and_false]
      | true => rw [h b hb, Bool.and_true]
  simp only [isValid, hwithin, Bool.and_eq_true, Bool.not_eq_true', beq_eq_false_iff_ne, beq_iff_eq,
    Nat.cast_inj, Nat.cast_eq_zero, ne_eq, hsubset]

/-- A single bit is valid when it is in the mask of the category. -/
lemma isValid_two_pow :
    isValid profile ((2 ^ b : ℕ) : Int) = (allowed (Profile.category profile)).testBit b := by
  rw [Bool.eq_iff_iff, isValid_natCast_iff]
  simp [Nat.testBit_two_pow]

end Feature

/-! ## One feature -/

open Feature

variable {handler : Handler} {profile : Int} {d : Document} {b : ℕ}

lemma convertFeature_of_notMem (h : lower d.plain ∉ names) :
    convertFeature handler profile d =
      handler.reject "INVALID_PARAMETER_VALUE" (.unknownValue "avoid_features" d.plain) := by
  simp [convertFeature, flagOf_eq_zero h]

lemma convertFeature_of_hasBit (h : HasBit d b) :
    convertFeature handler profile d =
      if (allowed (Profile.category profile)).testBit b then .ok (2 ^ b)
      else
        handler.reject "INVALID_PARAMETER_VALUE"
          (.incompatible "avoid_features" d.plain "profile" (Profile.nameOf profile)) := by
  have hpos : (2 ^ b == 0) = false := beq_eq_false_iff_ne.mpr (Nat.two_pow_pos b).ne'
  simp only [convertFeature, h.flagOf_eq, hpos, isValid_two_pow, Bool.false_eq_true, if_false]

/-- A feature is converted to its bit when it is admitted. -/
lemma convertFeature_eq_ok_iff {flag : ℕ} :
    convertFeature handler profile d = .ok flag ↔
      ∃ b, HasBit d b ∧ (allowed (Profile.category profile)).testBit b = true ∧ flag = 2 ^ b := by
  by_cases hname : lower d.plain ∈ names
  · obtain ⟨b, hb⟩ := exists_hasBit_iff.mpr hname
    rw [convertFeature_of_hasBit hb]
    simp only [hb.iff_eq, exists_eq_left']
    cases (allowed (Profile.category profile)).testBit b <;> simp [Handler.reject, eq_comm]
  · rw [convertFeature_of_notMem hname]
    constructor
    · rintro ⟨⟩
    · rintro ⟨b, hb, -⟩
      exact absurd (exists_hasBit_iff.mp ⟨b, hb⟩) hname

/-- A feature that is not converted is refused. -/
lemma convertFeature_eq_error_iff_refused {e : Failure} :
    convertFeature handler profile d = .error e ↔ Refused handler profile d e := by
  by_cases hname : lower d.plain ∈ names
  · obtain ⟨b, hb⟩ := exists_hasBit_iff.mpr hname
    rw [convertFeature_of_hasBit hb]
    cases hin : (allowed (Profile.category profile)).testBit b with
    | true =>
      constructor
      · rintro ⟨⟩
      · rintro (h | ⟨c, hc, hout⟩)
        · exact absurd hname h
        · rw [← hb.iff_eq.mp hc, hin] at hout
          cases hout
    | false =>
      constructor
      · rintro ⟨⟩
        exact .excluded b hb hin
      · rintro (h | ⟨c, hc, hout⟩)
        · exact absurd hname h
        · rfl
  · rw [convertFeature_of_notMem hname]
    constructor
    · rintro ⟨⟩
      exact .unknown hname
    · rintro (h | ⟨c, hc, hout⟩)
      · rfl
      · exact absurd (exists_hasBit_iff.mp ⟨c, hc⟩) hname

/-! ## Several features -/

variable {ds : List Document} {flags : ℕ}

/-- Features that are converted are all admitted, and their number has the bits that they name. -/
lemma admitted_and_testBit_of_convertFeatures (h : convertFeatures handler profile ds = .ok flags) :
    (∀ d ∈ ds, Admitted profile d) ∧
      ∀ b, flags.testBit b = true ↔ ∃ d ∈ ds, HasBit d b := by
  induction ds generalizing flags with
  | nil =>
    obtain rfl := Except.ok.inj h
    simp
  | cons d ds ih =>
    simp only [convertFeatures, bind_eq_ok, Except.ok.injEq] at h
    obtain ⟨flag, hflag, rest, hrest, rfl⟩ := h
    obtain ⟨b, hb, hin, rfl⟩ := convertFeature_eq_ok_iff.mp hflag
    obtain ⟨hall, hbits⟩ := ih hrest
    refine ⟨List.forall_mem_cons.mpr ⟨⟨b, hb, hin⟩, hall⟩, fun c => ?_⟩
    show (2 ^ b ||| rest).testBit c = true ↔ _
    rw [Nat.testBit_or, Bool.or_eq_true, Nat.testBit_two_pow, decide_eq_true_eq, hbits,
      List.exists_mem_cons_iff, hb.iff_eq]

/-- Features that are all admitted are converted. -/
lemma exists_convertFeatures_eq_ok (h : ∀ d ∈ ds, Admitted profile d) :
    ∃ flags, convertFeatures handler profile ds = .ok flags := by
  induction ds with
  | nil => exact ⟨0, rfl⟩
  | cons d ds ih =>
    obtain ⟨⟨b, hb, hin⟩, hds⟩ := List.forall_mem_cons.mp h
    obtain ⟨rest, hrest⟩ := ih hds
    have hflag : convertFeature handler profile d = .ok (2 ^ b) :=
      convertFeature_eq_ok_iff.mpr ⟨b, hb, hin, rfl⟩
    exact ⟨_, by rw [convertFeatures, hflag, ok_bind, hrest, ok_bind]⟩

/-- Features are converted to a number when they are all admitted and the number has the bits that
they name. -/
lemma convertFeatures_eq_ok_iff :
    convertFeatures handler profile ds = .ok flags ↔
      (∀ d ∈ ds, Admitted profile d) ∧
        ∀ b, flags.testBit b = true ↔ ∃ d ∈ ds, HasBit d b := by
  refine ⟨admitted_and_testBit_of_convertFeatures, fun ⟨hall, hbits⟩ => ?_⟩
  obtain ⟨flags', hflags'⟩ := exists_convertFeatures_eq_ok hall
  obtain ⟨-, hbits'⟩ := admitted_and_testBit_of_convertFeatures hflags'
  have heq : flags = flags' := by
    refine Nat.eq_of_testBit_eq fun b => ?_
    rw [Bool.eq_iff_iff, hbits, hbits']
  rw [heq, hflags']

/-- Features fail for the first of them that is refused. -/
lemma convertFeatures_eq_error_iff {e : Failure} :
    convertFeatures handler profile ds = .error e ↔
      ∃ before d after, ds = before ++ d :: after ∧ (∀ d' ∈ before, Admitted profile d') ∧
        Refused handler profile d e := by
  induction ds with
  | nil => simp [convertFeatures]
  | cons d ds ih =>
    simp only [convertFeatures, bind_eq_error, reduceCtorEq, and_false, exists_false, or_false, ih]
    constructor
    · rintro (h | ⟨flag, hflag, before, d', after, rfl, hbefore, hrefused⟩)
      · exact ⟨[], d, ds, rfl, by simp, convertFeature_eq_error_iff_refused.mp h⟩
      · obtain ⟨b, hb, hin, -⟩ := convertFeature_eq_ok_iff.mp hflag
        exact ⟨d :: before, d', after, rfl, List.forall_mem_cons.mpr ⟨⟨b, hb, hin⟩, hbefore⟩,
          hrefused⟩
    · rintro ⟨before, d', after, hds, hbefore, hrefused⟩
      cases before with
      | nil =>
        obtain ⟨rfl, rfl⟩ := List.cons.inj hds
        exact Or.inl (convertFeature_eq_error_iff_refused.mpr hrefused)
      | cons first before =>
        obtain ⟨rfl, rfl⟩ := List.cons.inj hds
        obtain ⟨⟨b, hb, hin⟩, hbefore⟩ := List.forall_mem_cons.mp hbefore
        exact Or.inr ⟨2 ^ b, convertFeature_eq_ok_iff.mpr ⟨b, hb, hin, rfl⟩, before, d', after, rfl,
          hbefore, hrefused⟩

/-- Features that are not converted have one among them that is refused. -/
lemma exists_refused_of_convertFeatures {e : Failure}
    (h : convertFeatures handler profile ds = .error e) :
    ∃ d ∈ ds, Refused handler profile d e := by
  obtain ⟨before, d, after, rfl, -, hrefused⟩ := convertFeatures_eq_error_iff.mp h
  exact ⟨d, by simp, hrefused⟩

/-- A set that is converted from at least one feature is valid. -/
lemma isValid_of_convertFeatures (h : convertFeatures handler profile ds = .ok flags)
    (hds : ds ≠ []) :
    isValid profile (flags : Int) = true := by
  obtain ⟨hall, hbits⟩ := convertFeatures_eq_ok_iff.mp h
  refine isValid_natCast_iff.mpr ⟨?_, fun b hb => ?_⟩
  · obtain ⟨d, ds, rfl⟩ := List.exists_cons_of_ne_nil hds
    obtain ⟨b, hb, -⟩ := hall d List.mem_cons_self
    have hset : flags.testBit b = true := (hbits b).mpr ⟨d, List.mem_cons_self, hb⟩
    rintro rfl
    rw [Nat.zero_testBit] at hset
    cases hset
  · obtain ⟨d, hd, hdb⟩ := (hbits b).mp hb
    obtain ⟨c, hc, hin⟩ := hall d hd
    rwa [hdb.iff_eq.mp hc]

/-- **Features are converted to their union.**  A list of features is converted for a profile
exactly when each of them is admitted: its name, in lower case, is in the table, and its bit is in
the mask of the category of the profile.  The number then has the bits of the features in the list
and no others, so that any list of the same features gives the same number, and it is a valid set
for the profile unless the list is empty.  Otherwise the list is rejected for the first feature that
is not admitted: as unknown where its name is not in the table, and as incompatible with the
profile, which is named, where it is. -/
theorem convertFeatureList_union (handler : Handler) (profile : Int) (ds : List Document) :
    ((∃ flags, convertFeatureList handler (.array ds) profile = .ok flags) ↔
        ∀ d ∈ ds, Admitted profile d) ∧
      (∀ flags, convertFeatureList handler (.array ds) profile = .ok flags →
        (∀ b, flags.testBit b = true ↔ ∃ d ∈ ds, HasBit d b) ∧
        (∀ ds' : List Document, (∀ d, d ∈ ds' ↔ d ∈ ds) →
          convertFeatureList handler (.array ds') profile = .ok flags) ∧
        (ds ≠ [] → isValid profile (flags : Int) = true)) ∧
      ∀ e, convertFeatureList handler (.array ds) profile = .error e ↔
        ∃ before d after, ds = before ++ d :: after ∧ (∀ d' ∈ before, Admitted profile d') ∧
          Refused handler profile d e := by
  have hlist : ∀ ds, convertFeatureList handler (.array ds) profile =
      convertFeatures handler profile ds :=
    fun _ => rfl
  simp only [hlist]
  refine ⟨⟨?_, exists_convertFeatures_eq_ok⟩, fun flags h => ⟨?_, fun ds' hds' => ?_, ?_⟩,
    fun e => convertFeatures_eq_error_iff⟩
  · rintro ⟨flags, h⟩
    exact (convertFeatures_eq_ok_iff.mp h).1
  · exact (convertFeatures_eq_ok_iff.mp h).2
  · -- admission and bits ask only which features there are
    rw [convertFeatures_eq_ok_iff] at h ⊢
    simpa only [hds'] using h
  · exact isValid_of_convertFeatures h

/-- Steps and ferries make one set for bicycles however they are written and repeated.  Tollways are
not admitted; they are what the list fails for, although an unknown word comes after them. -/
theorem convertFeatureList_union_steps :
    (∃ flags, convertFeatureList (.standard .route)
        (.array [.constant "AvoidFeatures" "steps", .text "FERRIES", .text "steps"]) 10 =
          .ok flags ∧
      (∀ b, flags.testBit b = true ↔ b = 2 ∨ b = 4) ∧
      convertFeatureList (.standard .route)
        (.array [.text "FERRIES", .text "steps", .text "FERRIES",
          .constant "AvoidFeatures" "steps"]) 10 = .ok flags ∧
      isValid 10 (flags : Int) = true) ∧
    convertFeatureList (.standard .route)
        (.array [.text "steps", .text "Tollways", .text "lava"]) 10 =
      .error (.rejected (.integer 2003)
        (.incompatible "avoid_features" "Tollways" "profile" "cycling-regular")) := by
  have hsteps : HasBit (.constant "AvoidFeatures" "steps") 4 ∧ HasBit (.text "steps") 4 ∧
      HasBit (.text "FERRIES") 2 := by
    unfold HasBit
    decide +kernel
  obtain ⟨hmember, hword, hferries⟩ := hsteps
  have hadmitted : ∀ b ∈ [2, 4], (Feature.allowed (Profile.category 10)).testBit b = true := by
    decide +kernel
  refine ⟨?_, ?_⟩
  · obtain ⟨hiff, hset, -⟩ := convertFeatureList_union (.standard .route) 10
      [.constant "AvoidFeatures" "steps", .text "FERRIES", .text "steps"]
    obtain ⟨flags, hflags⟩ := hiff.mpr <| by
      simp only [List.forall_mem_cons, List.not_mem_nil, false_imp_iff, implies_true, and_true]
      exact ⟨⟨4, hmember, hadmitted 4 (by simp)⟩, ⟨2, hferries, hadmitted 2 (by simp)⟩,
        ⟨4, hword, hadmitted 4 (by simp)⟩⟩
    obtain ⟨hbits, hsame, hvalid⟩ := hset flags hflags
    refine ⟨flags, hflags, fun b => ?_, hsame _ fun d => ?_, hvalid (by simp)⟩
    · rw [hbits]
      simp only [List.exists_mem_cons_iff, hmember.iff_eq, hferries.iff_eq, hword.iff_eq,
        List.not_mem_nil, false_and, exists_false, or_false]
      omega
    · simp only [List.mem_cons, List.not_mem_nil, or_false]
      tauto
  · obtain ⟨-, -, hfirst⟩ := convertFeatureList_union (.standard .route) 10
      [.text "steps", .text "Tollways", .text "lava"]
    refine (hfirst _).mpr ⟨[.text "steps"], .text "Tollways", [.text "lava"], rfl, ?_, ?_⟩
    · exact List.forall_mem_singleton.mpr ⟨4, hword, hadmitted 4 (by simp)⟩
    · exact .excluded 1 (by unfold HasBit; decide +kernel) (by decide +kernel)

end RouteIntake
