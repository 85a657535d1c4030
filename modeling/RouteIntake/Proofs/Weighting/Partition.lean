import RouteIntake.Proofs.Conversion.Parameters
import RouteIntake.Proofs.Numeral.Range

/-!
# Which weightings apply

The weightings of a request are taken in order.  Each that is there either applies or is left out
with a note and a warning; nothing is said of those that are not there.  Which of the two it is
depends on the value alone (`Weighting.isWritable`).  There is a third outcome, and it ends the
conversion: an integer that is too large for a factor, or a value that is left out and that the
warning cannot show (`Weighting.breakdown?`).

The lemmas follow one weighting first (`applyOne_eq`) and then several (`applyEach_eq`).  The main
statement is about weightings that nobody has checked:

* `convertParameters_weightings`: parameters that are converted without weightings are converted
  with them unless one of them breaks the conversion down, and the weightings that are there are
  divided into those that apply and those that are left out, both in order.
-/

namespace RouteIntake

open Numeral

namespace Weighting

/-- Whether a value is an integer that is too large for the factor that a measure asks for. -/
def isTooLarge (m : Measure) : Document → Bool
  | .integer n => !m.isLevel && Nat.ble Binary64.integerBound n.natAbs
  | _ => false

/-- Whether a value can be written as the parameter of a measure: a truth value for any measure, an
integer for a factor or with a text, any other number for a factor. -/
def isWritable (m : Measure) : Document → Bool
  | .boolean _ => true
  | .integer n => !m.isLevel || hasText n
  | .number _ => !m.isLevel
  | _ => false

/-- Whether a value is there but cannot be written. -/
def isLeftOut (m : Measure) (d : Document) : Bool := !d.isNull && !isWritable m d

/-- How a value breaks the conversion down, if it does: it is too large, or it is left out and
cannot be shown. -/
def breakdown? (room : Room) (m : Measure) (d : Document) : Option Breakdown :=
  if isTooLarge m d then some .overflow
  else if isLeftOut m d then d.unshowable? room.texts
  else none

/-- How the first of the values that break the conversion down does so, if any does. -/
def firstBreakdown? (room : Room) (ws : Weightings) (ms : List Measure) : Option Breakdown :=
  ms.findSome? fun m => breakdown? room m (ws m)

/-- A value that can be written is there. -/
lemma isNull_of_isWritable {m : Measure} {d : Document} (h : isWritable m d = true) :
    d.isNull = false := by
  cases d <;> first | rfl | cases h

/-! ## One value -/

/-- Only an integer that is too large breaks the writing of a value down. -/
lemma valueText_eq_error_iff {m : Measure} {d : Document} {b : Breakdown} :
    valueText m d = .error b ↔ isTooLarge m d = true ∧ b = .overflow := by
  cases hm : m.isLevel with
  | true => cases d <;> simp [valueText, isTooLarge, hm]
  | false =>
    cases d with
    | integer n =>
      cases hn : Binary64.ofInt? n with
      | none =>
        have hbound := Binary64.ofInt?_eq_none_iff.mp hn
        have hlarge : isTooLarge m (.integer n) = true := by simp [isTooLarge, hm, hbound]
        simp only [valueText, factorText, hm, hn, hlarge, Bool.false_eq_true, if_false, true_and,
          Except.error.injEq]
        exact eq_comm
      | some x =>
        have hbound : ¬Binary64.integerBound ≤ n.natAbs := by
          rw [← Binary64.ofInt?_eq_none_iff, hn]
          simp
        simp [valueText, factorText, isTooLarge, hm, hn, hbound]
    | _ => simp [valueText, factorText, isTooLarge, hm]

/-- A value that can be written has a text, unless it is too large. -/
lemma exists_valueText_eq_text {m : Measure} {d : Document} (hd : isTooLarge m d = false)
    (hw : isWritable m d = true) : ∃ s, valueText m d = .ok (.ok s) := by
  cases hv : valueText m d with
  | error b =>
    rw [(valueText_eq_error_iff.mp hv).1] at hd
    cases hd
  | ok x =>
    cases x with
    | ok s => exact ⟨s, rfl⟩
    | error flaw =>
      exfalso
      cases hm : m.isLevel with
      | true => cases d <;> simp_all [valueText, levelText, isWritable]
      | false =>
        cases d with
        | integer n =>
          simp only [valueText, hm, factorText, Bool.false_eq_true, if_false] at hv
          split at hv <;> cases hv
        | _ => simp_all [valueText, factorText, isWritable]

/-- Any other value has a flaw. -/
lemma exists_valueText_eq_flaw {m : Measure} {d : Document} (hw : isWritable m d = false) :
    ∃ flaw, valueText m d = .ok (.error flaw) := by
  cases hm : m.isLevel <;> cases d <;> simp_all [valueText, factorText, levelText, isWritable]

lemma breakdown?_eq_none_iff {room : Room} {m : Measure} {d : Document} :
    breakdown? room m d = none ↔
      isTooLarge m d = false ∧ (isLeftOut m d = true → d.unshowable? room.texts = none) := by
  unfold breakdown?
  cases isTooLarge m d <;> simp

/-- A value that breaks the conversion down does so where it is applied. -/
lemma outcome_applyOne_of_breakdown? {room : Room} {m : Measure} {d : Document} {b : Breakdown}
    (h : breakdown? room m d = some b) : (applyOne room m d).outcome = breakDown b := by
  unfold breakdown? at h
  cases hlarge : isTooLarge m d with
  | true =>
    have hb := valueText_eq_error_iff.mpr ⟨hlarge, rfl⟩
    have hnull : d.isNull = false := by
      cases d <;> first | rfl | cases hlarge
    simp only [hlarge, if_true, Option.some.injEq] at h
    simp only [applyOne, hnull, Bool.false_eq_true, if_false, hb, Traced.outcome_ofOutcome, h]
  | false =>
    simp only [hlarge, Bool.false_eq_true, if_false] at h
    split at h
    · rename_i hout
      obtain ⟨hnull, hw⟩ := (Bool.and_eq_true_iff.mp hout)
      simp only [Bool.not_eq_true'] at hnull hw
      obtain ⟨flaw, hflaw⟩ := exists_valueText_eq_flaw hw
      simp only [applyOne, hnull, Bool.false_eq_true, if_false, hflaw, leaveOut, h,
        Traced.outcome_ofOutcome]
    · cases h

/-- Any other value adds something, be it nothing. -/
lemma exists_applyOne_eq_ok {room : Room} {m : Measure} {d : Document}
    (h : breakdown? room m d = none) : ∃ applied, (applyOne room m d).outcome = .ok applied := by
  obtain ⟨hsmall, hshown⟩ := breakdown?_eq_none_iff.mp h
  cases hnull : d.isNull with
  | true => exact ⟨⟨[], []⟩, by simp only [applyOne, hnull, if_true, Traced.outcome_pure]⟩
  | false =>
    simp only [applyOne, hnull, Bool.false_eq_true, if_false]
    cases hw : isWritable m d with
    | true =>
      obtain ⟨s, hs⟩ := exists_valueText_eq_text hsmall hw
      rw [hs]
      exact ⟨_, rfl⟩
    | false =>
      obtain ⟨flaw, hflaw⟩ := exists_valueText_eq_flaw hw
      rw [hflaw]
      simp only [leaveOut, hshown (by simp [isLeftOut, hnull, hw])]
      exact ⟨_, rfl⟩

/-! ## Several values -/

/-- The note of a value that is left out. -/
def note (m : Measure) (flaw : Flaw) : String := m.name ++ ": " ++ flaw.message

/-- What is written of the values of a request: a text for each that can be written, and a flaw for
each that cannot, which is shown if it is there. -/
structure Written (room : Room) (ws : Weightings) (text : Measure → String)
    (flaw : Measure → Flaw) : Prop where
  text : ∀ m, isWritable m (ws m) = true → valueText m (ws m) = .ok (.ok (text m))
  flaw : ∀ m, isWritable m (ws m) = false → valueText m (ws m) = .ok (.error (flaw m))
  shown : ∀ m, isLeftOut m (ws m) = true → (ws m).unshowable? room.texts = none

variable {room : Room} {ws : Weightings} {text : Measure → String} {flaw : Measure → Flaw}

lemma exists_written (h : ∀ m, breakdown? room m (ws m) = none) :
    ∃ text flaw, Written room ws text flaw := by
  have hsmall (m : Measure) := (breakdown?_eq_none_iff.mp (h m)).1
  have htext : ∀ m, ∃ s, isWritable m (ws m) = true → valueText m (ws m) = .ok (.ok s) := by
    intro m
    by_cases hw : isWritable m (ws m) = true
    · obtain ⟨s, hs⟩ := exists_valueText_eq_text (hsmall m) hw
      exact ⟨s, fun _ => hs⟩
    · exact ⟨"", fun hw' => absurd hw' hw⟩
  have hflaw : ∀ m, ∃ f, isWritable m (ws m) = false → valueText m (ws m) = .ok (.error f) := by
    intro m
    cases hw : isWritable m (ws m) with
    | true => exact ⟨.formless "", fun hw' => by cases hw'⟩
    | false =>
      obtain ⟨f, hf⟩ := exists_valueText_eq_flaw hw
      exact ⟨f, fun _ => hf⟩
  choose text ht using htext
  choose flaw hf using hflaw
  exact ⟨text, flaw, ht, hf, fun m => (breakdown?_eq_none_iff.mp (h m)).2⟩

/-- What applying measures gives: a weighting for each value that can be written, a note and a
warning for each that is left out, all in the order of the measures. -/
def division (ws : Weightings) (text : Measure → String) (flaw : Measure → Flaw)
    (ms : List Measure) : Traced Failure Applied where
  log := (ms.filter fun m => isLeftOut m (ws m)).map fun m => skipWarning m (ws m) (flaw m)
  outcome := .ok
    { weightings := (ms.filter fun m => isWritable m (ws m)).map fun m =>
        ⟨m.name, [(m.parameter, text m)]⟩
      notes := (ms.filter fun m => isLeftOut m (ws m)).map fun m => note m (flaw m) }

/-- One measure is divided on its own. -/
lemma applyOne_eq (h : Written room ws text flaw) (m : Measure) :
    applyOne room m (ws m) = division ws text flaw [m] := by
  cases hnull : (ws m).isNull with
  | true =>
    have hw : isWritable m (ws m) = false := by rw [Document.isNull_eq_true.mp hnull]; rfl
    simp only [applyOne, division, isLeftOut, List.filter_cons, List.filter_nil, hnull, hw]
    rfl
  | false =>
    cases hw : isWritable m (ws m) with
    | true =>
      simp only [applyOne, division, isLeftOut, List.filter_cons, List.filter_nil, hnull, hw,
        h.text m hw]
      rfl
    | false =>
      have hshown := h.shown m (by simp [isLeftOut, hnull, hw])
      simp only [applyOne, leaveOut, division, isLeftOut, List.filter_cons, List.filter_nil, hnull,
        hw, h.flaw m hw, hshown]
      rfl

/-- What the first measures add stands before what the others add. -/
lemma division_append (ms ns : List Measure) :
    (division ws text flaw ms >>= fun first => division ws text flaw ns >>= fun others =>
        pure ⟨first.weightings ++ others.weightings, first.notes ++ others.notes⟩) =
      division ws text flaw (ms ++ ns) := by
  show Traced.andThen _ (fun first => Traced.andThen _ fun others => Traced.ofOutcome _) = _
  simp only [Traced.andThen, Traced.ofOutcome, division, List.filter_append, List.map_append,
    List.append_nil]

/-- Several measures are divided in their order. -/
lemma applyEach_eq (h : Written room ws text flaw) (ms : List Measure) :
    applyEach room ws ms = division ws text flaw ms := by
  induction ms with
  | nil => rfl
  | cons m ms ih => rw [applyEach, applyOne_eq h, ih, division_append, List.singleton_append]

/-- The first value that breaks the conversion down decides, wherever it stands. -/
lemma outcome_applyEach_of_firstBreakdown? {b : Breakdown} {ms : List Measure}
    (h : firstBreakdown? room ws ms = some b) : (applyEach room ws ms).outcome = breakDown b := by
  induction ms with
  | nil => cases h
  | cons m ms ih =>
    rw [applyEach, Traced.outcome_bind]
    cases hm : breakdown? room m (ws m) with
    | some b' =>
      obtain rfl : b' = b := by simpa [firstBreakdown?, hm] using h
      rw [outcome_applyOne_of_breakdown? hm]
      rfl
    | none =>
      obtain ⟨first, hfirst⟩ := exists_applyOne_eq_ok hm
      have hrest : firstBreakdown? room ws ms = some b := by simpa [firstBreakdown?, hm] using h
      rw [hfirst, ok_bind, Traced.outcome_bind, ih hrest]
      rfl

end Weighting

/-! ## Parameters with weightings -/

variable {handler : Handler} {room : Room} {o : Options} {profile : Int} {q : Parameters}

/-- Options with nothing said of weightings. -/
def Options.withoutWeightings (o : Options) : Options :=
  { o with profileParams := o.profileParams.map fun p => { p with weightings := none } }

@[simp] lemma Options.restrictions?_withoutWeightings (o : Options) :
    o.withoutWeightings.restrictions? = o.restrictions? := by
  unfold withoutWeightings restrictions?
  cases o.profileParams <;> rfl

@[simp] lemma Options.weightings?_withoutWeightings (o : Options) :
    o.withoutWeightings.weightings? = none := by
  unfold withoutWeightings weightings?
  cases o.profileParams <;> rfl

/-- Without weightings the limits are all that is converted, and they are put into words. -/
lemma convertParameters_withoutWeightings_eq_ok_iff :
    (convertParameters handler room o.withoutWeightings profile).outcome = .ok q ↔
      convertLimits handler o profile = .ok q ∧ q.unshowable? room = none := by
  have hlimits : convertLimits handler o.withoutWeightings profile =
      convertLimits handler o profile := by
    rw [convertLimits_eq, convertLimits_eq, Options.restrictions?_withoutWeightings]
    rfl
  have hadd (p : Parameters) : p.add ⟨[], []⟩ = p := by simp [Parameters.add]
  have happlied : o.withoutWeightings.applied room = .ok ⟨[], []⟩ := by
    rw [Options.applied, Options.weightings?_withoutWeightings]
  rw [convertParameters_eq_ok_iff, hlimits]
  constructor
  · rintro ⟨p, a, hp, ha, hshown, rfl⟩
    obtain rfl := Except.ok.inj (happlied.symm.trans ha)
    rw [hadd]
    exact ⟨hp, hshown⟩
  · rintro ⟨hq, hshown⟩
    exact ⟨q, ⟨[], []⟩, hq, happlied, hshown, (hadd q).symm⟩

/-- The limits come without weightings and notes. -/
lemma convertLimits_eq_ok_empty (h : convertLimits handler o profile = .ok q) :
    q.weightings = [] ∧ q.notes = [] := by
  rw [convertLimits_eq, bind_eq_ok] at h
  obtain ⟨-, -, h⟩ := h
  cases hrs : o.restrictions? with
  | none =>
    simp only [hrs, Except.ok.injEq] at h
    rw [← h]
    exact ⟨rfl, rfl⟩
  | some rs =>
    simp only [hrs] at h
    by_cases hu : rs.unknownTo (Profile.category profile) = []
    · rw [convertRestrictions_known hu, map_eq_ok] at h
      obtain ⟨ls, -, rfl⟩ := h
      exact ⟨rfl, rfl⟩
    · rw [convertRestrictions_unknown hu] at h
      cases h

/-- Parameters with weightings are the limits with what the weightings add where the limits can be
shown, and the log is that of the weightings. -/
lemma convertParameters_eq_of_limits {ws : Weightings}
    (hq : convertLimits handler o profile = .ok q) (hshown : q.unshowable? room = none)
    (hws : o.weightings? = some ws) :
    convertParameters handler room o profile =
      ⟨(Weighting.applyAll room ws).log, (Weighting.applyAll room ws).outcome.map q.add⟩ := by
  rw [convertParameters, hq, hws]
  show Traced.andThen _
    (fun p => Traced.andThen (Traced.andThen _ fun a => Traced.ofOutcome _) _) = _
  cases ha : (Weighting.applyAll room ws).outcome <;>
    simp [Traced.andThen, Traced.ofOutcome, ha, Except.map, describeLimits, hshown]

/-- **Weightings are divided, unless one breaks the conversion down.**  Let parameters be converted
when nothing is said of weightings, and let weightings be added that nobody has checked: null or any
value for each measure.  If one of them breaks the conversion down, the first that does decides how.
Otherwise the parameters are converted, with the same limits, and each measure that is not null is
either among those that apply or among those that are left out.  There is one weighting for each
that applies, and one note and one warning for each that is left out, all in the order of the
measures; a note starts with the name of its measure. -/
theorem convertParameters_weightings (handler : Handler) {room : Room} {o : Options} {profile : Int}
    {q : Parameters} {ws : Weightings}
    (hq : (convertParameters handler room o.withoutWeightings profile).outcome = .ok q)
    (hws : o.weightings? = some ws) :
    (∀ b, Weighting.firstBreakdown? room ws Measure.all = some b →
        (convertParameters handler room o profile).outcome = breakDown b) ∧
      (Weighting.firstBreakdown? room ws Measure.all = none →
        ∃ (p : Parameters) (applied leftOut : List Measure) (flaw : Measure → Weighting.Flaw),
          (convertParameters handler room o profile).outcome = .ok p ∧
          p.variant = q.variant ∧ p.limits = q.limits ∧
          applied.Sublist Measure.all ∧ leftOut.Sublist Measure.all ∧
          (∀ m, m ∈ applied ∨ m ∈ leftOut ↔ ws m ≠ .null) ∧ (∀ m ∈ applied, m ∉ leftOut) ∧
          (∀ m, m ∈ applied ↔ Weighting.isWritable m (ws m) = true) ∧
          p.weightings.map Weighting.name = applied.map Measure.name ∧
          p.notes = leftOut.map (fun m => m.name ++ ": " ++ (flaw m).message) ∧
          (convertParameters handler room o profile).log =
            leftOut.map fun m => Weighting.skipWarning m (ws m) (flaw m)) := by
  obtain ⟨hlimits, hshown⟩ := convertParameters_withoutWeightings_eq_ok_iff.mp hq
  obtain ⟨hweightings, hnotes⟩ := convertLimits_eq_ok_empty hlimits
  have hall : ∀ m : Measure, m ∈ Measure.all := by
    intro m
    cases m <;> decide
  rw [convertParameters_eq_of_limits hlimits hshown hws]
  refine ⟨fun b hb => ?_, fun hnone => ?_⟩
  · rw [Weighting.applyAll, Weighting.outcome_applyEach_of_firstBreakdown? hb]
    rfl
  · obtain ⟨text, flaw, hwritten⟩ :=
      Weighting.exists_written fun m => List.findSome?_eq_none_iff.mp hnone m (hall m)
    rw [Weighting.applyAll, Weighting.applyEach_eq hwritten]
    refine ⟨_, Measure.all.filter fun m => Weighting.isWritable m (ws m),
      Measure.all.filter fun m => Weighting.isLeftOut m (ws m), flaw, rfl, rfl, rfl,
      List.filter_sublist, List.filter_sublist, fun m => ?_, fun m hm => ?_, ?_, ?_, ?_, rfl⟩
    · rw [← Document.isNull_eq_false]
      cases hw : Weighting.isWritable m (ws m) with
      | true => simp [hall, hw, Weighting.isNull_of_isWritable hw]
      | false => simp [hall, hw, Weighting.isLeftOut]
    · simp [Weighting.isLeftOut, (List.mem_filter.mp hm).2]
    · simp [hall]
    · simp [Parameters.add, hweightings]
    · simp [Parameters.add, hnotes, Weighting.note]

/-- Options with a value for green surroundings, a text for quiet ones and a level for slopes. -/
def uncheckedOptions (green : Document) : Options :=
  .ofDocument (.object [("profile_params", .object [("weightings",
    .object [("green", green), ("quiet", .text "loud"), ("steepness_difficulty", .integer 9)])])])

/-- A large enough integer breaks the conversion down, although the text for quiet surroundings is
left out when the rest is in order. -/
theorem convertParameters_uncheckedOptions :
    let convert (green : Document) :=
      convertParameters (.standard .route) .hundred (uncheckedOptions green) 10
    (convert (.integer (10 ^ 309))).outcome = breakDown .overflow ∧
      ∃ p, (convert (.boolean true)).outcome = .ok p ∧
        p.weightings.map Weighting.name = ["green", "steepness_difficulty"] ∧
        (convert (.boolean true)).log.length = 1 := by
  intro convert
  have hlimits (green : Document) : (convertParameters (.standard .route) .hundred
      (uncheckedOptions green).withoutWeightings 10).outcome = .ok (.empty .base) := rfl
  obtain ⟨hlarge, -⟩ :=
    convertParameters_weightings (.standard .route) (hlimits (.integer (10 ^ 309))) rfl
  obtain ⟨-, hfits⟩ := convertParameters_weightings (.standard .route) (hlimits (.boolean true)) rfl
  refine ⟨hlarge .overflow (by decide +kernel), ?_⟩
  obtain ⟨p, applied, leftOut, flaw, hp, -⟩ := hfits (by decide +kernel)
  refine ⟨p, hp, ?_, rfl⟩
  rw [← Except.ok.inj ((show (convert (.boolean true)).outcome = .ok _ from rfl).symm.trans hp)]
  rfl

end RouteIntake
