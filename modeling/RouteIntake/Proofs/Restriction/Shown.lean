import RouteIntake.Proofs.Restriction.Image

/-!
# Which limits can be shown

The limits of converted parameters are put into words, and an integer with too many digits has no
text.  Of the limits that validation lets through nearly all are bounded or are no integers; only
the incline of a wheelchair may be any integer from zero on.  The main statement is that this is the
one limit that cannot be shown:

* `Options.unshowable?_eq_some_iff`.
-/

namespace RouteIntake

open Schema Numeral

variable {handler : Handler} {room : Room}

/-- Whether the restrictions of options have an incline with too many digits for a text. -/
def Options.HasLongIncline (o : Options) : Prop :=
  ∃ rs n, o.restrictions? = some rs ∧ rs .maximumIncline = .integer n ∧ hasText n = false

/-! ## Single limits -/

lemma unshowable?_integer {levels : Nat} {n : Int} (h : hasText n = true) :
    (Document.integer n).unshowable? levels = none := by
  rw [Document.unshowable?, h]
  rfl

/-- An integer between bounds with few digits has a text. -/
lemma exists_hasText_of_bounds {low high : Int} {d : Document}
    (hy : (Shape.integer [.atMost high, .atLeast low]).Yields d) (hlow : 0 ≤ low)
    (hhigh : high < 100) : ∃ n, d = .integer n ∧ hasText n = true := by
  obtain ⟨n, rfl, hbounds⟩ := hy.integer
  have hleast : low ≤ n := of_decide_eq_true (hbounds (.atLeast low) (by simp))
  have hmost : n ≤ high := of_decide_eq_true (hbounds (.atMost high) (by simp))
  exact ⟨n, rfl, hasText_of_natAbs_lt (by omega)⟩

/-- A word of a table has a place with a text. -/
lemma hasText_place {r : Restriction} {w : String} (h : w ∈ r.words) :
    hasText (r.words.idxOf w + 1 : Nat) = true := by
  have hlength : r.words.length < 99 := by cases r <;> decide
  have hplace : r.words.idxOf w < r.words.length := List.idxOf_lt_length_of_mem h
  exact hasText_of_natAbs_lt (by omega)

/-- What a valid restriction sets its limit to can be shown, unless it is an incline with too many
digits. -/
lemma Restrictions.Valid.unshowable?_limitValue {rs : Restrictions} (hv : rs.Valid)
    {r : Restriction} (hword : ∀ s, rs r = .text s → Wheelchair.normalWord s ∈ r.words)
    {levels : Nat} {b : Breakdown} (h : (r.limitValue (rs r)).unshowable? levels = some b) :
    r = .maximumIncline ∧ b = .textTooLong ∧ ∃ n, rs r = .integer n ∧ hasText n = false := by
  rcases (hv r).optional with hnull | hy
  · rw [hnull, Restriction.limitValue_null] at h
    cases h
  · cases r with
    | gradient | trailDifficulty =>
      obtain ⟨n, hn, htext⟩ := exists_hasText_of_bounds hy (by decide) (by decide)
      rw [hn] at h
      cases (unshowable?_integer htext).symm.trans h
    | maximumIncline =>
      obtain ⟨n, hn, -⟩ := hy.integer
      rw [hn] at h
      cases htext : hasText n with
      | true => cases (unshowable?_integer htext).symm.trans h
      | false =>
        have hlong : (Document.integer n).unshowable? levels = some .textTooLong := by
          rw [Document.unshowable?, htext]
          rfl
        exact ⟨rfl, Option.some.inj (h.symm.trans hlong), n, hn, htext⟩
    | surfaceType | trackType | smoothnessType =>
      obtain ⟨s, hs⟩ := hy.text
      have htext := hasText_place (hword s hs)
      rw [hs] at h
      cases (unshowable?_integer htext).symm.trans h
    | hazmat =>
      obtain ⟨value, hvalue⟩ := hy.boolean
      rw [hvalue] at h
      cases value with
      | true => cases (unshowable?_integer (hasText_of_natAbs_lt (by decide))).symm.trans h
      | false => cases h
    | length | width | height | weight | axleload | maximumSlopedKerb | minimumWidth =>
      obtain ⟨x, hx, -⟩ := hy.number
      rw [hx] at h
      cases h

/-! ## All limits -/

/-- Restrictions that a category does not know are null where all that are set are known. -/
lemma Restrictions.eq_null_of_known {rs : Restrictions} {c : Category} (h : rs.unknownTo c = [])
    {r : Restriction} (hr : r ∉ c.restrictions) : rs r = .null := by
  rw [← Document.isNull_eq_true, ← Bool.not_eq_false]
  intro hnull
  have hunknown := List.filter_eq_nil_iff.mp h r (mem_assigned.mpr hnull)
  simp [hr] at hunknown

/-- An incline is a limit of converted parameters. -/
lemma mem_entries_of_incline {o : Options} {rs : Restrictions} {n : Int} {profile : Int}
    {q : Parameters} (hq : convertLimits handler o profile = .ok q)
    (hrs : o.restrictions? = some rs)
    (hn : rs .maximumIncline = .integer n) : (Limit.maximumIncline, .integer n) ∈ q.entries := by
  obtain ⟨hu, hqv, hls⟩ := convertLimits_eq_ok hrs hq
  -- only wheelchairs have an incline
  have hc : Profile.category profile = .wheelchair := by
    by_contra hc
    have hunknown : Restriction.maximumIncline ∉ (Profile.category profile).restrictions := by
      revert hc
      cases Profile.category profile <;> simp [Category.restrictions]
    rw [Restrictions.eq_null_of_known hu hunknown] at hn
    cases hn
  rw [hc] at hqv hls
  simp only [limitsFor, wheelchairLimits, bind_eq_ok, Except.ok.injEq] at hls
  obtain ⟨_, -, _, -, _, -, hls⟩ := hls
  refine Parameters.mem_entries.mpr ⟨by rw [hqv]; decide, ?_, by simp⟩
  rw [← hls]
  exact hn

/-- **The limits of valid restrictions can be shown unless an incline has too many digits.** -/
lemma Options.unshowable?_eq_some_iff {o : Options}
    (hv : ∀ rs, o.restrictions? = some rs → rs.Valid) {profile : Int} {q : Parameters}
    (hq : convertLimits handler o profile = .ok q) {b : Breakdown} :
    q.unshowable? room = some b ↔ b = .textTooLong ∧ o.HasLongIncline := by
  have honly : ∀ {b}, q.unshowable? room = some b → b = .textTooLong ∧ o.HasLongIncline := by
    intro b hb
    obtain ⟨⟨l, d⟩, hd, hb⟩ := List.exists_of_findSome?_eq_some hb
    obtain ⟨rs, r, hrs, rfl, rfl, -, hword⟩ := exists_limitValue_of_mem_entries hv hq hd
    obtain ⟨rfl, hlong, n, hn, htext⟩ :=
      (hv rs hrs).unshowable?_limitValue hword hb
    exact ⟨hlong, rs, n, hrs, hn, htext⟩
  refine ⟨honly, ?_⟩
  rintro ⟨rfl, rs, n, hrs, hn, htext⟩
  have hmem := mem_entries_of_incline hq hrs hn
  cases hshown : q.unshowable? room with
  | some b => rw [(honly hshown).1]
  | none =>
    have hnone := List.findSome?_eq_none_iff.mp hshown _ hmem
    simp [Document.unshowable?, htext] at hnone

end RouteIntake
