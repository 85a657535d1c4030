import RouteIntake.Proofs.Feature.Union

/-!
# Valid sets of features

A set of features is converted one feature at a time, and each is checked on its own.  That the
whole set is valid then is a fact about rows of bits, which are infinite for negative numbers: a set
is valid when it is not empty and all of its bits are in the mask of the category
(`isValid_iff_testBit`).  A negative number has infinitely many bits, and a mask has not, so that
the statement is one for integers of any sign.  From it follow the laws of valid sets under union
and under leaving features out:

* `isValid_lor`.
-/

namespace RouteIntake

/-- A profile that is not in the table has no category of its own. -/
lemma Profile.category_eq_other {profile : ℤ}
    (h : profile ∉ Profile.table.map Prod.snd) :
    Profile.category profile = .other := by
  have hheavy : ∀ id ∈ Profile.heavy, id ∈ Profile.table.map Prod.snd := by decide
  have hcontains : Profile.heavy.contains profile = false := by
    rw [← Bool.not_eq_true, List.contains_iff_mem]
    exact fun hmem => h (hheavy profile hmem)
  have hknown : Profile.isKnown profile = false := by
    rw [Profile.isKnown, List.any_eq_false]
    intro e he hid
    exact h (List.mem_map.mpr ⟨e, he, eq_of_beq hid⟩)
  rw [Profile.category, hcontains, hknown]
  rfl

namespace Feature

variable {profile : ℤ} {f g : ℤ}

/-- Two's complement: a negative number has a bit where two numbers have none. -/
lemma exists_testBit_negSucc (m n : ℕ) :
    ∃ b, (Int.negSucc n).testBit b = true ∧ m.testBit b = false := by
  have hm : m < 2 ^ (m + n) := lt_of_le_of_lt (Nat.le_add_right m n) Nat.lt_two_pow_self
  have hn : n < 2 ^ (m + n) := lt_of_le_of_lt (Nat.le_add_left n m) Nat.lt_two_pow_self
  refine ⟨m + n, ?_, Nat.testBit_lt_two_pow hm⟩
  show (!n.testBit (m + n)) = true
  rw [Nat.testBit_lt_two_pow hn, Bool.not_false]

/-- A set of any sign is valid when it is not empty and all of its bits are in the mask of the
category. -/
lemma isValid_iff_testBit :
    isValid profile f = true ↔
      f ≠ 0 ∧ ∀ b, f.testBit b = true → (allowed (Profile.category profile)).testBit b = true := by
  cases f with
  | ofNat n =>
    have hcast : (Int.ofNat n ≠ 0) ↔ n ≠ 0 := Int.ofNat_eq_zero.not
    rw [hcast]
    exact isValid_natCast_iff
  | negSucc n =>
    rw [isValid_negSucc]
    refine ⟨nofun, fun ⟨_, hbits⟩ => ?_⟩
    obtain ⟨b, hb, hmask⟩ := exists_testBit_negSucc (allowed (Profile.category profile)) n
    rw [hbits b hb] at hmask
    cases hmask

/-- A union with a set that is not empty is not empty. -/
lemma lor_ne_zero (hf : f ≠ 0) : f.lor g ≠ 0 := by
  cases f with
  | negSucc m => cases g <;> exact nofun
  | ofNat m =>
    cases g with
    | negSucc n => exact nofun
    | ofNat n =>
      intro h
      have hor : m ||| n = 0 := Int.ofNat_eq_zero.mp h
      exact hf (Int.ofNat_eq_zero.mpr (Nat.or_eq_zero_iff.mp hor).1)

/-- Sets that are valid have no negative sign. -/
lemma isValid_of_neg (h : f < 0) : isValid profile f = false := by
  obtain ⟨n, rfl⟩ := Int.eq_negSucc_of_lt_zero h
  exact isValid_negSucc profile n

/-- A union is valid when both of its parts are. -/
lemma isValid_lor_iff (hf : f ≠ 0) (hg : g ≠ 0) :
    isValid profile (f.lor g) = true ↔ isValid profile f = true ∧ isValid profile g = true := by
  simp only [isValid_iff_testBit, Int.testBit_lor, Bool.or_eq_true]
  constructor
  · rintro ⟨-, hbits⟩
    exact ⟨⟨hf, fun b hb => hbits b (Or.inl hb)⟩, ⟨hg, fun b hb => hbits b (Or.inr hb)⟩⟩
  · rintro ⟨⟨-, hleft⟩, -, hright⟩
    exact ⟨lor_ne_zero hf, fun b hb => hb.elim (hleft b) (hright b)⟩

/-- What is left of a valid set is valid unless nothing is left. -/
lemma isValid_of_land_eq (hg : isValid profile g = true) (hf : f ≠ 0) (hsub : f.land g = f) :
    isValid profile f = true := by
  rw [isValid_iff_testBit] at hg ⊢
  refine ⟨hf, fun b hb => hg.2 b ?_⟩
  rw [← hsub, Int.testBit_land, Bool.and_eq_true] at hb
  exact hb.2

/-- Outside the table there are no features. -/
lemma isValid_of_notMem (h : profile ∉ Profile.table.map Prod.snd) : isValid profile f = false := by
  rw [← Bool.not_eq_true]
  intro hvalid
  obtain ⟨hne, hbits⟩ := isValid_iff_testBit.mp hvalid
  rw [Profile.category_eq_other h] at hbits
  cases f with
  | negSucc n =>
    rw [isValid_negSucc] at hvalid
    cases hvalid
  | ofNat n =>
    obtain ⟨b, hb⟩ := Nat.exists_testBit_of_ne_zero fun hn : n = 0 => hne (Int.ofNat_eq_zero.mpr hn)
    exact absurd (hbits b hb) (by simp [allowed])

/-- **Valid sets and their parts.**  For every profile and for sets of any size and sign, read as
rows of bits in two's complement: the union of two sets that are not empty is valid exactly when
both are; no negative set is valid, and for a profile outside the table no set is; and what is left
of a valid set is valid unless nothing is left. -/
theorem isValid_lor (profile : ℤ) :
    (∀ f g : ℤ, f ≠ 0 → g ≠ 0 →
      (isValid profile (f.lor g) = true ↔ isValid profile f = true ∧ isValid profile g = true)) ∧
    (∀ f < 0, isValid profile f = false) ∧
    (profile ∉ Profile.table.map Prod.snd → ∀ f, isValid profile f = false) ∧
    ∀ f g : ℤ, isValid profile g = true → f ≠ 0 → f.land g = f → isValid profile f = true :=
  ⟨fun _ _ hf hg => isValid_lor_iff hf hg, fun _ hf => isValid_of_neg hf,
    fun h _ => isValid_of_notMem h, fun _ _ hg hf hsub => isValid_of_land_eq hg hf hsub⟩

/-- Ferries and steps may be avoided by bicycle, so both together may, and either alone; by car
ferries may, but not both.  No set is valid for profile 9, which there is not. -/
theorem isValid_lor_ferriesAndSteps :
    (isValid 10 (Int.lor 4 16) = true ∧ isValid 10 4 = true) ∧
      (isValid 1 4 = true ∧ isValid 1 (Int.lor 4 16) = false) ∧ isValid 10 (-4) = false ∧
      isValid 9 4 = false := by
  have hcycling := isValid_lor 10
  have hboth : isValid 10 (Int.lor 4 16) = true :=
    (hcycling.1 4 16 (by decide) (by decide)).mpr (by decide)
  have hferries : isValid 10 4 = true := hcycling.2.2.2 4 _ hboth (by decide) (by decide)
  refine ⟨⟨hboth, hferries⟩, ⟨by decide, ?_⟩, hcycling.2.1 (-4) (by decide),
    (isValid_lor 9).2.2.1 (by decide) 4⟩
  rw [← Bool.not_eq_true, (isValid_lor 1).1 4 16 (by decide) (by decide)]
  decide

end Feature

end RouteIntake
