import RouteIntake.Profile

/-!
# Features to avoid

A set of features is a number, one bit for each feature.  Every category of profiles admits some
features; `Feature.isValid` says whether a set is not empty and within those.  Sets are integers of
any size and sign, read as infinite rows of bits in two's complement.
-/

namespace RouteIntake

open Text

namespace Feature

/-- The features by name, with their bits. -/
def table : List (String × Nat) :=
  [("highways", 1), ("tollways", 2), ("ferries", 4), ("fords", 8), ("steps", 16)]

/-- The names of the features in the order of their bits. -/
def names : List String := table.map Prod.fst

/-- The bit of a feature, its name in any letter case; zero for an unknown name. -/
def flagOf (name : String) : Nat := (table.lookup (lower name)).getD 0

/-- The features that a category admits. -/
def allowed : Category → Nat
  | .driving => 0xf
  | .heavyVehicle => 0xf
  | .cycling => 0x1c
  | .walking => 0x1c
  | .wheelchair => 0x1c
  | .other => 0

/-- The bits of `flags` that are in `mask`.  A negative number has the complement of the bits of
`-flags - 1`. -/
def within (mask : Nat) : Int → Int
  | .ofNat n => (Nat.land mask n : Nat)
  | .negSucc n => (Nat.sub mask (Nat.land mask n) : Nat)

/-- Whether a set is not empty and all its features are admitted for the profile. -/
def isValid (profile flags : Int) : Bool :=
  !(flags == 0) && within (allowed (Profile.category profile)) flags == flags

/-- No negative set is valid: it has infinitely many features. -/
theorem isValid_negSucc (profile : Int) (n : Nat) : isValid profile (.negSucc n) = false := by
  have h : ∀ m : Nat, (within m (.negSucc n) == Int.negSucc n) = false := by
    intro m
    simp only [within, beq_eq_false_iff_ne, ne_eq]
    exact fun e => by cases e
  simp [isValid, h]

end Feature

end RouteIntake
