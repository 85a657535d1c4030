import RouteIntake.Conversion
import RouteIntake.Document.Same

/-!
# Profiles as they are given

The identifier of a profile may be given as any document.  `Profile.given` says which identifier
that is: a value that is no whole number is that of no profile, and a list or an object cannot be
looked up at all.  The other definitions use a given profile where it is first needed, so that what
goes wrong before is told first.
-/

namespace RouteIntake

/-- The identifier that a document is; zero, that of no profile, for what is no whole number. -/
def Profile.given (d : Document) : Except Breakdown Int :=
  match d with
  | .array _ => .error (.unhashable d.kindName)
  | .object _ => .error (.unhashable d.kindName)
  | d =>
    match d.numeral? with
    | some (.inl id) => .ok id
    | _ => .ok 0

namespace Conversion

/-- A breakdown as the failure of a conversion. -/
def orFail {α : Type} : Except Breakdown α → Except Failure α
  | .ok a => .ok a
  | .error b => breakDown b

/-- Converts the kind of vehicle for a given profile, which is looked at only if there is one. -/
def vehicle (h : Handler) (d profile : Document) : Except Failure Int :=
  if d.isNull then .ok 0 else do convertVehicle h d (← orFail (Profile.given profile))

/-- Converts features for a given profile, which is looked at for the first one that is known. -/
def features (h : Handler) (d profile : Document) : Except Failure Nat :=
  match Profile.given profile with
  | .ok id => convertFeatureList h d id
  | .error b => do
    match ← orFail d.parts with
    | [] => .ok 0
    | first :: _ =>
      let name := first.plain
      if Feature.flagOf name == 0 then
        h.reject "INVALID_PARAMETER_VALUE" (.unknownValue "avoid_features" name)
      else breakDown b

end Conversion

/-- Whether a given set of features is not empty and all its features are admitted for a given
profile.  Only a whole number has features; anything else is empty if it is zero. -/
def Feature.isValidGiven (profile flags : Document) : Except Breakdown Bool := do
  let id ← Profile.given profile
  match flags with
  | .integer n => .ok (isValid id n)
  | .boolean b => .ok (isValid id (if b then 1 else 0))
  | .number x => if x.isZero then .ok false else .error (.noBits flags.kindName)
  | flags => .error (.noBits flags.kindName)

/-- A whole number is the identifier that it is. -/
@[simp] theorem Profile.given_integer (id : Int) : Profile.given (.integer id) = .ok id := by
  simp [Profile.given, Document.numeral?]

/-- For a whole number the kind of vehicle is converted for that profile. -/
theorem Conversion.vehicle_integer (h : Handler) (d : Document) (id : Int) :
    Conversion.vehicle h d (.integer id) = convertVehicle h d id := by
  unfold vehicle convertVehicle
  cases d <;> simp [orFail, bind, Except.bind, Document.isNull]

end RouteIntake
