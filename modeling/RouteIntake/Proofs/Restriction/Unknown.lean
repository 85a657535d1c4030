import RouteIntake.Proofs.Conversion.Parameters
import RouteIntake.Service.Problem

/-!
# Restrictions that a profile does not know

The restrictions that the category of a profile does not know are refused before anything else is
done with restrictions.  The main statement says when, and what the error says:

* `refusesRestrictions_iff`: parameters whose vehicle goes with the profile are refused for their
  restrictions exactly when one that is set is not known, and the error names all of these.

Nothing but the set of restrictions decides: not their values, not the vehicle, not the weightings.
In particular a word that is in no table is only reported when all restrictions are known.
-/

namespace RouteIntake

open Service

/-- Whether an error says that restrictions do not go with another parameter. -/
def Service.ParameterError.RefusesRestrictions (e : ParameterError) : Prop :=
  e.kind = .incompatible ∧ (e.parameters.head?.map Prod.fst) = some (.text "restrictions")

/-- Restrictions are not known to a category when they are set and the category does not have
them. -/
lemma Restrictions.mem_unknownTo {rs : Restrictions} {c : Category} {r : Restriction} :
    r ∈ rs.unknownTo c ↔ rs r ≠ .null ∧ r ∉ c.restrictions := by
  simp [unknownTo, mem_assigned, Document.isNull_eq_false]

lemma Restrictions.unknownTo_sublist (rs : Restrictions) (c : Category) :
    (rs.unknownTo c).Sublist Restriction.all :=
  List.filter_sublist.trans List.filter_sublist

lemma Restrictions.unknownTo_ne_nil {rs : Restrictions} {c : Category} :
    rs.unknownTo c ≠ [] ↔ ∃ r, rs r ≠ .null ∧ r ∉ c.restrictions := by
  constructor
  · intro h
    obtain ⟨r, hr⟩ := List.exists_mem_of_ne_nil _ h
    exact ⟨r, mem_unknownTo.mp hr⟩
  · rintro ⟨r, hr⟩
    exact List.ne_nil_of_mem (mem_unknownTo.mpr hr)

/-- Restrictions that are not known are refused once the vehicle goes with the profile. -/
lemma convertParameters_unknown {handler : Handler} {room : Room} {o : Options} {profile : Int}
    {rs : Restrictions}
    (hv : o.vehicleType = .null ∨ Profile.category profile = .heavyVehicle)
    (hrs : o.restrictions? = some rs) (hu : rs.unknownTo (Profile.category profile) ≠ []) :
    (convertParameters handler room o profile).outcome =
      handler.reject "UNKNOWN_PARAMETER"
        (.unknownRestrictions ((rs.unknownTo (Profile.category profile)).map Restriction.name)
          (Profile.nameOf profile)) := by
  obtain ⟨id, hid⟩ := exists_convertVehicle_eq_ok.mpr hv
  rw [outcome_convertParameters, convertLimits_eq, hid, ok_bind, hrs]
  simp only [convertRestrictions_unknown hu]
  rfl

/-- **Unknown restrictions are refused all at once, and only they are.**  Let the vehicle of the
options, if there is one, go with the profile.  The conversion of the profile parameters ends in an
error that refuses the restrictions exactly when a restriction that is set is not among those of the
profile's category.  Then the error has the code of unknown parameters, and it names the profile and
the restrictions that are not known: precisely these, each once, in the order of declaration. -/
theorem refusesRestrictions_iff (kind : HandlerKind) (codes : ErrorCodes) (room : Room)
    {o : Options} {profile : Int}
    (hv : o.vehicleType = .null ∨ Profile.category profile = .heavyVehicle) :
    ((∃ code reason,
        (convertParameters (.withCodes kind codes) room o profile).outcome =
          .error (.rejected code reason) ∧
        (ParameterError.ofReason code reason).RefusesRestrictions) ↔
      ∃ rs, o.restrictions? = some rs ∧
        ∃ r, rs r ≠ .null ∧ r ∉ (Profile.category profile).restrictions) ∧
    ∀ rs, o.restrictions? = some rs →
      (∃ r, rs r ≠ .null ∧ r ∉ (Profile.category profile).restrictions) →
      ∃ (code : Document) (reason : Reason) (unknown : List Restriction),
        (convertParameters (.withCodes kind codes) room o profile).outcome =
          .error (.rejected code reason) ∧
        unknown.Sublist Restriction.all ∧ unknown.Nodup ∧
        (∀ r, r ∈ unknown ↔ rs r ≠ .null ∧ r ∉ (Profile.category profile).restrictions) ∧
        ParameterError.ofReason code reason =
          .incompatible (codes.code "UNKNOWN_PARAMETER") (.text "restrictions")
            (.text (", ".intercalate (unknown.map Restriction.name))) (.text "profile")
            (.text (Profile.nameOf profile)) := by
  have hall : Restriction.all.Nodup := by decide
  refine ⟨⟨?_, ?_⟩, ?_⟩
  · rintro ⟨code, reason, ho, hrefuses⟩
    rcases convertParameters_eq_error ho with
      h | ⟨rs, hrs, hu, -⟩ | ⟨rs, -, -, h⟩ | ⟨ws, m, -, h⟩ | ⟨-, b, -, -, h⟩
    · obtain ⟨id, hid⟩ := exists_convertVehicle_eq_ok.mpr hv
      rw [hid] at h
      cases h
    · exact ⟨rs, hrs, Restrictions.unknownTo_ne_nil.mp hu⟩
    · -- all restrictions are known, so the error is about a word, which is another kind of error
      obtain ⟨r, -, table, h⟩ := limitsFor_eq_error h
      rcases encodeWord_eq_error h with ⟨s, -, h⟩ | ⟨family, s, -, h⟩ | ⟨⟨b, h⟩, -⟩
      · obtain ⟨-, rfl⟩ := Failure.rejected.inj h
        cases hrefuses.1
      · obtain ⟨-, rfl⟩ := Failure.rejected.inj h
        cases hrefuses.1
      · cases h
    · obtain ⟨b, h, -⟩ := applyOne_eq_error h
      cases h
    · cases h
  · rintro ⟨rs, hrs, hu⟩
    exact ⟨_, _, convertParameters_unknown hv hrs (Restrictions.unknownTo_ne_nil.mpr hu), rfl, rfl⟩
  · intro rs hrs hu
    have hsub := rs.unknownTo_sublist (Profile.category profile)
    exact ⟨_, _, _, convertParameters_unknown hv hrs (Restrictions.unknownTo_ne_nil.mpr hu), hsub,
      hall.sublist hsub, fun r => Restrictions.mem_unknownTo, rfl⟩

/-- Options of a wheelchair with a slope, a hazardous load and a surface that is in no table. -/
def lavaOptions : Document :=
  .object [("profile_params", .object [("restrictions",
    .object [("surface_type", .text "lava"), ("hazmat", .boolean true),
      ("gradient", .integer 5)])])]

/-- The slope and the load are refused together, and nothing is said of the surface. -/
theorem refusesRestrictions_lavaOptions :
    ∃ o, optionsShape.check lavaOptions = .ok o ∧
      (∃ code reason,
        (convertParameters (.withCodes .route .routing) .hundred (Options.ofDocument o)
            30).outcome =
          .error (.rejected code reason) ∧
        (ParameterError.ofReason code reason).RefusesRestrictions) ∧
      (convertParameters (.withCodes .route .routing) .hundred (Options.ofDocument o) 30).outcome =
        .error (.rejected (.integer 2012)
          (.unknownRestrictions ["gradient", "hazmat"] "wheelchair")) := by
  refine ⟨_, rfl, (refusesRestrictions_iff .route .routing .hundred (Or.inl rfl)).1.mpr ?_, rfl⟩
  exact ⟨_, rfl, .hazmat, Document.isNull_eq_false.mp rfl, by decide⟩

end RouteIntake
