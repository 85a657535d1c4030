import RouteIntake.Proofs.Request.Valid
import RouteIntake.Proofs.Schema.Stable

/-!
# Bodies and requests

The profile of a request stands in its body, or in the path; a body has no profile of its own then,
and `withProfile` makes a request of it.  The two ways are compared here.  A body is checked as the
request that has its members and the profile: the check of the one is the check of the other with
the profile put before it (`requestShape_check_eq_map`).  What it gives may be checked again, since
all shapes of a request are stable (`bodyShape_stable`).

Both together are the main statement, `requestShape_check_withProfile`.
-/

namespace RouteIntake

open Schema

/-! ## The shapes of a request are stable -/

lemma optionalField_stable {s : Shape} (hs : s.Stable) (name : String) :
    (optionalField name s).Stable := by
  refine ⟨hs.optional, fun d hd => ?_⟩
  obtain rfl := Presence.standard.inj hd
  rfl

lemma requiredField_stable {s : Shape} (hs : s.Stable) (name : String) :
    (requiredField name s).Stable :=
  ⟨hs, nofun⟩

lemma Restriction.shape_stable (r : Restriction) : r.shape.Stable := by
  cases r with
  | gradient | trailDifficulty | maximumIncline => exact .integer _
  | length | width | height | weight | axleload | maximumSlopedKerb | minimumWidth =>
    exact .number _
  | hazmat => exact .boolean
  | surfaceType | trackType | smoothnessType => exact .text

lemma Measure.shape_stable (m : Measure) : m.shape.Stable := by
  cases m with
  | green | quiet => exact .number _
  | steepnessDifficulty => exact .integer _

lemma restrictionsShape_stable : restrictionsShape.Stable := by
  refine .record (by decide) (by decide) (fun f hf => ?_) _ _
  obtain ⟨r, -, rfl⟩ := List.mem_map.mp hf
  exact optionalField_stable r.shape_stable _

lemma weightingsShape_stable : weightingsShape.Stable := by
  refine .record (by decide) (by decide) (fun f hf => ?_) _ _
  obtain ⟨m, -, rfl⟩ := List.mem_map.mp hf
  exact optionalField_stable m.shape_stable _

lemma profileParamsShape_stable : profileParamsShape.Stable := by
  refine .record (by decide) (by decide) ?_ _ _
  simp only [List.forall_mem_cons, List.not_mem_nil, false_imp_iff, implies_true, and_true]
  exact ⟨optionalField_stable restrictionsShape_stable _,
    optionalField_stable weightingsShape_stable _⟩

lemma optionsShape_stable : optionsShape.Stable := by
  refine .record (by decide) (by decide) ?_ _ _
  simp only [List.forall_mem_cons, List.not_mem_nil, false_imp_iff, implies_true, and_true]
  exact ⟨optionalField_stable (.list (.choice _) _) _, optionalField_stable (.choice _) _,
    optionalField_stable (.choice _) _, optionalField_stable profileParamsShape_stable _,
    optionalField_stable (.dictionary .anything) _⟩

lemma bodyShape_stable : bodyShape.Stable := by
  refine .record (by decide) (by decide) ?_ _ _
  simp only [bodyFields, List.forall_mem_cons, List.not_mem_nil, false_imp_iff, implies_true,
    and_true]
  refine ⟨requiredField_stable (.list (.list (.number _) _) _) _, optionsShape_stable, ?_⟩
  -- the options of a body without any are those with nothing set
  rintro d hd
  obtain rfl := Presence.standard.inj hd
  rfl

/-! ## A body with a profile -/

/-- A request is checked as its body is, and then has its profile; it does not matter where in the
request the profile stands. -/
lemma requestShape_check_eq_map {ms ms' : List (String × Document)} {profile : String}
    (hprofile : profile ∈ Profile.requestable) (hself : ms'.lookup "profile" = some (.text profile))
    (hrest : ∀ name, name ≠ "profile" → ms'.lookup name = ms.lookup name) :
    requestShape.check (.object ms') =
      (bodyShape.check (.object ms)).map (withProfile (.text profile)) := by
  have hfirst : fieldValue "profile" .required profileShape.check ms' = .ok (.text profile) := by
    rw [fieldValue_of_lookup hself, profileShape, Shape.check, readChoice,
      if_pos (List.contains_iff_mem.mpr hprofile)]
    rfl
  have hother : checkFields bodyFields ms' = checkFields bodyFields ms := by
    refine checkFields_congr fun name presence shape hmem => fieldValue_congr (hrest name ?_)
    rintro rfl
    exact absurd (List.mem_map_of_mem hmem) (by decide : "profile" ∉ bodyFields.map Field.name)
  rw [requestShape, bodyShape, Shape.check_open, Shape.check_open, requiredField, checkFields,
    hfirst, hother]
  cases checkFields bodyFields ms <;> rfl

/-- A body that has been checked makes a request that passes unchanged. -/
lemma requestShape_check_of_yields {b : Document} (hb : bodyShape.Yields b) {profile : String}
    (hprofile : profile ∈ Profile.requestable) :
    requestShape.check (withProfile (.text profile) b) = .ok (withProfile (.text profile) b) := by
  have hstable := bodyShape_stable b hb
  obtain ⟨ms, vs, -, rfl, -⟩ := Shape.Yields.record_object hstable
  have hcheck : requestShape.check (withProfile (.text profile) (.object vs)) =
      (bodyShape.check (.object vs)).map (withProfile (.text profile)) := by
    refine requestShape_check_eq_map hprofile List.lookup_cons_self fun name hname => ?_
    rw [List.lookup_cons, beq_eq_false_iff_ne.mpr hname]
    rfl
  rw [hcheck, hstable]
  rfl

/-- **The profile of a path and the profile of a body come to the same.**  Let an object be given,
and a profile that a request may name.  The object is a valid body exactly when it is a valid
request once its profile is set to that one, and where they are not valid the same issues are
reported of both, in the same order.  Where they are, the body with the profile is the request, and
it is a valid request again, unchanged.  So it has that profile whatever the body says of a profile,
and otherwise what the body has. -/
theorem requestShape_check_withProfile (ms : List (String × Document)) {profile : String}
    (hprofile : profile ∈ Profile.requestable) :
    let request := requestShape.check
      (.object (Document.insertMember "profile" (.text profile) ms))
    let body := bodyShape.check (.object ms)
    ((∃ b, body = .ok b) ↔ ∃ r, request = .ok r) ∧
      (∀ issues, body = .error issues ↔ request = .error issues) ∧
      ∀ b, body = .ok b → ∃ r, request = .ok r ∧
        requestShape.check (withProfile (.text profile) b) = .ok r ∧
        withProfile (.text profile) b = r ∧
        r.names = ["profile", "coordinates", "options"] ∧
        r.fieldOrNull "profile" = .text profile ∧
        ∀ name, name ≠ "profile" → r.fieldOrNull name = b.fieldOrNull name := by
  intro request body
  have hrequest : request = body.map (withProfile (.text profile)) :=
    requestShape_check_eq_map hprofile (Document.lookup_insertMember_self _ _ _)
      fun name hname => Document.lookup_insertMember_of_ne hname _ _
  refine ⟨?_, fun issues => by rw [hrequest, map_eq_error], fun b hb => ?_⟩
  · simp only [hrequest, map_eq_ok]
    exact ⟨fun ⟨b, hb⟩ => ⟨_, b, hb, rfl⟩, fun ⟨_, b, hb, _⟩ => ⟨b, hb⟩⟩
  · have hnames : (withProfile (.text profile) b).names =
        ["profile", "coordinates", "options"] := by
      obtain ⟨_, vs, -, rfl, hvs⟩ := Shape.Yields.record_object hb
      exact congrArg ("profile" :: ·) (Shape.Yields.names_checkFields hvs)
    have hr : request = .ok (withProfile (.text profile) b) := by
      rw [hrequest, hb]
      rfl
    exact ⟨_, hr, requestShape_check_of_yields ⟨_, hb⟩ hprofile, rfl, hnames, rfl,
      fun name hname => fieldOrNull_withProfile hname⟩

/-- The members of a body that names a profile that there is not. -/
def nopeBody : List (String × Document) :=
  [("profile", .text "nope"),
   ("coordinates", .array [.array [.integer 1, .integer 2], .array []]),
   ("options", .object [("avoid_features", .array [.text "ferries"])])]

/-- As a body this is valid, and it becomes a request of the profile of the path.  An object without
coordinates, and with null for its options, is refused either way with the same two issues. -/
theorem requestShape_check_nopeBody :
    "wheelchair" ∈ Profile.requestable ∧
      (∃ b r, bodyShape.check (.object nopeBody) = .ok b ∧
        requestShape.check (withProfile (.text "wheelchair") b) = .ok r ∧
        r.fieldOrNull "profile" = .text "wheelchair" ∧
        r.fieldOrNull "coordinates" = b.fieldOrNull "coordinates") ∧
      requestShape.check (.object [("profile", .text "wheelchair"), ("options", .null)]) =
        .error [⟨[.field "coordinates"], .missing⟩,
          ⟨[.field "options"], .notRecord "RouteRequestOptions"⟩] := by
  have hprofile : "wheelchair" ∈ Profile.requestable := by decide
  refine ⟨hprofile, ?_, ?_⟩
  · obtain ⟨b, hb⟩ : ∃ b, bodyShape.check (.object nopeBody) = .ok b := ⟨_, rfl⟩
    obtain ⟨r, -, hagain, -, -, hr, hsame⟩ :=
      (requestShape_check_withProfile nopeBody hprofile).2.2 b hb
    exact ⟨b, r, hb, hagain, hr, hsame "coordinates" (by decide)⟩
  · exact ((requestShape_check_withProfile [("profile", .null), ("options", .null)]
      hprofile).2.1 _).mp rfl

end RouteIntake
