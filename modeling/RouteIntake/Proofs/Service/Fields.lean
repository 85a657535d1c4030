import RouteIntake.Proofs.Schema.Complaints
import RouteIntake.Proofs.Service.Disclosure
import RouteIntake.Proofs.Service.Problem

/-!
# The places of errors

Outside production the answer to a message with errors lists them one by one, each with its place.
A path starts with the part of the message; the client is not told that a place is in the body, so
that the place of an error (`FieldError.place`) is its path without that first step.  What is told
is the place with every step left out that is called like the body, wherever it stands.  So the
place is told in full exactly when no step of it is called so (`FieldError.field_eq_dotted_iff`).

A conversion request has one kind of errors whose places are not told in full: a record that admits
no other fields than its own is sent a field that is called like the body.  The client is told the
place of the record then, and not of the field.
-/

namespace RouteIntake.Service

open Schema

/-! ## Places -/

namespace FieldError

/-- The place of an error: its path, without the step to the body where it starts with that. -/
def place (e : FieldError) : List Step :=
  if e.path.head? = some bodyStep then e.path.tail else e.path

/-- A place as a text: its steps with points between them. -/
def dotted (steps : List Step) : String := ".".intercalate (steps.map stepText)

/-- A place without the steps that are called like the body. -/
def withoutBody (steps : List Step) : List Step := steps.filter fun s => !(s == bodyStep)

/-- How much room the steps of a place take, each with a point. -/
def room (steps : List Step) : Nat := (steps.map fun s => (stepText s).length + 1).sum

lemma length_dotted {steps : List Step} (h : steps ≠ []) :
    (dotted steps).length + 1 = room steps := by
  induction steps with
  | nil => exact absurd rfl h
  | cons s steps ih =>
    cases steps with
    | nil => simp [dotted, room]
    | cons t steps =>
      have hrest := ih (List.cons_ne_nil t steps)
      have hpoint : ".".length = 1 := by decide
      have hlength : (dotted (s :: t :: steps)).length =
          (stepText s).length + 1 + (dotted (t :: steps)).length := by
        simp [dotted, String.length_append, hpoint]
      have hroom : room (s :: t :: steps) = (stepText s).length + 1 + room (t :: steps) := by
        simp [room]
      omega

/-- Every step that is left out takes the room of its name and a point with it. -/
lemma room_eq_room_withoutBody (steps : List Step) :
    room steps = room (withoutBody steps) + 5 * steps.count bodyStep := by
  induction steps with
  | nil => rfl
  | cons s steps ih =>
    have hroom : room (s :: steps) = (stepText s).length + 1 + room steps := by simp [room]
    by_cases h : s = bodyStep
    · subst h
      have hname : (stepText bodyStep).length = 4 := by decide
      have hout : withoutBody (bodyStep :: steps) = withoutBody steps := by simp [withoutBody]
      rw [hroom, hout, List.count_cons_self]
      omega
    · have hout : withoutBody (s :: steps) = s :: withoutBody steps := by simp [withoutBody, h]
      have hcount : (s :: steps).count bodyStep = steps.count bodyStep :=
        List.count_cons_of_ne h
      rw [hroom, hout, hcount, ih]
      simp [room, add_assoc]

/-- A text of a place that some step is missing from is shorter, so that it is not that of the whole
place. -/
lemma dotted_withoutBody_eq_iff {steps : List Step} :
    dotted (withoutBody steps) = dotted steps ↔ bodyStep ∉ steps := by
  constructor
  · intro heq hmem
    have hcount : 0 < steps.count bodyStep := List.count_pos_iff.mpr hmem
    have hroom := room_eq_room_withoutBody steps
    have hwhole := length_dotted (List.ne_nil_of_mem hmem)
    rw [← heq] at hwhole
    by_cases hnil : withoutBody steps = []
    · have hempty : (dotted (withoutBody steps)).length = 0 := by
        rw [hnil]
        rfl
      omega
    · have hrest := length_dotted hnil
      omega
  · intro hnot
    have hall : withoutBody steps = steps := by
      refine List.filter_eq_self.mpr fun s hs => ?_
      simpa using ne_of_mem_of_not_mem hs hnot
    rw [hall]

/-- What is told is the place without the steps that are called like the body. -/
lemma field_eq (e : FieldError) : e.field = dotted (withoutBody e.place) := by
  show dotted (withoutBody e.path) = _
  unfold place
  split
  · rename_i hhead
    cases hpath : e.path with
    | nil => rfl
    | cons s steps =>
      rw [hpath, List.head?_cons, Option.some.injEq] at hhead
      simp [withoutBody, hhead]
  · rfl

/-- A place is told in full exactly when no step of it is called like the body. -/
lemma field_eq_dotted_iff {e : FieldError} : e.field = dotted e.place ↔ bodyStep ∉ e.place := by
  rw [field_eq]
  exact dotted_withoutBody_eq_iff

/-- The place of an error in the body is the path of its issue. -/
lemma place_ofIssue (wording : Wording) (issue : Issue) :
    (ofIssue wording bodyStep issue).place = issue.path := by
  simp [ofIssue, place]

end FieldError

/-! ## Errors of a conversion request -/

/-- An error whose place has no step that is called like the body, or has it as its last step, being
an undeclared field. -/
def FieldError.NamesBodyLast (e : FieldError) : Prop :=
  FieldError.bodyStep ∈ e.place → e.code = Complaint.extra.code ∧
    ∃ way, e.place = way ++ [FieldError.bodyStep] ∧ FieldError.bodyStep ∉ way

lemma namesBodyLast_profileErrors {profile : String} {e : FieldError}
    (he : e ∈ profileErrors profile) : e.NamesBodyLast := by
  have hpaths : Refuses (fun i => i.path = [.field "profile"])
      (under (.field "profile") (profileShape.check (.text profile))) := by
    refine Refuses.under ((profileShape.check_raises _).imp fun i hi => ?_)
    -- a text has no parts, so that its issues are about itself
    cases hi
    rfl
  intro hbody
  unfold profileErrors errorsIn at he
  split at he
  · simp at he
  · rename_i issues hissues
    obtain ⟨i, hi, rfl⟩ := List.mem_map.mp he
    have hpath := hpaths issues hissues i hi
    simp [FieldError.ofIssue, FieldError.place, FieldError.bodyStep, hpath] at hbody

/-- No field of a body is declared with the name of the body, so that such a name in a path is that
of an undeclared field. -/
lemma extra_of_checkBody (reading : BodyReading) :
    Refuses (fun i => FieldError.bodyStep ∈ i.path → i.complaint = .extra ∧
      ∃ way, i.path = way ++ [FieldError.bodyStep] ∧ FieldError.bodyStep ∉ way)
      (checkBody reading) := by
  cases reading with
  | document d =>
    refine (bodyShape.check_raises d).imp fun i hi hmem => hi.extra_of_mem ?_ hmem
    decide
  | _ => exact refuses_complain fun hmem => by simp at hmem

lemma FieldError.Origin.namesBodyLast {profile : String} {reading : BodyReading} {e : FieldError}
    (h : e.Origin profile reading) : e.NamesBodyLast := by
  cases h with
  | profile he => exact namesBodyLast_profileErrors he
  | malformed offset =>
    intro hbody
    simp [malformedError, FieldError.place, FieldError.bodyStep] at hbody
  | @body issues i hissues hi =>
    intro hbody
    rw [FieldError.place_ofIssue] at hbody ⊢
    obtain ⟨hextra, hway⟩ := extra_of_checkBody reading issues hissues i hi hbody
    exact ⟨congrArg Complaint.code hextra, hway⟩

/-- Of an error whose last step alone is called like the body, the place around it is told. -/
lemma FieldError.NamesBodyLast.field_eq {e : FieldError} (h : e.NamesBodyLast)
    (hbody : FieldError.bodyStep ∈ e.place) :
    e.code = Complaint.extra.code ∧ e.place.getLast? = some FieldError.bodyStep ∧
      e.field = FieldError.dotted e.place.dropLast := by
  obtain ⟨hcode, way, hway, hnot⟩ := h hbody
  have hfield : e.field = FieldError.dotted (FieldError.withoutBody way) := by
    rw [FieldError.field_eq, hway]
    simp [FieldError.withoutBody]
  rw [hfield, hway, List.dropLast_concat, FieldError.dotted_withoutBody_eq_iff.mpr hnot]
  exact ⟨hcode, List.getLast?_concat, rfl⟩

/-! ## The answer -/

/-- **The answer to a message with errors lists each of them with its place, but for steps that are
called like the body.**  Outside production there is a body for every list of errors, and every
answer has it: one entry for each error, in their order, with the field and the message of the
error.  The field is the place of the error, without the steps that are called like the body; it is
the place in full exactly when there are none.  The errors of a conversion request are always
answered.  A place of theirs is not told in full exactly when it is that of an undeclared field
which is called like the body; then the place of the record is told. -/
theorem Problem.body_invalid_fields {s : Surroundings} (hs : s.OutsideProduction) :
    (∀ errors : List FieldError, ∃ b entries, (Problem.invalid errors).body s = .ok b ∧
      (∀ o, answerProblem s (.invalid errors) = .ok o → o = .ofDocument 422 b) ∧
      errorField? b "details" = some (.object [("fields", .array entries)]) ∧
      List.Forall₂
        (fun e entry => entry = .object [("field", .text e.field), ("message", e.told)])
        errors entries) ∧
    (∀ e : FieldError, e.field = FieldError.dotted (FieldError.withoutBody e.place) ∧
      (e.field = FieldError.dotted e.place ↔ FieldError.bodyStep ∉ e.place)) ∧
    ∀ profile reading errors, checkConversion profile reading = .error (.invalid errors) →
      (s.Regular → ∃ o, answerProblem s (.invalid errors) = .ok o) ∧
      ∀ e ∈ errors,
        (e.field ≠ FieldError.dotted e.place ↔ e.code = Complaint.extra.code ∧
          e.place.getLast? = some FieldError.bodyStep) ∧
        (e.field ≠ FieldError.dotted e.place → e.field = FieldError.dotted e.place.dropLast) := by
  refine ⟨fun errors => ?_, fun e => ⟨e.field_eq, FieldError.field_eq_dotted_iff⟩,
    fun profile reading errors h => ⟨fun hregular => ?_, fun e he => ?_⟩⟩
  · have hbody := hs.body_eq (.invalid errors)
    refine ⟨_, _, hbody, fun o ho => ?_, errorField?_details, ?_⟩
    · obtain ⟨b, hb, -, rfl⟩ := answerProblem_eq_ok_iff.mp ho
      rw [Except.ok.inj (hb.symm.trans hbody)]
      rfl
    · rw [List.forall₂_map_right_iff]
      exact List.forall₂_same.mpr fun e _ => rfl
  · obtain ⟨d, hd⟩ := answerProblem_eq_ok hregular (checkConversion_eq_error h).1
    exact ⟨_, hd⟩
  · have hlast : e.NamesBodyLast := by
      rcases problem_of_checkConversion h with h | ⟨errors', h, horigin⟩
      · cases h
      · obtain rfl := Problem.invalid.inj h
        exact (horigin e he).namesBodyLast
    rw [ne_eq, FieldError.field_eq_dotted_iff, not_not]
    refine ⟨⟨fun hbody => ?_, fun hextra => List.mem_of_getLast? hextra.2⟩, fun hbody => ?_⟩
    · exact ⟨(hlast.field_eq hbody).1, (hlast.field_eq hbody).2.1⟩
    · exact (hlast.field_eq hbody).2.2

/-- A body with two restrictions that there are not, one of them called like the body. -/
def strangeBody : Document :=
  .object
    [("coordinates", .array [.array [.integer 8, .integer 49], .array [.integer 9, .integer 49]]),
     ("options", .object [("profile_params", .object [("restrictions",
       .object [("body", .integer 3), ("wingspan", .integer 3)])])])]

/-- The error about a restriction that there is not. -/
def strangeRestriction (name : String) : FieldError where
  path := FieldError.bodyStep :: ["options", "profile_params", "restrictions", name].map .field
  code := "extra_forbidden"
  message := .text "Extra inputs are not permitted"

/-- Both restrictions are reported, and the place of the one that is called like the body is told as
that of the record. -/
theorem body_invalid_fields_strangeBody :
    (surroundingsIn "development").OutsideProduction ∧
      checkConversion "cycling-regular" (.document strangeBody) =
        .error (.invalid [strangeRestriction "body", strangeRestriction "wingspan"]) ∧
      (∃ o, answerProblem (surroundingsIn "development")
        (.invalid [strangeRestriction "body", strangeRestriction "wingspan"]) = .ok o) ∧
      FieldError.dotted (strangeRestriction "body").place =
        "options.profile_params.restrictions.body" ∧
      (strangeRestriction "body").field ≠ FieldError.dotted (strangeRestriction "body").place ∧
      (strangeRestriction "body").field = "options.profile_params.restrictions" ∧
      (strangeRestriction "wingspan").field = "options.profile_params.restrictions.wingspan" := by
  have hout : (surroundingsIn "development").OutsideProduction := ⟨"development", rfl, by decide⟩
  have hregular : (surroundingsIn "development").Regular :=
    ⟨⟨"development", rfl⟩, ⟨"1", rfl, by decide⟩⟩
  have herrors : checkConversion "cycling-regular" (.document strangeBody) =
      .error (.invalid [strangeRestriction "body", strangeRestriction "wingspan"]) := rfl
  obtain ⟨-, hplaces, hconversion⟩ := Problem.body_invalid_fields hout
  obtain ⟨hanswer, hfields⟩ := hconversion _ _ _ herrors
  obtain ⟨hcut, hrecord⟩ := hfields (strangeRestriction "body") (by simp)
  have hlost := hcut.mpr ⟨rfl, rfl⟩
  have hwhole := (hplaces (strangeRestriction "wingspan")).2.mpr (by decide)
  exact ⟨hout, herrors, hanswer hregular, by decide, hlost, hrecord hlost, hwhole⟩

end RouteIntake.Service
