import RouteIntake.Proofs.Schema.Issues
import RouteIntake.Proofs.Service.ErrorBody

/-!
# Problems that can be answered

A problem is answered with a document that is put together from its code, its message, its details
and the identifier of the request.  It is answered when these are finite and sound
(`answerProblem_eq_ok`); a message that is not sound cannot be sent, and the answer breaks down
(`answerProblem_eq_error`).  The problems of a body that is not accepted can always be answered.
-/

namespace RouteIntake.Service

open Schema Text

/-! ## Answers to problems -/

/-- Whether a problem can be answered. -/
structure Problem.Answerable (p : Problem) : Prop where
  /-- The code has a form. -/
  code : Writable p.code
  /-- The message has a form. -/
  message : Writable p.message
  /-- The details have a form. -/
  details : Writable p.details

/-- Surroundings as the service sets them up: the name of the environment is a text, and the
identifier of the request a text without halves of characters. -/
structure Surroundings.Regular (s : Surroundings) : Prop where
  /-- The environment is a text. -/
  environment : ∃ env, s.settings.appEnv = .text env
  /-- The identifier is a sound text. -/
  requestId : ∃ id, s.requestId = .text id ∧ Text.isSound id = true

variable {s : Surroundings} {p : Problem}

/-- In regular surroundings the body of a problem is always put together. -/
lemma Surroundings.Regular.body_eq_ok (hs : s.Regular) (p : Problem) :
    ∃ shown, p.body s = .ok (errorBody shown p.code p.message s.requestId p.details) := by
  obtain ⟨env, henv⟩ := hs.environment
  exact ⟨_, Problem.body_of_text henv p⟩

/-- A problem whose parts have a form is answered with its own status. -/
lemma answerProblem_eq_ok (hs : s.Regular) (hp : p.Answerable) :
    ∃ d, answerProblem s p = .ok (.ofDocument p.status d) := by
  obtain ⟨shown, hbody⟩ := hs.body_eq_ok p
  obtain ⟨id, hid, hsound⟩ := hs.requestId
  have hw : Writable (errorBody shown p.code p.message s.requestId p.details) :=
    writable_errorBody_iff.mpr
      ⟨hp.code, hp.message, fun _ => hid ▸ writable_text hsound, fun _ => hp.details⟩
  exact ⟨_, answerProblem_eq_ok_iff.mpr ⟨_, hbody, hw, rfl⟩⟩

/-- A problem whose message has no form is not answered. -/
lemma answerProblem_eq_error (hs : s.Regular) (hp : ¬Writable p.message) :
    ∃ b, answerProblem s p = .error b := by
  obtain ⟨shown, hbody⟩ := hs.body_eq_ok p
  rw [answerProblem, hbody, ok_bind]
  exact written_eq_error fun hw => hp (writable_errorBody_iff.mp hw).2.1

/-! ## Errors of a body -/

/-- Whether an error of a message can be listed in an answer. -/
def FieldError.Answerable (e : FieldError) : Prop :=
  Text.isSound e.field = true ∧ Writable e.told

lemma isSound_stepText {step : Step} (h : ∀ name, step = .field name → Text.isSound name = true) :
    Text.isSound (FieldError.stepText step) = true := by
  cases step with
  | field name => exact h name rfl
  | item i => exact isSound_of_isPlain (isPlain_repr i)

/-- An issue that can be sent makes an error that can be listed. -/
lemma FieldError.answerable_ofIssue {part : String} (hpart : Text.isSound part = true)
    {issue : Issue} (h : issue.IsSound) :
    (FieldError.ofIssue .unnamed (.field part) issue).Answerable := by
  constructor
  · refine isSound_intercalate (by decide) (by decide) fun t ht => ?_
    obtain ⟨step, hstep, rfl⟩ := List.mem_map.mp ht
    refine isSound_stepText fun name hname => ?_
    rcases List.mem_cons.mp (List.mem_filter.mp hstep).1 with rfl | hpath
    · rw [← Step.field.inj hname]
      exact hpart
    · exact h.1 name (hname ▸ hpath)
  · unfold told
    split
    · exact writable_text (isSound_of_isPlain (by decide))
    · exact writable_text h.2

lemma answerable_invalid {errors : List FieldError} (h : ∀ e ∈ errors, e.Answerable) :
    (Problem.invalid errors).Answerable := by
  have hname : ∀ name ∈ ["fields", "field", "message"], Text.isSound name = true := by decide
  refine
    { code := writable_text (isSound_of_isPlain (by decide))
      message := writable_text (isSound_of_isPlain (by decide))
      details := ?_ }
  rw [Problem.details, writable_object_iff, List.forall_mem_singleton]
  refine ⟨hname _ (by simp), writable_array_iff.mpr fun d hd => ?_⟩
  obtain ⟨e, he, rfl⟩ := List.mem_map.mp hd
  obtain ⟨hfield, htold⟩ := h e he
  rw [writable_object_iff, List.forall_mem_cons, List.forall_mem_singleton]
  exact ⟨⟨hname _ (by simp), writable_text hfield⟩, hname _ (by simp), htold⟩

/-- The errors of a check whose issues can be sent can be listed. -/
lemma answerable_errorsIn {α : Type} {part : String} (hpart : Text.isSound part = true)
    {x : Except (List Issue) α} (h : RefusesSoundly x) :
    ∀ e ∈ errorsIn (.field part) x, e.Answerable := by
  cases x with
  | ok a => simp [errorsIn]
  | error issues =>
    intro e he
    obtain ⟨i, hi, rfl⟩ := List.mem_map.mp he
    exact FieldError.answerable_ofIssue hpart (h issues rfl i hi)

lemma answerable_malformedError (offset : Nat) : (malformedError offset).Answerable := by
  constructor
  · refine isSound_intercalate (by decide) (by decide) fun t ht => ?_
    obtain ⟨step, hstep, rfl⟩ := List.mem_map.mp ht
    refine isSound_stepText fun name hname => ?_
    subst hname
    simp [malformedError, FieldError.bodyStep] at hstep
  · unfold FieldError.told
    split <;> exact writable_text (isSound_of_isPlain (by decide))

/-- Bytes that cannot be read at all are refused with an answer. -/
lemma answerable_unreadable :
    (Problem.http 400 (.text "There was an error parsing the body")).Answerable where
  code := writable_text (s := "BAD_REQUEST") (isSound_of_isPlain (by decide))
  message :=
    writable_text (s := "There was an error parsing the body") (isSound_of_isPlain (by decide))
  details := writable_null

/-- The issues of a body can all be sent. -/
lemma refusesSoundly_checkBody (reading : BodyReading) : RefusesSoundly (checkBody reading) := by
  have hbody : bodyShape.isSound = true := by decide
  cases reading with
  | document d => exact bodyShape.check_refusesSoundly hbody d
  | _ => exact refusesSoundly_complain (by simp [Complaint.quoted])

/-- The errors that a profile in the path brings. -/
def profileErrors (profile : String) : List FieldError :=
  errorsIn (.field "path") (under (.field "profile") (profileShape.check (.text profile)))

lemma answerable_profileErrors (profile : String) :
    ∀ e ∈ profileErrors profile, e.Answerable := by
  have hprofile : profileShape.isSound = true := by decide
  refine answerable_errorsIn (isSound_of_isPlain (by decide))
    ((profileShape.check_refusesSoundly hprofile _).under fun name hname => ?_)
  rw [← Step.field.inj hname]
  exact isSound_of_isPlain (by decide)

/-- A profile brings no errors when a request may name it. -/
lemma profileErrors_eq_nil {profile : String} :
    profileErrors profile = [] ↔ profile ∈ Profile.requestable := by
  by_cases h : profile ∈ Profile.requestable
  · simp [profileErrors, profileShape, Shape.check, readChoice, single, under, errorsIn, h]
  · have herror : ∃ c, readChoice Profile.requestable (.text profile) = .error c := by
      simp only [readChoice, List.contains_iff_mem, h, if_false]
      split <;> exact ⟨_, rfl⟩
    obtain ⟨c, hc⟩ := herror
    simp [profileErrors, profileShape, Shape.check, hc, single, complain, under, errorsIn, h]

/-- A body is read, then checked; both have to be in order for the profile to matter alone. -/
lemma checkConversion_eq {profile : String} {reading : BodyReading} :
    checkConversion profile reading =
      match reading with
      | .unreadable => .error (.http 400 (.text "There was an error parsing the body"))
      | .malformed offset => .error (.invalid [malformedError offset])
      | reading =>
        match checkBody reading with
        | .error issues =>
          .error (.invalid (profileErrors profile ++
            issues.map (FieldError.ofIssue .unnamed FieldError.bodyStep)))
        | .ok body =>
          if (profileErrors profile).isEmpty then .ok body
          else .error (.invalid (profileErrors profile)) := rfl

/-- Where an error of a conversion request comes from. -/
inductive FieldError.Origin (profile : String) (reading : BodyReading) : FieldError → Prop
  /-- The profile is none that a request may name. -/
  | profile {e : FieldError} (h : e ∈ profileErrors profile) : Origin profile reading e
  /-- The body is a text that stops being a document. -/
  | malformed (offset : Nat) : Origin profile reading (malformedError offset)
  /-- The body is not the record that it should be. -/
  | body {issues : List Issue} {i : Issue} (h : checkBody reading = .error issues)
      (hi : i ∈ issues) : Origin profile reading (.ofIssue .unnamed FieldError.bodyStep i)

/-- A body that is not accepted cannot be read, or it has errors. -/
lemma problem_of_checkConversion {profile : String} {reading : BodyReading}
    (h : checkConversion profile reading = .error p) :
    p = .http 400 (.text "There was an error parsing the body") ∨
      ∃ errors, p = .invalid errors ∧ ∀ e ∈ errors, e.Origin profile reading := by
  rw [checkConversion_eq] at h
  -- bytes that are no text, a text that is no document, or a document
  split at h
  · exact Or.inl (Except.error.inj h).symm
  · obtain rfl := Except.error.inj h
    exact Or.inr ⟨_, rfl, List.forall_mem_singleton.mpr (.malformed _)⟩
  · right
    split at h
    · rename_i issues hissues
      obtain rfl := Except.error.inj h
      refine ⟨_, rfl, List.forall_mem_append.mpr ⟨fun e he => .profile he, ?_⟩⟩
      exact List.forall_mem_map.mpr fun i hi => .body hissues hi
    · split at h
      · cases h
      · obtain rfl := Except.error.inj h
        exact ⟨_, rfl, fun e he => .profile he⟩

/-- **A body that is not accepted is answered**, with status 400 where it is no document and with
status 422 where it is the wrong one. -/
lemma checkConversion_eq_error {profile : String} {reading : BodyReading}
    (h : checkConversion profile reading = .error p) :
    p.Answerable ∧ (p.status = 400 ∨ p.status = 422) := by
  rcases problem_of_checkConversion h with rfl | ⟨errors, rfl, horigin⟩
  · exact ⟨answerable_unreadable, Or.inl rfl⟩
  · refine ⟨answerable_invalid fun e he => ?_, Or.inr rfl⟩
    cases horigin e he with
    | profile he => exact answerable_profileErrors profile e he
    | malformed offset => exact answerable_malformedError offset
    | @body issues i hissues hi =>
      exact FieldError.answerable_ofIssue (isSound_of_isPlain (by decide))
        (refusesSoundly_checkBody _ issues hissues i hi)

/-- A body is accepted when it is a document that passes its check, for a profile that a request may
name. -/
lemma checkConversion_eq_ok {profile : String} {reading : BodyReading} {body : Document} :
    checkConversion profile reading = .ok body ↔
      (∃ d, reading = .document d ∧ bodyShape.check d = .ok body) ∧
        profile ∈ Profile.requestable := by
  rw [← profileErrors_eq_nil, checkConversion_eq]
  cases reading with
  | document d =>
    cases hbody : bodyShape.check d with
    | error issues => simp [checkBody, hbody]
    | ok b =>
      by_cases hp : profileErrors profile = []
      · simp [checkBody, hbody, hp]
      · simp [checkBody, hbody, hp]
  | _ => simp [checkBody, complain]

end RouteIntake.Service
