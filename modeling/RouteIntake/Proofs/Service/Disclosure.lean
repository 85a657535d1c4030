import RouteIntake.Proofs.Service.ErrorBody

/-!
# What production does not tell

Answers to problems are compared in two runs: in production and outside, or for two problems that
differ in what a client should not see.  In production the details of an error are hidden, and
nothing else.  What only the log is told is hidden everywhere.  The main statement has all of this:

* `answerProblem_production`: a body in production is the body outside without the details, with the
  same status, and problems with the same status, code and message are answered alike when no
  details are shown.

There is one way in which the details count even so: outside production they have to have a form
as an answer, and a problem whose details have none (half of a character stands in them) is not
answered there, although it is in production (`answerProblem_halfError`).
-/

namespace RouteIntake.Service

open Text

/-! ## Bodies without details -/

/-- A body without the details of its error. -/
def withoutDetails (body : Document) : Document :=
  .object (body.members.map fun m =>
    if m.1 == "error" then (m.1, .object (m.2.members.filter fun field => !(field.1 == "details")))
    else m)

variable {shown : Bool} {code message requestId details : Document}

lemma withoutDetails_errorBody :
    withoutDetails (errorBody shown code message requestId details) =
      errorBody false code message requestId details := by
  cases shown <;> cases h : requestId.isTruthy <;>
    simp [withoutDetails, errorBody, Document.members, h]

/-! ## Surroundings -/

/-- Surroundings in production: the name of the environment is this word in any letter case. -/
def Surroundings.InProduction (s : Surroundings) : Prop :=
  ∃ env, s.settings.appEnv = .text env ∧ lower env = "production"

/-- Surroundings outside production: the name of the environment is another. -/
def Surroundings.OutsideProduction (s : Surroundings) : Prop :=
  ∃ env, s.settings.appEnv = .text env ∧ lower env ≠ "production"

/-- Whether the body of a problem tells no details. -/
def Problem.Hides (s : Surroundings) (p : Problem) : Prop :=
  p.body s = .ok (errorBody false p.code p.message s.requestId p.details)

variable {s s' : Surroundings} {p p' : Problem}

/-- In production no problem tells details. -/
lemma Surroundings.InProduction.hides (h : s.InProduction) (p : Problem) : p.Hides s := by
  obtain ⟨env, henv, hproduction⟩ := h
  rw [Problem.Hides, Problem.body_of_text henv, hproduction]
  simp

/-- Outside production all details are told. -/
lemma Surroundings.OutsideProduction.body_eq (h : s.OutsideProduction) (p : Problem) :
    p.body s = .ok (errorBody p.details.isTruthy p.code p.message s.requestId p.details) := by
  obtain ⟨env, henv, hother⟩ := h
  rw [Problem.body_of_text henv, beq_eq_false_iff_ne.mpr hother, Bool.not_false, Bool.and_true]

/-- A problem without details has none to tell anywhere. -/
lemma Problem.hides_of_null (h : p.details = .null) : p.Hides s := by
  rw [Hides, body, h]
  rfl

/-- Problems that tell no details are answered alike when they have the same status, code and
message: nothing else of them comes into the answer. -/
lemma Problem.Hides.answer_eq (h : p.Hides s) (h' : p'.Hides s') (hstatus : p.status = p'.status)
    (hcode : p.code = p'.code) (hmessage : p.message = p'.message)
    (hid : s.requestId = s'.requestId) : answerProblem s p = answerProblem s' p' := by
  have hbody : p.body s = p'.body s' := by
    rw [h, h', hcode, hmessage, hid]
    rfl
  rw [answerProblem, answerProblem, hbody, hstatus]

/-- Only details that are told outside production may have no form. -/
lemma Problem.writable_details_iff :
    Writable p.details ↔ (p.details.isTruthy = true → Writable p.details) := by
  refine ⟨fun h _ => h, fun h => ?_⟩
  cases p with
  | api | http | unexpected => exact writable_null
  | parameter | invalid => exact h rfl

/-! ## Two runs -/

/-- A problem is answered in production as it is outside, without the details; outside production it
has to have details with a form. -/
lemma answerProblem_inside_outside {inside outside : Surroundings} (hin : inside.InProduction)
    (hout : outside.OutsideProduction) (hid : inside.requestId = outside.requestId) (p : Problem) :
    (∃ b, p.body outside = .ok b ∧ p.body inside = .ok (withoutDetails b)) ∧
      (∀ o, answerProblem outside p = .ok o → ∃ b, o = .ofDocument p.status b ∧
        answerProblem inside p = .ok (.ofDocument p.status (withoutDetails b))) ∧
      ((∃ o, answerProblem outside p = .ok o) ↔
        (∃ o, answerProblem inside p = .ok o) ∧ Writable p.details) := by
  have hinside :
      p.body inside = .ok (errorBody false p.code p.message outside.requestId p.details) :=
    hid ▸ hin.hides p
  have houtside := hout.body_eq p
  have hwithout : withoutDetails
      (errorBody p.details.isTruthy p.code p.message outside.requestId p.details) =
        errorBody false p.code p.message outside.requestId p.details := withoutDetails_errorBody
  refine ⟨⟨_, houtside, by rw [hwithout, hinside]⟩, fun o ho => ?_, ?_⟩
  · obtain ⟨b, hb, hw, rfl⟩ := answerProblem_eq_ok_iff.mp ho
    obtain rfl := Except.ok.inj (houtside.symm.trans hb)
    refine ⟨_, rfl, answerProblem_eq_ok_iff.mpr ⟨_, hinside, ?_, by rw [hwithout]⟩⟩
    obtain ⟨hcode, hmessage, hrequest, -⟩ := writable_errorBody_iff.mp hw
    exact writable_errorBody_iff.mpr ⟨hcode, hmessage, hrequest, nofun⟩
  · simp only [answerProblem_eq_ok_iff, houtside, hinside, Except.ok.injEq, exists_eq_left',
      exists_and_left, exists_eq, and_true]
    rw [writable_errorBody_iff, writable_errorBody_iff, Problem.writable_details_iff]
    simp [and_assoc]

/-- **Production hides the details of errors and nothing else.**  Let two surroundings be in
production and outside, with the same identifier.  For every problem the body in production is the
body outside without the details.  A problem that is answered outside is answered in production with
the same status, and conversely, provided that its details have a form as an answer.  What only the
log is told about an error, and of what kind something unexpected was, is told nowhere; in
production the errors of a message and the parameters of an error are not told either. -/
theorem answerProblem_production {inside outside : Surroundings} (hin : inside.InProduction)
    (hout : outside.OutsideProduction) (hid : inside.requestId = outside.requestId) :
    (∀ p : Problem,
      (∃ b, p.body outside = .ok b ∧ p.body inside = .ok (withoutDetails b)) ∧
      (∀ o, answerProblem outside p = .ok o → ∃ b, o = .ofDocument p.status b ∧
        answerProblem inside p = .ok (.ofDocument p.status (withoutDetails b))) ∧
      ((∃ o, answerProblem outside p = .ok o) ↔
        (∃ o, answerProblem inside p = .ok o) ∧ Writable p.details)) ∧
    (∀ s s' : Surroundings, s.requestId = s'.requestId →
      (∀ e internal, answerProblem s (.api e) = answerProblem s' (.api { e with internal })) ∧
      ∀ kind text kind' text',
        answerProblem s (.unexpected kind text) = answerProblem s' (.unexpected kind' text')) ∧
    (∀ errors errors', answerProblem inside (.invalid errors) =
      answerProblem inside (.invalid errors')) ∧
    ∀ e parameters, answerProblem inside (.parameter e) =
      answerProblem inside (.parameter { e with parameters }) := by
  refine ⟨answerProblem_inside_outside hin hout hid, fun s s' hs => ⟨fun e internal => ?_, ?_⟩,
    fun errors errors' => ?_, fun e parameters => ?_⟩
  · exact (Problem.hides_of_null rfl).answer_eq (Problem.hides_of_null rfl) rfl rfl rfl hs
  · intro kind text kind' text'
    exact (Problem.hides_of_null rfl).answer_eq (Problem.hides_of_null rfl) rfl rfl rfl hs
  · exact (hin.hides _).answer_eq (hin.hides _) rfl rfl rfl rfl
  · exact (hin.hides _).answer_eq (hin.hides _) rfl rfl rfl rfl

/-- Surroundings of a service that is told nothing but the name of its environment. -/
def surroundingsIn (env : String) : Surroundings :=
  ⟨{ Settings.standard with appEnv := .text env }, .text "1", ""⟩

/-- An error about a parameter whose value, half of a character, stands in the details alone. -/
def halfError : ParameterError :=
  ⟨.general, .integer 1, .text "d", [(.text "x", .text (ofCodes [0xd800]))]⟩

/-- The bodies for this error differ in the details.  In production it is answered with status 400;
outside it is not answered, for its details have no form. -/
theorem answerProblem_halfError :
    (surroundingsIn "PRODUCTION").InProduction ∧
      (surroundingsIn "development").OutsideProduction ∧
      (∃ b, (Problem.parameter halfError).body (surroundingsIn "development") = .ok b ∧
        (errorField? b "details").isSome = true ∧
        (Problem.parameter halfError).body (surroundingsIn "PRODUCTION") = .ok (withoutDetails b) ∧
        errorField? (withoutDetails b) "details" = none) ∧
      (∃ o, answerProblem (surroundingsIn "PRODUCTION") (.parameter halfError) = .ok o ∧
        o.status = 400) ∧
      ∃ b, answerProblem (surroundingsIn "development") (.parameter halfError) = .error b := by
  have hin : (surroundingsIn "PRODUCTION").InProduction := ⟨"PRODUCTION", rfl, by decide⟩
  have hout : (surroundingsIn "development").OutsideProduction := ⟨"development", rfl, by decide⟩
  obtain ⟨⟨b, hb, hhidden⟩, -, hiff⟩ :=
    (answerProblem_production hin hout rfl).1 (.parameter halfError)
  refine ⟨hin, hout, ⟨b, hb, ?_, hhidden, ?_⟩, ?_, ?_⟩
  · rw [hout.body_eq] at hb
    obtain rfl := Except.ok.inj hb
    rfl
  · rw [hout.body_eq] at hb
    obtain rfl := Except.ok.inj hb
    rfl
  · refine ⟨_, answerProblem_eq_ok_iff.mpr ⟨_, hin.hides _, ?_, rfl⟩, rfl⟩
    exact ⟨by decide +kernel, by decide +kernel⟩
  · have hformless : ¬Writable (Problem.parameter halfError).details := by
      rintro ⟨-, hsound⟩
      exact absurd hsound (by decide +kernel)
    cases ho : answerProblem (surroundingsIn "development") (.parameter halfError) with
    | error b => exact ⟨b, rfl⟩
    | ok o => exact absurd (hiff.mp ⟨o, ho⟩).2 hformless

end RouteIntake.Service
