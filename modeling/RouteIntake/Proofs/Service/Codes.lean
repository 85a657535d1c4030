import RouteIntake.Proofs.Conversion.Codes
import RouteIntake.Proofs.Service.ErrorBody

/-!
# The codes that errors are reported under

A handler looks up the code of an error in its registry, under a name that goes with the kind of the
error.  The code then passes from the conversion that rejects a request to the error, and from there
to the body of the answer.  The main statement follows it all the way:

* `Handler.code_of_rejected`: whatever a conversion of a handler is rejected for, the error has the
  code that the registry gives to the name, -1 where there is none, and the body tells this code,
  unless it is zero.

A code of zero counts as no code when the body is put together, so there it is replaced by the
general one.  The error itself keeps it.
-/

namespace RouteIntake

open Service

variable {kind : HandlerKind} {codes : ErrorCodes}

/-! ## Calls of a handler -/

/-- A conversion that a handler is called for. -/
inductive Call
  /-- The name of a profile. -/
  | profile (name : Document)
  /-- The kind of vehicle, for a profile that is given somehow. -/
  | vehicle (kind id : Document)
  /-- Features, for a profile that is given somehow. -/
  | features (names id : Document)
  /-- Areas. -/
  | areas (room : Room) (d : Document)
  /-- Restrictions. -/
  | restrictions (rs : Restrictions) (id : Int)
  /-- The parameters of a profile. -/
  | parameters (room : Room) (o : Options) (id : Int)
  /-- A whole request. -/
  | request (room : Room) (r : Request)

/-- Why a call of a handler fails, if it does. -/
def Call.failure? (h : Handler) : Call → Option Failure
  | .profile name => RouteIntake.failure? (convertProfile h name)
  | .vehicle kind id => RouteIntake.failure? (Conversion.vehicle h kind id)
  | .features names id => RouteIntake.failure? (Conversion.features h names id)
  | .areas room d => RouteIntake.failure? (Area.ofDocument h room d)
  | .restrictions rs id => RouteIntake.failure? (validateRestrictions h rs id)
  | .parameters room o id => RouteIntake.failure? (convertParameters h room o id).outcome
  | .request room r => RouteIntake.failure? (h.convertRequest room r).outcome

/-- A conversion that is the same as itself under one registry has its code from there. -/
lemma Alike.exists_codeName {α : Type} {x : Except Failure α} (hx : Alike codes codes x x)
    {code : Document} {reason : Reason}
    (h : RouteIntake.failure? x = some (.rejected code reason)) :
    ∃ name, (ParameterError.ofReason code reason).CodeName name ∧ code = codes.code name := by
  rw [failure?_eq_some_iff] at h
  subst h
  cases hx with
  | raised _ _ e _ name he _ _ hname hcode _ =>
    obtain rfl := Option.some.inj he
    exact ⟨name, hname, (ParameterError.code_ofReason code reason).symm.trans hcode⟩

/-- A call that is rejected is rejected under the code of the name that goes with the error. -/
lemma Call.exists_codeName {call : Call} {code : Document} {reason : Reason}
    (h : call.failure? (.withCodes kind codes) = some (.rejected code reason)) :
    ∃ name, (ParameterError.ofReason code reason).CodeName name ∧ code = codes.code name := by
  cases call with
  | profile name => exact (alike_convertProfile name).exists_codeName h
  | vehicle kind id => exact (Conversion.alike_vehicle kind id).exists_codeName h
  | features names id => exact (Conversion.alike_features names id).exists_codeName h
  | areas room d => exact (Area.alike_ofDocument room d).exists_codeName h
  | restrictions rs id => exact (alike_validateRestrictions rs id).exists_codeName h
  | parameters room o id => exact (alike_convertParameters room o id).outcome.exists_codeName h
  | request room r => exact (Handler.alike_convertRequest room r).outcome.exists_codeName h

/-! ## Codes -/

/-- The number that is registered for a name, -1 where there is none. -/
def numberOf (entries : List (String × Int)) (name : String) : Int :=
  (entries.lookup name).getD (-1)

lemma ErrorCodes.code_ofNumbers (entries : List (String × Int)) (name : String) :
    (ofNumbers entries).code name = .integer (numberOf entries name) := by
  have hget : (ofNumbers entries).get? name = (entries.lookup name).map .integer := by
    unfold get? ofNumbers
    induction entries with
    | nil => rfl
    | cons entry entries ih =>
      rw [List.map_cons, List.lookup_cons, List.lookup_cons]
      cases name == entry.1 with
      | true => rfl
      | false => exact ih
  rw [code, hget, numberOf]
  cases entries.lookup name <;> rfl

lemma codeOrInternal_integer (n : Int) :
    codeOrInternal (.integer n) = if n = 0 then internalCode else .integer n := by
  by_cases h : n = 0 <;> simp [codeOrInternal, Document.isTruthy, h]

/-- **The registry of a handler decides the code of every error.**  Let a handler look up codes in a
registry of numbers, and let one of its conversions be rejected.  Then the error goes with the name
of its kind, and it has the number that is registered for this name, or -1.  Wherever it is
answered, the body tells the same number; only zero is told as the general code. -/
theorem Handler.code_of_rejected {h : Handler} {entries : List (String × Int)}
    (hstore : h.store = .registry (.ofNumbers entries)) {call : Call} {code : Document}
    {reason : Reason} (hcall : call.failure? h = some (.rejected code reason)) :
    ∃ (e : ParameterError) (name : String),
      e = .ofReason code reason ∧ e.CodeName name ∧
      e.code = (ErrorCodes.ofNumbers entries).code name ∧
      e.code = .integer (numberOf entries name) ∧
      ∀ s env, s.settings.appEnv = .text env →
        ∃ body, (Problem.parameter e).body s = .ok body ∧
          errorField? body "code" = some (
            if numberOf entries name = 0 then .text "INTERNAL_ERROR"
            else .integer (numberOf entries name)) := by
  obtain ⟨kind, store⟩ := h
  obtain rfl : store = .registry (.ofNumbers entries) := hstore
  obtain ⟨name, hname, hregistered⟩ := Call.exists_codeName hcall
  have hlooked : (ParameterError.ofReason code reason).code =
      (ErrorCodes.ofNumbers entries).code name :=
    (ParameterError.code_ofReason code reason).trans hregistered
  have hcode := hlooked.trans (ErrorCodes.code_ofNumbers entries name)
  refine ⟨_, name, rfl, hname, hlooked, hcode, fun s env henv => ?_⟩
  refine ⟨_, Problem.body_of_text henv _, ?_⟩
  rw [errorField?_code, Problem.code, ParameterError.toApi, hcode, codeOrInternal_integer,
    internalCode]

/-- A handler that has the number 0 for wrong values, and no other. -/
def zeroHandler : Handler := .withCodes .route (.ofNumbers [("INVALID_PARAMETER_VALUE", 0)])

/-- A profile that there is not is reported with the code 0, but the body tells the general code. -/
theorem Handler.code_of_rejected_zeroHandler :
    ∃ (code : Document) (reason : Reason) (e : ParameterError),
      (Call.profile (.text "nope")).failure? zeroHandler = some (.rejected code reason) ∧
      e = .ofReason code reason ∧ e.code = .integer 0 ∧
      ∃ body, (Problem.parameter e).body ⟨.standard, .text "1", ""⟩ = .ok body ∧
        errorField? body "code" = some (.text "INTERNAL_ERROR") := by
  have hcall : (Call.profile (.text "nope")).failure? zeroHandler =
      some (.rejected (.integer 0) (.unknownValue "profile" "nope")) := rfl
  obtain ⟨e, name, he, hname, -, hcode, hbody⟩ :=
    Handler.code_of_rejected (h := zeroHandler) rfl hcall
  have hvalue : name = "INVALID_PARAMETER_VALUE" := by
    subst he
    cases hname with
    | unreadable h => cases h
    | restrictions h => cases h.1
    | value => rfl
  subst hvalue
  exact ⟨_, _, e, hcall, he, hcode, hbody _ _ rfl⟩

end RouteIntake
