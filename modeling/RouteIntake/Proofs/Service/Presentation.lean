import RouteIntake.Proofs.Conversion.Codes
import RouteIntake.Proofs.Service.ErrorBody

/-!
# Codes are presentation

A handler looks up the codes of its errors in a registry, and any registry may be given to it.  Two
handlers that differ in nothing else stay together from converter to converter, and what their runs
come to is stated here.  `Alike` says when two outcomes are the same but for codes, and
`ParameterError.SameButCode` when two errors are.

The main statement, `Handler.convertRequest_alike`, says that the registry decides nothing: it has
no influence on whether a request is converted, to what, what is wrong with it, or what is logged.
-/

namespace RouteIntake

open Service

namespace Service.ParameterError

/-- The body of an answer tells the same of such errors, but for the code; and if one of them cannot
be put together, neither can the other. -/
lemma SameButCode.body {e e' : ParameterError} (h : e.SameButCode e') (s : Surroundings)
    {name : String} (hname : name ≠ "code") :
    ((Problem.parameter e').body s).map (errorField? · name) =
      ((Problem.parameter e).body s).map (errorField? · name) := by
  have hdetails : (Problem.parameter e').details = (Problem.parameter e).details := by
    show e'.details = e.details
    rw [details, details, h.parameters]
  have hmessage : (Problem.parameter e').message = (Problem.parameter e).message := h.detail
  rw [Problem.body, Problem.body, hdetails, hmessage]
  cases showsDetails s.settings (Problem.parameter e).details with
  | error b => rfl
  | ok shown =>
    have hother : (name == "code") = false := beq_eq_false_iff_ne.mpr hname
    simp [Except.map, errorField?, error?, errorBody, Document.field?, List.lookup_cons, hother]

end Service.ParameterError

/-- **Codes are presentation.**  Let two handlers of one kind have any two registries.  Converting
any request, checked or not, they log the same and end alike: both convert it to the same search, or
both are cut short in the same way, or both raise an error of the same kind, with the same detail,
parameters and status.  Only the codes may differ: each is what the registry has for the name that
goes with the error.  The bodies that answer two such errors tell the same, but for the code. -/
theorem Handler.convertRequest_alike (kind : HandlerKind) (codes codes' : ErrorCodes) (room : Room)
    (r : Request) :
    ((Handler.withCodes kind codes).convertRequest room r).log =
        ((Handler.withCodes kind codes').convertRequest room r).log ∧
      Alike codes codes' ((Handler.withCodes kind codes).convertRequest room r).outcome
        ((Handler.withCodes kind codes').convertRequest room r).outcome ∧
      ∀ e e' : ParameterError, e.SameButCode e' → ∀ s name, name ≠ "code" →
        ((Problem.parameter e').body s).map (errorField? · name) =
          ((Problem.parameter e).body s).map (errorField? · name) := by
  have halike : Traced.Alike codes codes' ((Handler.withCodes kind codes).convertRequest room r)
      ((Handler.withCodes kind codes').convertRequest room r) :=
    Handler.alike_convertRequest room r
  obtain ⟨hlog, houtcome⟩ := halike
  exact ⟨hlog, houtcome, fun e e' he s name hname => he.body s hname⟩

/-- A request for a profile that there is not. -/
def strayRequest : Request := Request.ofDocument (.object [("profile", .text "flying-carpet")])

/-- Without any codes, and with one code for two names, the request is rejected for the same. -/
theorem Handler.convertRequest_alike_stray :
    ∃ e e' : ParameterError, e.SameButCode e' ∧ e.code = .integer (-1) ∧ e'.code = .integer 7 ∧
      ((Handler.withCodes .route .empty).convertRequest .hundred strayRequest).outcome =
        .error (.rejected (.integer (-1)) (.unknownValue "profile" "flying-carpet")) ∧
      e = .ofReason (.integer (-1)) (.unknownValue "profile" "flying-carpet") := by
  obtain ⟨-, halike, -⟩ := Handler.convertRequest_alike .route .empty
    (.ofNumbers [("INVALID_JSON_FORMAT", 7), ("INVALID_PARAMETER_VALUE", 7)]) .hundred strayRequest
  have hrejected :
      ((Handler.withCodes .route .empty).convertRequest .hundred strayRequest).outcome =
      .error (.rejected (.integer (-1)) (.unknownValue "profile" "flying-carpet")) := rfl
  rw [hrejected] at halike
  cases halike with
  | raised f f' e e' name he he' hsame hname hcode hcode' =>
    obtain rfl := Option.some.inj he
    have hvalue : name = "INVALID_PARAMETER_VALUE" := by
      cases hname with
      | unreadable h => cases h
      | restrictions h => cases h.1
      | value => rfl
    subst hvalue
    exact ⟨_, e', hsame, hcode, hcode', hrejected, rfl⟩

end RouteIntake
