import RouteIntake.Proofs.Document.Sound
import RouteIntake.Proofs.Outcome
import RouteIntake.Service.Routes

/-!
# What the body of an error says

The body of an error answer is an object with an error in it; `errorField?` is a field of that error
as a client reads it.  The code, the message and the identifier of the request are the same in all
surroundings.  The details are there outside production only, and where the name of the environment
is a text nothing goes wrong with them (`Problem.body_of_text`).

A body is sent when it has a form as an answer, and that depends on its parts one by one
(`writable_errorBody_iff`).
-/

namespace RouteIntake.Service

open Text

/-! ## Documents of answers -/

/-- Whether a document has a form as a part of an answer. -/
def Writable (d : Document) : Prop := d.isFinite = true ∧ d.isSound = true

lemma writable_null : Writable .null := ⟨rfl, rfl⟩

lemma writable_text {s : String} (h : Text.isSound s = true) : Writable (.text s) := ⟨rfl, h⟩

lemma writable_array_iff {ds : List Document} :
    Writable (.array ds) ↔ ∀ d ∈ ds, Writable d := by
  show Document.itemsFinite ds = true ∧ Document.itemsSound ds = true ↔ _
  induction ds with
  | nil => simp [Document.itemsFinite, Document.itemsSound]
  | cons d ds ih =>
    rw [List.forall_mem_cons, ← ih, Document.itemsFinite, Document.itemsSound, Bool.and_eq_true,
      Bool.and_eq_true, Writable, and_and_and_comm]

lemma writable_object_iff {ms : List (String × Document)} :
    Writable (.object ms) ↔ ∀ m ∈ ms, Text.isSound m.1 = true ∧ Writable m.2 := by
  show Document.membersFinite ms = true ∧ Document.membersSound ms = true ↔ _
  induction ms with
  | nil => simp [Document.membersFinite, Document.membersSound]
  | cons m ms ih =>
    rw [List.forall_mem_cons, ← ih, Document.membersFinite, Document.membersSound, Bool.and_eq_true,
      Bool.and_eq_true, Bool.and_eq_true, Writable, and_and_and_comm, ← and_assoc,
      and_left_comm (a := m.2.isFinite = true), and_assoc]

/-- A document without a form as an answer is not sent. -/
lemma written_eq_error {status : Int} {d : Document} (h : ¬Writable d) :
    ∃ b, Outgoing.written status d = .error b := by
  cases hw : Outgoing.written status d with
  | error b => exact ⟨b, rfl⟩
  | ok o => exact absurd (unwritable?_eq_none_iff.mp (Outgoing.written_eq_ok.mp hw).1) h

/-! ## Bodies of errors -/

/-- The error in the body of an answer, if there is one. -/
def error? (body : Document) : Option Document := body.field? "error"

/-- A field of the error in the body of an answer. -/
def errorField? (body : Document) (name : String) : Option Document :=
  (error? body).bind fun error => error.field? name

variable {shown : Bool} {code message requestId details : Document}

@[simp] lemma isSome_error?_errorBody :
    (error? (errorBody shown code message requestId details)).isSome = true := rfl

@[simp] lemma errorField?_code :
    errorField? (errorBody shown code message requestId details) "code" = some code := rfl

/-- The body of an error names the request unless the identifier is empty. -/
lemma errorField?_requestId (h : requestId.isTruthy = true) :
    errorField? (errorBody shown code message requestId details) "request_id" = some requestId := by
  simp [errorField?, error?, errorBody, Document.field?, h, List.lookup_cons]

/-- The body of an error has the details that are shown. -/
lemma errorField?_details :
    errorField? (errorBody true code message requestId details) "details" = some details := by
  cases h : requestId.isTruthy <;>
    simp [errorField?, error?, errorBody, Document.field?, h, List.lookup_cons]

/-- The body of an error has a form when its parts have; the identifier and the details may be left
out. -/
lemma writable_errorBody_iff :
    Writable (errorBody shown code message requestId details) ↔
      Writable code ∧ Writable message ∧ (requestId.isTruthy = true → Writable requestId) ∧
        (shown = true → Writable details) := by
  have hname : ∀ name ∈ ["error", "code", "message", "request_id", "details"],
      isSound name = true := by decide
  simp only [List.forall_mem_cons] at hname
  obtain ⟨herror, hcode, hmessage, hid, hdetails, -⟩ := hname
  simp only [errorBody, writable_object_iff, List.forall_mem_singleton, List.forall_mem_append,
    List.forall_mem_cons, herror, hcode, hmessage, true_and]
  cases requestId.isTruthy <;> cases shown <;> simp [hid, hdetails, and_assoc]

/-! ## Problems and their bodies -/

variable {s : Surroundings} {p : Problem}

/-- In an environment whose name is a text the body of a problem is always put together, with the
details unless it is production. -/
lemma Problem.body_of_text {env : String} (h : s.settings.appEnv = .text env) (p : Problem) :
    p.body s = .ok (errorBody (p.details.isTruthy && !(lower env == "production")) p.code p.message
      s.requestId p.details) := by
  rw [Problem.body, showsDetails, Settings.isProduction_text h]
  cases p.details.isTruthy <;> rfl

/-- The body of a problem is that of an error, and only the details may be left out. -/
lemma Problem.eq_errorBody_of_body {b : Document} (h : p.body s = .ok b) :
    ∃ shown, b = errorBody shown p.code p.message s.requestId p.details := by
  obtain ⟨shown, -, rfl⟩ := map_eq_ok.mp h
  exact ⟨shown, rfl⟩

/-- A problem that is answered is answered with its status and its body. -/
lemma answerProblem_eq_ok_iff {o : Outgoing} :
    answerProblem s p = .ok o ↔
      ∃ b, p.body s = .ok b ∧ Writable b ∧ o = .ofDocument p.status b := by
  simp only [answerProblem, bind_eq_ok, Outgoing.written_eq_ok, unwritable?_eq_none_iff, Writable]

end RouteIntake.Service
