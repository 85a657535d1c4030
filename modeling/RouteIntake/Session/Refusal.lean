import RouteIntake.Answer
import RouteIntake.Handler

/-!
# Refusals

A `Refusal` is why a step or an operation gives no value: what it converts is rejected or cut short,
a document is not the record it should be, a name is not there, or something is not allowed.
-/

namespace RouteIntake

open Schema

/-- Why a step or an operation gives no value. -/
inductive Refusal
  /-- A request is rejected, under this code. -/
  | rejected (code : Document) (reason : Reason)
  /-- Something was cut short. -/
  | brokenDown (breakdown : Breakdown)
  /-- A document is not a record of this name. -/
  | invalid (recordName : String) (issues : List Issue)
  /-- A name or a key is not there. -/
  | absent (key : Document)
  /-- Something of this kind is not allowed. -/
  | forbidden (kind message : String)

/-- A value, or the refusal that a breakdown comes to. -/
def orBrokenDown {α : Type} : Except Breakdown α → Except Refusal α
  | .ok a => .ok a
  | .error b => .error (.brokenDown b)

/-- The refusal that the failure of a conversion comes to. -/
def Refusal.ofFailure : Failure → Refusal
  | .rejected code reason => .rejected code reason
  | .brokenDown b => .brokenDown b

/-- Validates a document as a record.  Constants count as texts. -/
def Schema.Shape.checked (shape : Shape) (d : Document) : Except Refusal Document :=
  match shape.check d.bare with
  | .ok v => .ok v
  | .error issues => .error (.invalid shape.name issues)

theorem orBrokenDown_eq_ok {α : Type} {x : Except Breakdown α} {a : α} :
    orBrokenDown x = .ok a ↔ x = .ok a := by
  cases x <;> simp [orBrokenDown]

end RouteIntake
