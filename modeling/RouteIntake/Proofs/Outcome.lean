import Mathlib
import RouteIntake.Log

/-!
# Sequences of steps that may fail

A conversion is a sequence of steps, each of which gives a value or ends the sequence.  The lemmas
here open one step of such a sequence: from the outcome of the whole they give the outcome of the
first step and that of the rest.  Where only the reason of a failure matters (`failure?`), a
sequence fails as the first of its steps that fail does.
-/

namespace RouteIntake

variable {ε α β : Type}

/-- A sequence gives a value when its first step does and the rest gives that value. -/
lemma bind_eq_ok {x : Except ε α} {f : α → Except ε β} {b : β} :
    (x >>= f) = .ok b ↔ ∃ a, x = .ok a ∧ f a = .ok b := by
  cases x with
  | error e => simp [bind, Except.bind]
  | ok a => simp [bind, Except.bind]

/-- A sequence fails in its first step, or in the rest after the first step has given a value. -/
lemma bind_eq_error {x : Except ε α} {f : α → Except ε β} {e : ε} :
    (x >>= f) = .error e ↔ x = .error e ∨ ∃ a, x = .ok a ∧ f a = .error e := by
  cases x with
  | error e' => simp [bind, Except.bind]
  | ok a => simp [bind, Except.bind]

/-- A value that is mapped comes from a value. -/
lemma map_eq_ok {x : Except ε α} {f : α → β} {b : β} :
    x.map f = .ok b ↔ ∃ a, x = .ok a ∧ f a = b := by
  cases x with
  | error e => simp [Except.map]
  | ok a => simp [Except.map]

/-- A failure that is mapped is a failure. -/
lemma map_eq_error {x : Except ε α} {f : α → β} {e : ε} :
    x.map f = .error e ↔ x = .error e := by
  cases x with
  | error e' => simp [Except.map]
  | ok a => simp [Except.map]

lemma toOption_eq_some_iff {x : Except ε α} {a : α} : x.toOption = some a ↔ x = .ok a := by
  cases x <;> simp [Except.toOption]

@[simp] lemma ok_bind (a : α) (f : α → Except ε β) : (Except.ok a >>= f) = f a := rfl

@[simp] lemma error_bind (e : ε) (f : α → Except ε β) :
    ((Except.error e : Except ε α) >>= f) = .error e := rfl

/-! ## Why a sequence fails -/

/-- Why a conversion fails, if it does. -/
def failure? : Except ε α → Option ε
  | .ok _ => none
  | .error e => some e

lemma failure?_eq_some_iff {x : Except ε α} {e : ε} : failure? x = some e ↔ x = .error e := by
  cases x <;> simp [failure?]

@[simp] lemma failure?_ok (a : α) : failure? (.ok a : Except ε α) = none := rfl

@[simp] lemma failure?_map (x : Except ε α) (f : α → β) : failure? (x.map f) = failure? x := by
  cases x <;> rfl

/-- A last step that cannot fail does not matter. -/
lemma failure?_bind_of_none {x : Except ε α} {f : α → Except ε β}
    (h : ∀ a, x = .ok a → failure? (f a) = none) : failure? (x >>= f) = failure? x := by
  cases x with
  | error e => rfl
  | ok a => exact h a rfl

/-- A sequence fails as the first of its steps that fail does. -/
lemma failure?_bind_eq_findSome? {ι : Type} {fault? : ι → Option ε} {i : ι} {is : List ι}
    {x : Except ε α} {f : α → Except ε β} (hx : failure? x = fault? i)
    (hf : ∀ a, x = .ok a → failure? (f a) = is.findSome? fault?) :
    failure? (x >>= f) = (i :: is).findSome? fault? := by
  rw [List.findSome?_cons, ← hx]
  cases x with
  | error e => rfl
  | ok a => exact hf a rfl

end RouteIntake
