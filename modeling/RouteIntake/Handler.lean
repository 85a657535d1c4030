import RouteIntake.ErrorCodes
import RouteIntake.Rejection

/-!
# Handlers

A handler converts requests.  Where it rejects one it looks up the code of the error in a registry,
under a name that is fixed at that place.  It may have been given something else in the place of a
registry; that shows only when a code is looked up, and then the conversion is cut short.
-/

namespace RouteIntake

/-- The kinds of handlers. -/
inductive HandlerKind
  /-- Converts single parameters. -/
  | generic
  /-- Converts whole requests as well. -/
  | route
deriving DecidableEq, Repr

/-- The name of a kind of handler. -/
def HandlerKind.name : HandlerKind → String
  | .generic => "GenericHandler"
  | .route => "RouteRequestHandler"

/-- The error codes of a handler that is given none. -/
def HandlerKind.standardCodes : HandlerKind → ErrorCodes
  | .generic => .empty
  | .route => .routing

/-- Where a handler looks up codes. -/
inductive CodeStore
  /-- A registry. -/
  | registry (codes : ErrorCodes)
  /-- Something of this kind, which gives no codes. -/
  | other (kind : String)

/-- The breakdown of a look-up where there are no codes. -/
def CodeStore.noCodes (kind : String) : Breakdown := .noProperty kind "get_code"

/-- A handler: what it converts, and where it looks up codes. -/
structure Handler where
  /-- The kind of handler. -/
  kind : HandlerKind
  /-- Where codes are looked up. -/
  store : CodeStore

namespace Handler

/-- A handler with a registry. -/
def withCodes (kind : HandlerKind) (codes : ErrorCodes) : Handler := ⟨kind, .registry codes⟩

/-- A handler that is given no registry. -/
def standard (kind : HandlerKind) : Handler := withCodes kind kind.standardCodes

/-- The failure of a conversion that a handler rejects for a reason, under the code with a name. -/
def failure (h : Handler) (name : String) (reason : Reason) : Failure :=
  match h.store with
  | .registry codes => .rejected (codes.code name) reason
  | .other kind => .brokenDown (CodeStore.noCodes kind)

/-- A conversion that a handler rejects for a reason, under the code with a name. -/
def reject {α : Type} (h : Handler) (name : String) (reason : Reason) : Except Failure α :=
  .error (h.failure name reason)

@[simp] theorem failure_withCodes (kind : HandlerKind) (codes : ErrorCodes) (name : String)
    (reason : Reason) :
    (withCodes kind codes).failure name reason = .rejected (codes.code name) reason := rfl

/-- What a handler rejects something for is the reason that was given. -/
theorem eq_of_failure_eq_rejected {h : Handler} {name : String} {reason reason' : Reason}
    {code : Document} (hf : h.failure name reason = .rejected code reason') : reason' = reason := by
  unfold failure at hf
  split at hf
  · exact (Failure.rejected.inj hf).2.symm
  · cases hf

end Handler

end RouteIntake
