/-!
# Log lines and traced computations

A `LogLine` has the name of its logger, a severity and a text.  A `Traced` computation gives a log
beside its outcome; the log is kept when the outcome is a failure, so the lines written before a
failure are not lost.  `outcome` turns the sequencing of traced computations into the sequencing of
their outcomes, so what a computation gives can be studied without its log.
-/

namespace RouteIntake

/-- How grave a log line is. -/
inductive Severity
  /-- For information. -/
  | info
  /-- A request went wrong on its client's side. -/
  | warning
  /-- Something went wrong on this side. -/
  | error
  /-- The service cannot go on. -/
  | critical
deriving DecidableEq, Repr

/-- The name of a severity. -/
def Severity.name : Severity → String
  | .info => "INFO"
  | .warning => "WARNING"
  | .error => "ERROR"
  | .critical => "CRITICAL"

/-- A line of the log. -/
structure LogLine where
  /-- The name of the logger. -/
  logger : String
  /-- How grave the line is. -/
  severity : Severity
  /-- What the line says. -/
  text : String
deriving DecidableEq, Repr

/-- A log, and a value or a failure after it. -/
structure Traced (ε α : Type) where
  /-- The lines written, in order. -/
  log : List LogLine
  /-- The value, or the failure. -/
  outcome : Except ε α

namespace Traced

variable {ε α β : Type}

/-- A value with nothing to log. -/
def ofOutcome (x : Except ε α) : Traced ε α := ⟨[], x⟩

/-- One log line. -/
def say (line : LogLine) : Traced ε Unit := ⟨[line], .ok ()⟩

/-- One computation after another; a failure ends both. -/
def andThen (x : Traced ε α) (f : α → Traced ε β) : Traced ε β :=
  match x.outcome with
  | .ok a => ⟨x.log ++ (f a).log, (f a).outcome⟩
  | .error e => ⟨x.log, .error e⟩

instance : Monad (Traced ε) where
  pure a := ofOutcome (.ok a)
  bind := andThen

@[simp] theorem outcome_ofOutcome (x : Except ε α) : (ofOutcome x).outcome = x := rfl

@[simp] theorem outcome_pure (a : α) : (pure a : Traced ε α).outcome = .ok a := rfl

@[simp] theorem outcome_say (line : LogLine) : (say line : Traced ε Unit).outcome = .ok () := rfl

@[simp] theorem outcome_bind (x : Traced ε α) (f : α → Traced ε β) :
    (x >>= f).outcome = x.outcome >>= fun a => (f a).outcome := by
  show (andThen x f).outcome = _
  unfold andThen
  cases x.outcome <;> rfl

end Traced

end RouteIntake
