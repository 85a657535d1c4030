import RouteIntake.Log
import RouteIntake.Settings.Basic

/-!
# Starting the service

Before it serves, the service checks its settings.  With unsafe settings in production it lists what
is wrong and refuses to start; otherwise it says which environment it runs in.  `lifetime` is the
log of a whole run: starting, serving, and shutting down.
-/

namespace RouteIntake.Startup

/-- The name of the logger of the service. -/
def logger : String := "routeparams.main"

/-- A line for information. -/
def info (text : String) : LogLine := ⟨logger, .info, text⟩

/-- A line about an error. -/
def error (text : String) : LogLine := ⟨logger, .error, text⟩

/-- The rule above and below a list of errors. -/
def rule : String := String.ofList (List.replicate 60 '=')

/-- What starting comes to. -/
inductive Start
  /-- The service may serve. -/
  | ready
  /-- The service exits with this status. -/
  | refused (status : Nat)
deriving DecidableEq, Repr

/-- The lines about unsafe settings. -/
def faultLines (faults : List String) : List LogLine :=
  [error rule, error "CONFIGURATION ERRORS", error rule] ++
    faults.map (fun f => error ("  - " ++ f)) ++
    [error rule,
      ⟨logger, .critical, "Refusing to start in production with unsafe configuration!"⟩]

/-- The lines about settings that are in order. -/
def settingsLines (s : Settings) : List LogLine :=
  [info ("Environment: " ++ s.appEnv.mention), info ("Debug Mode: " ++ s.debug.mention)]

/-- What faults come to. -/
def settle (s : Settings) : List String → Traced Breakdown Start
  | [] => ⟨settingsLines s, .ok .ready⟩
  | faults => ⟨faultLines faults, .ok (.refused 1)⟩

/-- Checks the settings: what is logged, and whether the service may serve. -/
def checkSettings (s : Settings) : Traced Breakdown Start := do
  settle s (← Traced.ofOutcome s.faults)

/-- The lines of a service that may serve, with those logged while it serves. -/
def servingLines (s : Settings) (serving : List LogLine) : List LogLine :=
  info (s.appName.mention ++ " started successfully") :: serving ++ [info "Shutting down..."]

/-- A whole run of the service, with the lines logged while it serves. -/
def lifetime (s : Settings) (serving : List LogLine) : Traced Breakdown Start := do
  .say (info ("Starting " ++ s.appName.mention ++ "..."))
  match ← checkSettings s with
  | .ready => ⟨servingLines s serving, .ok .ready⟩
  | .refused status => pure (.refused status)

/-- The service is ready exactly when nothing is wrong with its settings. -/
theorem checkSettings_ready_iff (s : Settings) :
    (checkSettings s).outcome = .ok .ready ↔ s.faults = .ok [] := by
  unfold checkSettings
  rw [Traced.outcome_bind]
  cases h : s.faults with
  | error b => simp [bind, Except.bind]
  | ok fs => cases fs <;> simp [bind, Except.bind, settle]

end RouteIntake.Startup
