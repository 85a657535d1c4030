import RouteIntake.Proofs.Service.Correlation

/-!
# The lines of the access log over a run

The access log writes a line when a message comes and one when it is answered.  Between the two
stands whatever the inner layers log, and after them what is logged about a breakdown; these lines
have other loggers.  What a single message adds to the access log is an `Exchange`; one lemma says
so of a message that is answered or breaks down, whatever it is, and the statement about a run of
messages is the induction over the run:

* `paired_runLog`.
-/

namespace RouteIntake.Service

open AccessLog

variable {c : Circumstances} {m : Incoming}

/-! ## What comes of a message when messages are logged -/

/-- An answer of the innermost layer gets the header of the access log and those for other
origins. -/
lemma serve_logged_of_ok (hlogs : c.logsRequests = true) (hm : Cors.preflight? m = none)
    {o : Outgoing} (ho : (answerRoute c.installation c.surroundings m).outcome = .ok o) :
    serve c m =
      ⟨(o.withHeaders [("x-request-id", c.loggedId)]).withHeaders
          (Cors.answerHeaders c.policy m),
        arrival c.loggedId m ++ (answerRoute c.installation c.surroundings m).log ++
          departure c.loggedId c.duration m o.status "", none⟩ := by
  simp only [serve, hm, logged, hlogs, ho, if_true]

/-- A breakdown of the innermost layer is logged on its way and answered outside. -/
lemma serve_logged_of_error (hlogs : c.logsRequests = true) (hm : Cors.preflight? m = none)
    {b : Breakdown} (hb : (answerRoute c.installation c.surroundings m).outcome = .error b) :
    serve c m =
      ⟨answerBreakdown c b,
        arrival c.loggedId m ++ (answerRoute c.installation c.surroundings m).log ++
            departure c.loggedId c.duration m 500 b.message ++
          (breakdownProblem b).lines c.surroundings, some b⟩ := by
  simp only [serve, hm, logged, hlogs, hb, if_true]

/-- A preflight is answered before anything is logged. -/
lemma serve_of_preflight {f : Cors.Preflight} (hm : Cors.preflight? m = some f) :
    serve c m = ⟨Cors.answer c.policy f, [], none⟩ := by
  simp only [serve, hm]

/-! ## Lines of the inner layers -/

/-- The lines of a log that are about messages. -/
def accessLines (log : List LogLine) : List LogLine :=
  log.filter fun line => line.logger == AccessLog.logger

lemma accessLines_append (a b : List LogLine) :
    accessLines (a ++ b) = accessLines a ++ accessLines b := List.filter_append a b

/-- All lines about a problem have the logger of problems. -/
lemma logger_of_mem_lines {s : Surroundings} {p : Problem} {line : LogLine} (h : line ∈ p.lines s) :
    line.logger = Problem.logger := by
  cases p with
  | unexpected kind text =>
    rcases List.mem_cons.mp h with rfl | h
    · rfl
    · split at h
      · rw [List.mem_singleton.mp h]
      · cases h
  | _ => exact List.mem_singleton.mp h ▸ rfl

/-- Whether a line is one of the inner layers: of a conversion, or about a problem. -/
def IsInner (line : LogLine) : Prop := line.OfConversion ∨ line.logger = Problem.logger

lemma logs_report (s : Surroundings) (p : Problem) : (report s p).Logs IsInner :=
  fun _ hline => Or.inr (logger_of_mem_lines hline)

lemma logs_answerConverted (s : Surroundings) (profile : String) {x : Traced Failure Search}
    (hx : x.Logs LogLine.OfConversion) : (answerConverted s profile x).Logs IsInner := by
  have hconvert : ∀ line ∈ x.log, IsInner line := fun line hline => Or.inl (hx line hline)
  unfold answerConverted
  split
  · exact hconvert
  · exact List.forall_mem_append.mpr ⟨hconvert, fun _ hline => Or.inr (logger_of_mem_lines hline)⟩
  · exact hconvert

lemma logs_answerConversion (i : Installation) (s : Surroundings) (profile : String)
    (m : Incoming) : (answerConversion i s profile m).Logs IsInner := by
  unfold answerConversion
  split
  · exact logs_report s _
  · exact logs_answerConverted s profile (Handler.logs_convertRequest _ _ _)

/-- The lines of the innermost layer are those of conversions and about problems. -/
lemma logs_answerRoute (i : Installation) (s : Surroundings) (m : Incoming) :
    (answerRoute i s m).Logs IsInner := by
  unfold answerRoute
  dsimp only
  split
  · rename_i route _
    split
    · cases route with
      | convert profile => exact logs_answerConversion i s profile m
      | _ => exact Traced.Logs.ofOutcome _
    · exact logs_report s _
  · split
    · exact Traced.Logs.ofOutcome _
    · exact logs_report s _

/-- No line of the inner layers is one of the access log. -/
lemma accessLines_of_inner {log : List LogLine} (h : ∀ line ∈ log, IsInner line) :
    accessLines log = [] := by
  have hother : ∀ name ∈ [Search.logger, Weighting.skipLogger, Problem.logger],
      name ≠ AccessLog.logger := by decide
  refine List.filter_eq_nil_iff.mpr fun line hline haccess => ?_
  refine hother line.logger ?_ (eq_of_beq haccess)
  rcases h line hline with (hsearch | hskip) | hproblem <;> simp [*]

/-! ## One message -/

/-- A line of the access log that a message comes: its identifier, its method, its address and its
client, for information. -/
structure IsArrival (c : Circumstances) (m : Incoming) (line : LogLine) : Prop where
  logger : line.logger = "api.requests"
  severity : line.severity = .info
  text : line.text = "[" ++ c.loggedId ++ "] --> " ++ m.method ++ " " ++
    withQuery m.address.path m.address.query ++ " from " ++ client m

/-- A line of the access log that a message is answered: its identifier, the status of the answer,
its method and its path.  How grave it is depends on the status alone. -/
structure IsDeparture (c : Circumstances) (m : Incoming) (status : Int) (line : LogLine) :
    Prop where
  logger : line.logger = "api.requests"
  severity : line.severity =
    if 500 ≤ status then .error else if 400 ≤ status then .warning else .info
  text : ∃ rest, line.text = "[" ++ c.loggedId ++ "] <-- " ++ toString status ++ " " ++ m.method ++
    " " ++ m.address.path ++ " (" ++ rest

/-- The lines that a message adds to the access log.  A preflight adds nothing.  Any other message
adds a line when it comes and then one when it is answered, unless it is for a quiet path: then it
adds nothing when all is well, and only the second line when something went wrong. -/
inductive Exchange (c : Circumstances) (m : Incoming) : List LogLine → Prop
  | preflight (h : (Cors.preflight? m).isSome = true) : Exchange c m []
  | told {arrival departure : LogLine} (h : Cors.preflight? m = none)
      (hpath : m.address.path ∉ quietPaths) (harrival : IsArrival c m arrival)
      (hdeparture : IsDeparture c m (serve c m).response.status departure) :
      Exchange c m [arrival, departure]
  | quiet (h : Cors.preflight? m = none) (hpath : m.address.path ∈ quietPaths)
      (hstatus : (serve c m).response.status < 400) : Exchange c m []
  | failed {departure : LogLine} (h : Cors.preflight? m = none)
      (hpath : m.address.path ∈ quietPaths) (hstatus : 400 ≤ (serve c m).response.status)
      (hdeparture : IsDeparture c m (serve c m).response.status departure) :
      Exchange c m [departure]

lemma isArrival_arrivalLine (c : Circumstances) (m : Incoming) :
    IsArrival c m (arrivalLine c.loggedId m) where
  logger := rfl
  severity := rfl
  text := by
    have hmark : "] --> " = "] " ++ "--> " := by decide
    simp only [arrivalLine, tag, hmark, String.append_assoc]

lemma isDeparture_of_severityOf {status : Int} {severity : Severity} {quiet : Bool}
    (h : severityOf status quiet = some severity) (fault : String) :
    IsDeparture c m status
      ⟨AccessLog.logger, severity, departureText c.loggedId c.duration m status fault⟩ where
  logger := rfl
  severity := by
    unfold severityOf at h
    split_ifs at h ⊢ <;> exact (Option.some.inj h).symm
  text := by
    have hmark : "] <-- " = "] " ++ "<-- " := by decide
    simp only [departureText, tag, hmark, String.append_assoc]
    exact ⟨_, rfl⟩

lemma mem_quietPaths_iff : m.address.path ∈ quietPaths ↔ isQuiet m = true := by
  rw [isQuiet, List.contains_iff_mem]

/-- What a message adds to the access log when these are its lines, whatever its status. -/
lemma exchange_of_lines (hm : Cors.preflight? m = none) {status : Int}
    (hstatus : (serve c m).response.status = status) (fault : String) :
    Exchange c m (arrival c.loggedId m ++ departure c.loggedId c.duration m status fault) := by
  subst hstatus
  -- a severity is missing only when the path is quiet and the status is below 400
  cases hseverity : severityOf (serve c m).response.status (isQuiet m) with
  | none =>
    have hquiet : isQuiet m = true ∧ (serve c m).response.status < 400 := by
      unfold severityOf at hseverity
      split_ifs at hseverity with herror hwarning hpath
      exact ⟨hpath, not_le.mp hwarning⟩
    rw [arrival, if_pos hquiet.1, departure, hseverity]
    exact .quiet hm (mem_quietPaths_iff.mpr hquiet.1) hquiet.2
  | some severity =>
    have hdeparture := isDeparture_of_severityOf (c := c) (m := m) hseverity fault
    rw [departure, hseverity]
    by_cases hpath : isQuiet m = true
    · have hfailed : 400 ≤ (serve c m).response.status := by
        unfold severityOf at hseverity
        split_ifs at hseverity with herror hwarning
        · omega
        · exact hwarning
      rw [arrival, if_pos hpath]
      exact .failed hm (mem_quietPaths_iff.mpr hpath) hfailed hdeparture
    · rw [arrival, if_neg hpath]
      exact .told hm (mem_quietPaths_iff.not.mpr hpath) (isArrival_arrivalLine c m) hdeparture

lemma accessLines_arrival (id : String) (m : Incoming) :
    accessLines (arrival id m) = arrival id m := by
  unfold arrival
  split <;> rfl

lemma accessLines_departure (id duration : String) (m : Incoming) (status : Int) (fault : String) :
    accessLines (departure id duration m status fault) = departure id duration m status fault := by
  unfold departure
  split <;> rfl

/-- **What a message adds to the access log**, whether it is answered or breaks down. -/
lemma exchange_serve (hlogs : c.logsRequests = true) (m : Incoming) :
    Exchange c m (accessLines (serve c m).log) := by
  cases hm : Cors.preflight? m with
  | some f =>
    rw [serve_of_preflight hm]
    exact .preflight (Option.isSome_of_eq_some hm)
  | none =>
    have hinner := accessLines_of_inner (logs_answerRoute c.installation c.surroundings m)
    cases ho : (answerRoute c.installation c.surroundings m).outcome with
    | ok o =>
      have hserve := serve_logged_of_ok hlogs hm ho
      have hstatus : (serve c m).response.status = o.status := by rw [hserve]; rfl
      have hlines := exchange_of_lines hm hstatus ""
      rw [hserve]
      dsimp only
      rw [accessLines_append, accessLines_append, accessLines_arrival, accessLines_departure,
        hinner, List.append_nil]
      exact hlines
    | error b =>
      have hserve := serve_logged_of_error hlogs hm ho
      have hstatus : (serve c m).response.status = 500 := by rw [hserve]; rfl
      have houter : accessLines ((breakdownProblem b).lines c.surroundings) = [] :=
        accessLines_of_inner fun _ h => Or.inr (logger_of_mem_lines h)
      have hlines := exchange_of_lines hm hstatus b.message
      rw [hserve]
      dsimp only
      rw [accessLines_append, accessLines_append, accessLines_append, accessLines_arrival,
        accessLines_departure, hinner, houter, List.append_nil, List.append_nil]
      exact hlines

/-! ## Runs of messages -/

/-- The log of messages that are served one after another, each in its own circumstances. -/
def runLog (run : List (Circumstances × Incoming)) : List LogLine :=
  run.flatMap fun x => (serve x.1 x.2).log

/-- The lines that a run adds to the access log: those of its messages, one after another. -/
inductive Paired : List (Circumstances × Incoming) → List LogLine → Prop
  | nil : Paired [] []
  | cons {c : Circumstances} {m : Incoming} {run : List (Circumstances × Incoming)}
      {lines rest : List LogLine} (hlines : Exchange c m lines) (hrest : Paired run rest) :
      Paired ((c, m) :: run) (lines ++ rest)

lemma paired_runLog_of_logs {run : List (Circumstances × Incoming)}
    (hlogs : ∀ x ∈ run, x.1.logsRequests = true) : Paired run (accessLines (runLog run)) := by
  induction run with
  | nil => exact .nil
  | cons x run ih =>
    obtain ⟨hx, hrun⟩ := List.forall_mem_cons.mp hlogs
    rw [runLog, List.flatMap_cons, accessLines_append]
    exact .cons (exchange_serve hx x.2) (ih hrun)

/-- What goes on as a breakdown is answered outside of all layers. -/
lemma response_of_raised {b : Breakdown} (h : (serve c m).raised = some b) :
    (serve c m).response = answerBreakdown c b := by
  unfold serve at h ⊢
  split
  · rename_i f hf
    rw [hf] at h
    cases h
  · rename_i hf
    rw [hf] at h
    dsimp only at h ⊢
    split
    · rename_i o ho
      rw [ho] at h
      cases h
    · rename_i b' hb
      rw [hb] at h
      rw [Option.some.inj h]

/-- A breakdown is answered with status 500. -/
lemma status_of_raised (h : (serve c m).raised.isSome = true) :
    (serve c m).response.status = 500 := by
  obtain ⟨b, hb⟩ := Option.isSome_iff_exists.mp h
  rw [response_of_raised hb]
  rfl

/-- **Lines of the access log pair up over any run.**  Let messages be served one after another, and
let all be logged.  Then the lines of the access log are those of the messages in their order: none
for a preflight; for another message a line when it comes and one when it is answered, unless its
path is quiet; and for one whose path is quiet no line when it comes, and one when it is answered
only if the status is 400 or more.  The line of an answer has the status that the client receives,
which is 500 after a breakdown. -/
theorem paired_runLog {run : List (Circumstances × Incoming)}
    (hlogs : ∀ x ∈ run, x.1.logsRequests = true) :
    Paired run (accessLines (runLog run)) ∧
      ∀ x ∈ run, (serve x.1 x.2).raised.isSome = true → (serve x.1 x.2).response.status = 500 :=
  ⟨paired_runLog_of_logs hlogs, fun _ _ h => status_of_raised h⟩

/-- A message without a body. -/
def bareMessage (method path : String) (headers : List Header) : Incoming :=
  ⟨method, path, "", headers, [], none, .of "http://localhost" path ""⟩

/-- A preflight, a message for a place that there is not, one that breaks down, one for a quiet path
and one for a quiet path with a method that the place has not. -/
def mixedRun : List (Circumstances × Incoming) :=
  [bareMessage "OPTIONS" "/"
      [("origin", "http://localhost:3000"), ("access-control-request-method", "POST")],
    bareMessage "GET" "/nope" [], farMessage, bareMessage "GET" "/health" [],
    bareMessage "POST" "/health" []].map fun m => (plainCircumstances, m)

/-- The five messages add none, two, two, none and one line, and the one that breaks down is
answered with status 500. -/
theorem paired_runLog_mixedRun :
    Paired mixedRun (accessLines (runLog mixedRun)) ∧ (accessLines (runLog mixedRun)).length = 5 ∧
      (serve plainCircumstances farMessage).raised.isSome = true ∧
      (serve plainCircumstances farMessage).response.status = 500 := by
  have hraised : (serve plainCircumstances farMessage).raised.isSome = true := by decide +kernel
  have hlogs : ∀ x ∈ mixedRun, x.1.logsRequests = true := List.forall_mem_map.mpr fun _ _ => rfl
  have hmem : (plainCircumstances, farMessage) ∈ mixedRun := by
    refine List.mem_map.mpr ⟨farMessage, ?_, rfl⟩
    exact List.mem_cons_of_mem _ (List.mem_cons_of_mem _ List.mem_cons_self)
  obtain ⟨hpaired, hstatus⟩ := paired_runLog hlogs
  have hfar := hstatus (plainCircumstances, farMessage) hmem
  dsimp only at hfar
  exact ⟨hpaired, by decide +kernel, hraised, hfar hraised⟩

end RouteIntake.Service
