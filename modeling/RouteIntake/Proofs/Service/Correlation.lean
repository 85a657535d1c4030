import RouteIntake.Proofs.Service.Conversion
import RouteIntake.Proofs.Service.ErrorBody

/-!
# One identifier for everything about a message

When messages are logged, each gets an identifier.  It stands in a header of the answer, in the body
of an error and at the start of every line about the message, so that whoever has one of these finds
the others.  The answer is made in the innermost layer, the header is added by the access log, and
breakdowns are answered outside of all layers; the statement is about what comes out in the end:

* `serve_correlated`: bodies of errors and lines have the identifier of the message, but for the
  line with the trace of a breakdown; the answer has the header unless something broke down.
-/

namespace RouteIntake

open Schema Service

/-! ## Lines of a conversion -/

/-- Whether all lines of a computation are as said. -/
def Traced.Logs {ε α : Type} (P : LogLine → Prop) (x : Traced ε α) : Prop := ∀ line ∈ x.log, P line

namespace Traced.Logs

variable {ε α β : Type} {P : LogLine → Prop}

lemma ofOutcome (x : Except ε α) : (Traced.ofOutcome x).Logs P := List.forall_mem_nil P

lemma say {line : LogLine} (h : P line) : (Traced.say line : Traced ε Unit).Logs P :=
  List.forall_mem_singleton.mpr h

lemma bind {x : Traced ε α} {f : α → Traced ε β} (hx : x.Logs P) (hf : ∀ a, (f a).Logs P) :
    (x >>= f).Logs P := by
  show (x.andThen f).Logs P
  unfold Traced.andThen
  split
  · exact List.forall_mem_append.mpr ⟨hx, hf _⟩
  · exact hx

end Traced.Logs

/-- Whether a line is one of a conversion. -/
def LogLine.OfConversion (line : LogLine) : Prop :=
  line.logger = Search.logger ∨ line.logger = Weighting.skipLogger

lemma logs_leaveOut (room : Room) (m : Measure) (d : Document) (flaw : Weighting.Flaw) :
    (Weighting.leaveOut room m d flaw).Logs LogLine.OfConversion := by
  unfold Weighting.leaveOut
  split
  · exact .ofOutcome _
  · exact .bind (.say (Or.inr rfl)) fun _ => .ofOutcome _

lemma logs_applyOne (room : Room) (m : Measure) (d : Document) :
    (Weighting.applyOne room m d).Logs LogLine.OfConversion := by
  unfold Weighting.applyOne
  split
  · exact .ofOutcome _
  · split
    · exact .ofOutcome _
    · exact .ofOutcome _
    · exact logs_leaveOut room m d _

lemma logs_applyEach (room : Room) (ws : Weightings) (ms : List Measure) :
    (Weighting.applyEach room ws ms).Logs LogLine.OfConversion := by
  induction ms with
  | nil => exact .ofOutcome _
  | cons m ms ih =>
    exact .bind (logs_applyOne room m (ws m)) fun _ => .bind ih fun _ => .ofOutcome _

lemma logs_convertParameters (handler : Handler) (room : Room) (o : Options) (profile : Int) :
    (convertParameters handler room o profile).Logs LogLine.OfConversion := by
  refine .bind (.ofOutcome _) fun p => .bind ?_ fun q => .ofOutcome _
  unfold applyWeightings
  split
  · exact .bind (logs_applyEach room _ _) fun _ => .ofOutcome _
  · exact .ofOutcome _

lemma Request.logs_convert (handler : Handler) (room : Room) (r : Request) :
    (r.convert handler room).Logs LogLine.OfConversion :=
  .bind (.ofOutcome _) fun _ => .bind (logs_convertParameters _ _ _ _) fun _ =>
    .bind (.say (Or.inl rfl)) fun _ => .ofOutcome _

/-- A conversion has loggers of its own. -/
lemma Handler.logs_convertRequest (handler : Handler) (room : Room) (r : Request) :
    (handler.convertRequest room r).Logs LogLine.OfConversion := by
  unfold Handler.convertRequest
  split
  · exact .ofOutcome _
  · exact r.logs_convert handler room

namespace Service

/-! ## Lines about a message -/

/-- Whether a line, if it is one about messages or about problems, starts with an identifier. -/
def IsTagged (id : String) (line : LogLine) : Prop :=
  line.logger = AccessLog.logger ∨ line.logger = Problem.logger →
    ∃ rest, line.text = AccessLog.tag id ++ rest

/-- The line with the trace of a breakdown. -/
def traceLine (s : Surroundings) : LogLine := ⟨Problem.logger, .error, s.trace⟩

/-- Whether a problem is one that the service expects. -/
def Problem.IsExpected : Problem → Prop
  | .unexpected .. => False
  | _ => True

variable {s : Surroundings} {id : String}

/-- The lines of a conversion are not about messages. -/
lemma isTagged_of_conversion {line : LogLine} (h : line.OfConversion) : IsTagged id line := by
  have hloggers : ∀ name ∈ [Search.logger, Weighting.skipLogger],
      name ≠ AccessLog.logger ∧ name ≠ Problem.logger := by decide
  have hline : line.logger ∈ [Search.logger, Weighting.skipLogger] := by
    simpa [LogLine.OfConversion] using h
  intro habout
  obtain ⟨haccess, hproblem⟩ := hloggers _ hline
  exact absurd habout (not_or.mpr ⟨haccess, hproblem⟩)

lemma isTagged_line (hid : s.requestId = .text id) (severity : Severity) (text : String) :
    IsTagged id (Problem.line s severity text) := by
  intro _
  refine ⟨text, ?_⟩
  rw [Problem.line, hid, Document.mention_text, AccessLog.tag]

/-- The lines about a problem start with the identifier of the request, but for the trace. -/
lemma isTagged_of_mem_lines (hid : s.requestId = .text id) {p : Problem} {line : LogLine}
    (h : line ∈ p.lines s) :
    IsTagged id line ∨ ¬p.IsExpected ∧ s.settings.debug.isTruthy = true ∧ line = traceLine s := by
  cases p with
  | api e => exact Or.inl (List.mem_singleton.mp h ▸ isTagged_line hid _ _)
  | parameter e => exact Or.inl (List.mem_singleton.mp h ▸ isTagged_line hid _ _)
  | http status detail => exact Or.inl (List.mem_singleton.mp h ▸ isTagged_line hid _ _)
  | invalid errors => exact Or.inl (List.mem_singleton.mp h ▸ isTagged_line hid _ _)
  | unexpected kind text =>
    rcases List.mem_cons.mp h with rfl | h
    · exact Or.inl (isTagged_line hid _ _)
    · right
      split at h
      · exact ⟨not_false, ‹_›, List.mem_singleton.mp h⟩
      · cases h

lemma logs_arrival (id : String) (m : Incoming) :
    ∀ line ∈ AccessLog.arrival id m, IsTagged id line := by
  unfold AccessLog.arrival
  split
  · exact List.forall_mem_nil _
  · refine List.forall_mem_singleton.mpr fun _ => ?_
    simp only [AccessLog.arrivalLine, String.append_assoc]
    exact ⟨_, rfl⟩

lemma logs_departure (id duration : String) (m : Incoming) (status : Int) (fault : String) :
    ∀ line ∈ AccessLog.departure id duration m status fault, IsTagged id line := by
  unfold AccessLog.departure
  split
  · refine List.forall_mem_singleton.mpr fun _ => ?_
    simp only [AccessLog.departureText, String.append_assoc]
    exact ⟨_, rfl⟩
  · exact List.forall_mem_nil _

/-! ## Bodies -/

/-- Whether an answer names the request wherever it has to: an error in its body has the identifier,
and an answer that tells of a failure has an error in its body. -/
structure Outgoing.Names (id : String) (o : Outgoing) : Prop where
  /-- An error in the body names the request. -/
  error : ∀ d, o.payload = .document d → (error? d).isSome = true →
    errorField? d "request_id" = some (.text id)
  /-- A failure has an error in the body. -/
  failure : 400 ≤ o.status → ∃ d, o.payload = .document d ∧ (error? d).isSome = true

/-- More headers change nothing in the body. -/
lemma Outgoing.Names.withHeaders {o : Outgoing} (h : o.Names id) (hs : List Header) :
    (o.withHeaders hs).Names id := ⟨h.error, h.failure⟩

/-- The body of an error names the request. -/
lemma names_errorBody (hid : id ≠ "") (status : Int) {shown : Bool}
    {code message details : Document} :
    (Outgoing.ofDocument status (errorBody shown code message (.text id) details)).Names id := by
  have htruthy : (Document.text id).isTruthy = true := by
    simpa [Document.isTruthy] using hid
  refine ⟨fun d hd _ => ?_, fun _ => ⟨_, rfl, isSome_error?_errorBody⟩⟩
  obtain rfl := Payload.document.inj hd
  exact errorField?_requestId htruthy

/-- A document without an error does not have to name the request. -/
lemma names_of_error?_eq_none {status : Int} (hstatus : status < 400) {d : Document}
    (h : error? d = none) : (Outgoing.ofDocument status d).Names id := by
  refine ⟨fun d' hd herror => ?_, fun hle => absurd hle (not_le.mpr hstatus)⟩
  obtain rfl := Payload.document.inj hd
  rw [h] at herror
  cases herror

lemma error?_eq_none {d : Document} (h : "error" ∉ d.names) : error? d = none := by
  cases d with
  | object ms =>
    refine List.lookup_eq_none_iff.mpr fun m hm => ?_
    have hne : "error" ≠ m.1 := fun he => h (he ▸ List.mem_map_of_mem hm)
    simpa using hne
  | _ => rfl

lemma names_publicOnly (d : Document) : d.publicOnly.names ⊆ d.names := by
  cases d with
  | object ms =>
    show (Document.publicMembers ms).map Prod.fst ⊆ ms.map Prod.fst
    induction ms with
    | nil => exact List.nil_subset _
    | cons m ms ih =>
      rw [Document.publicMembers]
      split
      · exact List.subset_cons_of_subset _ ih
      · exact List.cons_subset_cons _ ih
  | _ => exact List.nil_subset _

lemma names_finiteOnly (d : Document) : d.finiteOnly.names = d.names := by
  cases d with
  | object ms =>
    show (Document.finiteMembers ms).map Prod.fst = ms.map Prod.fst
    induction ms with
    | nil => rfl
    | cons m ms ih => rw [Document.finiteMembers, List.map_cons, List.map_cons, ih]
  | number x =>
    rw [Document.finiteOnly]
    split <;> rfl
  | _ => rfl

/-- An answer with a fixed form is told as it is. -/
lemma eq_of_serialized {d d' : Document} (h : serialized d = .ok d') : d' = d := by
  unfold serialized at h
  dsimp only at h
  split at h
  · cases h
  · exact (Except.ok.inj h).symm

/-- The health of the service is told with the names of its fields. -/
lemma names_checkedHealthAnswer {settings : Settings} {d : Document}
    (h : checkedHealthAnswer settings = .ok d) :
    d.names = ["status", "service", "environment"] := by
  unfold checkedHealthAnswer at h
  split at h
  · rename_i checked hchecked
    obtain ⟨ms, vs, -, rfl, hfields⟩ := Shape.Yields.record_object hchecked
    rw [eq_of_serialized h]
    exact Shape.Yields.names_checkFields hfields
  · cases h

/-! ## Answers of the innermost layer -/

/-- What the innermost layer comes to: its lines start with the identifier, its answer names the
request, and the header is left to the access log. -/
structure Correlated (id : String) (x : Traced Breakdown Outgoing) : Prop where
  /-- The lines start with the identifier. -/
  lines : x.Logs (IsTagged id)
  /-- The answer names the request. -/
  names : ∀ o, x.outcome = .ok o → o.Names id
  /-- The answer has no header with an identifier. -/
  bare : ∀ o, x.outcome = .ok o → header? o.headers "x-request-id" = none

lemma correlated_written {d : Document} (h : "error" ∉ d.names) :
    Correlated id (.ofOutcome (Outgoing.written 200 d)) := by
  refine ⟨.ofOutcome _, fun o ho => ?_, fun o ho => ?_⟩
  · obtain ⟨-, rfl⟩ := Outgoing.written_eq_ok.mp ho
    exact names_of_error?_eq_none (by decide) (error?_eq_none h)
  · obtain ⟨-, rfl⟩ := Outgoing.written_eq_ok.mp ho
    rfl

lemma correlated_bind {x : Except Breakdown Document} {f : Document → Except Breakdown Outgoing}
    (h : ∀ d, x = .ok d → Correlated id (.ofOutcome (f d))) :
    Correlated id (.ofOutcome (x >>= f)) := by
  cases x with
  | error b => exact ⟨.ofOutcome _, by rintro o ⟨⟩, by rintro o ⟨⟩⟩
  | ok d => exact h d rfl

/-- A problem that is answered is answered with the body of an error. -/
lemma correlated_answerProblem (hs : s.requestId = .text id) (hid : id ≠ "") {p : Problem}
    {log : List LogLine} (hlog : ∀ line ∈ log, IsTagged id line) (hp : p.IsExpected) :
    Correlated id ⟨log ++ p.lines s, answerProblem s p⟩ := by
  refine ⟨List.forall_mem_append.mpr ⟨hlog, fun line hline => ?_⟩, fun o ho => ?_, fun o ho => ?_⟩
  · exact (isTagged_of_mem_lines hs hline).resolve_right fun h => h.1 hp
  · obtain ⟨b, hb, -, rfl⟩ := answerProblem_eq_ok_iff.mp ho
    obtain ⟨shown, rfl⟩ := Problem.eq_errorBody_of_body hb
    rw [hs]
    exact names_errorBody hid _
  · obtain ⟨b, -, -, rfl⟩ := answerProblem_eq_ok_iff.mp ho
    rfl

lemma correlated_report (hs : s.requestId = .text id) (hid : id ≠ "") {p : Problem}
    (hp : p.IsExpected) : Correlated id (report s p) :=
  correlated_answerProblem hs hid (List.forall_mem_nil _) hp

lemma correlated_answerConverted (hs : s.requestId = .text id) (hid : id ≠ "") (profile : String)
    (handler : Handler) (room : Room) (r : Request) :
    Correlated id (answerConverted s profile (handler.convertRequest room r)) := by
  have hlog : ∀ line ∈ (handler.convertRequest room r).log, IsTagged id line := fun line hline =>
    isTagged_of_conversion (handler.logs_convertRequest room r line hline)
  unfold answerConverted
  split
  · rename_i search _
    refine ⟨hlog, fun o ho => ?_, fun o ho => ?_⟩
    · obtain rfl := Except.ok.inj ho
      refine names_of_error?_eq_none (by decide) (error?_eq_none ?_)
      rw [names_finiteOnly]
      exact (by decide : "error" ∉ ["profile", "profile_type", "vehicle_type", "avoid_features",
        "avoid_borders", "avoid_polygons", "profile_params"])
    · obtain rfl := Except.ok.inj ho
      rfl
  · exact correlated_answerProblem hs hid hlog trivial
  · exact ⟨hlog, by rintro o ⟨⟩, by rintro o ⟨⟩⟩

lemma isExpected_of_checkConversion {profile : String} {reading : BodyReading} {p : Problem}
    (h : checkConversion profile reading = .error p) : p.IsExpected := by
  rcases problem_of_checkConversion h with rfl | ⟨errors, rfl, -⟩
  · trivial
  · trivial

/-- An answer that is a text names the request if it tells of no failure. -/
lemma correlated_text {o : Outgoing} {text : String} (hpayload : o.payload = .text text)
    (hstatus : o.status < 400) (hheader : header? o.headers "x-request-id" = none) :
    Correlated id (.ofOutcome (.ok o)) := by
  refine ⟨.ofOutcome _, fun o' ho => ?_, fun o' ho => ?_⟩
  · obtain rfl := Except.ok.inj ho
    refine ⟨fun d hd => ?_, fun hle => absurd hle (not_le.mpr hstatus)⟩
    rw [hpayload] at hd
    cases hd
  · obtain rfl := Except.ok.inj ho
    exact hheader

/-- No page is sent with an identifier. -/
lemma correlated_page (page : Page) (content : String) :
    Correlated id (.ofOutcome (.ok (page.answer content))) :=
  correlated_text rfl (by decide : (200 : Int) < 400) (by cases page <;> rfl)

lemma correlated_answerAt (hs : s.requestId = .text id) (hid : id ≠ "") (i : Installation)
    (m : Incoming) (route : Route) : Correlated id (answerAt i s m route) := by
  cases route with
  | root =>
    refine correlated_bind fun d hd => correlated_written fun herror => ?_
    obtain ⟨production, -, rfl⟩ := map_eq_ok.mp hd
    have hmem := names_publicOnly _ herror
    cases production with
    | true => exact absurd hmem (by decide : "error" ∉ ["name", "version", "health"])
    | false =>
      exact absurd hmem (by decide : "error" ∉ ["name", "version", "health", "docs", "redoc"])
  | health =>
    refine correlated_written fun herror => ?_
    exact absurd (names_publicOnly _ herror)
      (by decide : "error" ∉ ["status", "service", "environment"])
  | checkedHealth =>
    refine correlated_bind fun d hd => correlated_written ?_
    rw [names_checkedHealthAnswer hd]
    decide
  | page page => exact correlated_page page _
  | convert profile =>
    unfold answerAt answerConversion
    dsimp only
    split
    · exact correlated_report hs hid (isExpected_of_checkConversion ‹_›)
    · exact correlated_answerConverted hs hid profile _ _ _

lemma correlated_answerRoute (hs : s.requestId = .text id) (hid : id ≠ "") (i : Installation)
    (m : Incoming) : Correlated id (answerRoute i s m) := by
  unfold answerRoute
  dsimp only
  split
  · split
    · exact correlated_answerAt hs hid i m _
    · exact correlated_report hs hid trivial
  · split
    · exact correlated_text rfl (by decide : (307 : Int) < 400) rfl
    · exact correlated_report hs hid trivial

/-! ## What comes of a message -/

variable {c : Circumstances} {m : Incoming}

lemma requestId_surroundings (hlogs : c.logsRequests = true) :
    c.surroundings.requestId = .text c.loggedId := by
  show Document.text c.requestId = _
  rw [Circumstances.requestId, if_pos hlogs]

/-- Behind the access log the answer has the header, and there are more lines with the
identifier. -/
lemma logged_correlated (hlogs : c.logsRequests = true) (hid : c.loggedId ≠ "") (m : Incoming) :
    (logged c m).Logs (IsTagged c.loggedId) ∧
      ∀ o, (logged c m).outcome = .ok o →
        o.Names c.loggedId ∧ header? o.headers "x-request-id" = some c.loggedId := by
  have hroute := correlated_answerRoute (requestId_surroundings hlogs) hid c.installation m
  have hbefore : ∀ line ∈
      AccessLog.arrival c.loggedId m ++ (answerRoute c.installation c.surroundings m).log,
      IsTagged c.loggedId line :=
    List.forall_mem_append.mpr ⟨logs_arrival _ m, hroute.lines⟩
  unfold logged
  dsimp only
  rw [if_pos hlogs]
  split
  · rename_i response hresponse
    refine ⟨List.forall_mem_append.mpr ⟨hbefore, logs_departure _ _ m _ _⟩, fun o ho => ?_⟩
    obtain rfl := Except.ok.inj ho
    refine ⟨(hroute.names _ hresponse).withHeaders _, ?_⟩
    have hbare := hroute.bare _ hresponse
    rw [header?] at hbare ⊢
    rw [Outgoing.withHeaders, List.lookup_append, hbare]
    rfl
  · exact ⟨List.forall_mem_append.mpr ⟨hbefore, logs_departure _ _ m _ _⟩, by rintro o ⟨⟩⟩

/-- **Everything about a message has its identifier**, unless something breaks down.  Let messages
be logged, under an identifier that is not empty, and let a message be no preflight.  Unless
something breaks down, the answer has a header with the identifier; after a breakdown the answer,
with status 500, has none.  In any case an error in the body has the identifier, an answer with a
status of 400 or more has an error in its body, and all lines about messages and problems start with
the identifier, except that for debugging a breakdown adds a line with its trace alone. -/
theorem serve_correlated (hlogs : c.logsRequests = true) (hid : c.loggedId ≠ "")
    (hm : Cors.preflight? m = none) :
    ((serve c m).raised = none →
      header? (serve c m).response.headers "x-request-id" = some c.loggedId) ∧
    ((serve c m).raised.isSome = true → (serve c m).response.status = 500 ∧
      header? (serve c m).response.headers "x-request-id" = none) ∧
    (∀ d, (serve c m).response.payload = .document d → (error? d).isSome = true →
      errorField? d "request_id" = some (.text c.loggedId)) ∧
    (400 ≤ (serve c m).response.status →
      ∃ d, (serve c m).response.payload = .document d ∧ (error? d).isSome = true) ∧
    ∀ line ∈ (serve c m).log,
      line.logger = AccessLog.logger ∨ line.logger = Problem.logger →
        (∃ rest, line.text = "[" ++ c.loggedId ++ "] " ++ rest) ∨
          (serve c m).raised.isSome = true ∧ c.settings.debug.isTruthy = true ∧
            line = ⟨Problem.logger, .error, c.trace⟩ := by
  obtain ⟨hlines, hanswer⟩ := logged_correlated hlogs hid m
  cases hlogged : (logged c m).outcome with
  | ok o =>
    obtain ⟨hnames, hheader⟩ := hanswer o hlogged
    have hserve : serve c m =
        ⟨o.withHeaders (Cors.answerHeaders c.policy m), (logged c m).log, none⟩ := by
      simp only [serve, hm, hlogged]
    have hwith := hnames.withHeaders (Cors.answerHeaders c.policy m)
    rw [hserve]
    refine ⟨fun _ => ?_, by rintro ⟨⟩, hwith.error, hwith.failure, fun line hline habout =>
      Or.inl (hlines line hline habout)⟩
    rw [header?] at hheader ⊢
    rw [Outgoing.withHeaders, List.lookup_append, hheader]
    rfl
  | error b =>
    -- a breakdown is answered outside of the access log, so nothing adds the header
    have hserve : serve c m = ⟨answerBreakdown c b,
        (logged c m).log ++ (breakdownProblem b).lines c.surroundings, some b⟩ := by
      simp only [serve, hm, hlogged]
    have hnames : (answerBreakdown c b).Names c.loggedId := by
      rw [answerBreakdown, Circumstances.requestId, if_pos hlogs]
      exact names_errorBody hid _
    rw [hserve]
    refine ⟨by rintro ⟨⟩, fun _ => ⟨rfl, rfl⟩, hnames.error, hnames.failure,
      fun line hline habout => ?_⟩
    rcases List.mem_append.mp hline with hline | hline
    · exact Or.inl (hlines line hline habout)
    · rcases isTagged_of_mem_lines (requestId_surroundings hlogs) hline with
        htagged | ⟨-, hdebug, he⟩
      · exact Or.inl (htagged habout)
      · exact Or.inr ⟨rfl, hdebug, he⟩

/-- A message to a place that there is not. -/
def lostMessage : Incoming :=
  { farMessage with path := "/nope", address := .of "http://localhost" "/nope" "" }

/-- A message to a place that there is not is answered with the header; one that breaks down is
answered without it, but under the same identifier. -/
theorem serve_correlated_farMessage :
    (serve plainCircumstances lostMessage).raised = none ∧
      header? (serve plainCircumstances lostMessage).response.headers "x-request-id" =
        some "1" ∧
      (serve plainCircumstances farMessage).raised.isSome = true ∧
      header? (serve plainCircumstances farMessage).response.headers "x-request-id" = none ∧
      ∃ d, (serve plainCircumstances farMessage).response.payload = .document d ∧
        errorField? d "request_id" = some (.text "1") := by
  have hlost : (serve plainCircumstances lostMessage).raised = none := by
    decide +kernel
  have hraised : (serve plainCircumstances farMessage).raised.isSome = true := by decide +kernel
  obtain ⟨hheader, -⟩ := serve_correlated (c := plainCircumstances)
    (m := lostMessage) rfl (by decide) rfl
  obtain ⟨-, hbroken, hbody, hfailure, -⟩ := serve_correlated (c := plainCircumstances)
    (m := farMessage) rfl (by decide) rfl
  obtain ⟨hstatus, hnone⟩ := hbroken hraised
  obtain ⟨d, hd, herror⟩ := hfailure (by rw [hstatus]; decide)
  exact ⟨hlost, hheader hlost, hraised, hnone, d, hd, hbody d hd herror⟩

end Service

end RouteIntake
