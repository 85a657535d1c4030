import RouteIntake.Proofs.Service.Rejection
import RouteIntake.Service.App

/-!
# Which conversion requests are answered

A message to the place of a profile is answered with 200 and the search, with 400 and a rejection or
an unreadable body, or with 422 and the errors of the body.  Whatever its body, it goes through one
of these ways, unless the conversion is cut short or the rejection repeats half of a character.  The
main statement is that nothing else goes wrong:

* `serve_conversion`: a message is answered with 200, 400 or 422 exactly when its request is neither
  cut short nor rejected for a word with half of a character; otherwise it is answered with 500.

A conversion is cut short in its areas, for a place that there is no room for or an integer that is
too large, where that is the first thing wrong with them; or, where nothing is rejected, for an
incline with more digits than a text may have.
-/

namespace RouteIntake.Service

open Schema Text

/-- Circumstances as the service is run in: the name of the environment is a text, and the
identifiers of messages have no halves of characters. -/
structure Circumstances.Regular (c : Circumstances) : Prop where
  /-- The environment is a text. -/
  environment : ∃ env, c.settings.appEnv = .text env
  /-- The identifier in the access log is sound. -/
  loggedId : isSound c.loggedId = true
  /-- The identifier without an access log is sound. -/
  freshId : isSound c.freshId = true

lemma Circumstances.Regular.surroundings {c : Circumstances} (h : c.Regular) :
    c.surroundings.Regular := by
  refine ⟨h.environment, c.requestId, rfl, ?_⟩
  unfold Circumstances.requestId
  split
  · exact h.loggedId
  · exact h.freshId

/-- The request that a message makes for a profile. -/
def requestFor (profile : String) (body : Document) : Request :=
  Request.ofDocument (withProfile (.text profile) body)

/-- Whether the conversion of a request gives no answer: it is cut short, or it is rejected for a
word with half of a character. -/
def LeftUnanswered (room : Room) (r : Request) : Prop :=
  (∃ b, r.CutShort requestHandler room b) ∨
    ∃ code name word, (r.convert requestHandler room).outcome =
        .error (.rejected code (.unknownValue name word)) ∧
      isSound word = false

/-- Whether a message for a profile is not answered: its body is accepted, and the conversion of the
request gives no answer. -/
def Unanswered (room : Room) (profile : String) (m : Incoming) : Prop :=
  profile ∈ Profile.requestable ∧
    ∃ d body, readBody room m = .document d ∧ bodyShape.check d = .ok body ∧
      LeftUnanswered room (requestFor profile body)

/-! ## Answers of the innermost layer -/

/-- The handler of the service converts whole requests. -/
lemma convertRequest_requestHandler (room : Room) (r : Request) :
    requestHandler.convertRequest room r = r.convert requestHandler room := rfl

/-- A valid request is answered unless its conversion gives no answer. -/
lemma outcome_answerConverted {s : Surroundings} (hs : s.Regular) (room : Room) (profile : String)
    {r : Request} (hr : r.Valid) :
    (LeftUnanswered room r ∧
        ∃ b, (answerConverted s profile (r.convert requestHandler room)).outcome = .error b) ∨
      (¬LeftUnanswered room r ∧
        ∃ o, (answerConverted s profile (r.convert requestHandler room)).outcome = .ok o ∧
          (o.status = 200 ∨ o.status = 400)) := by
  have hcut : ∀ b, (r.convert requestHandler room).outcome = .error (.brokenDown b) ↔
      r.CutShort requestHandler room b := fun b => Request.convert_eq_brokenDown_iff hr
  cases ho : (r.convert requestHandler room).outcome with
  | ok search =>
    right
    refine ⟨?_, .ofDocument 200 (search.answer profile).finiteOnly,
      by simp only [answerConverted, ho], Or.inl rfl⟩
    rintro (⟨b, hb⟩ | ⟨code, name, word, hw, -⟩)
    · rw [← hcut, ho] at hb
      cases hb
    · rw [ho] at hw
      cases hw
  | error e =>
    cases e with
    | brokenDown b =>
      left
      exact ⟨Or.inl ⟨b, (hcut b).mp ho⟩, b, by simp only [answerConverted, ho]⟩
    | rejected code reason =>
      have hanswer : (answerConverted s profile (r.convert requestHandler room)).outcome =
          answerProblem s (.parameter (.ofReason code reason)) := by
        simp only [answerConverted, ho]
      have hcode : Writable (codeOrInternal code) :=
        writable_code_of_convertRequest ((convertRequest_requestHandler room r).symm ▸ ho)
      rw [hanswer]
      -- a rejection is sent unless one of its texts has a half, which only a word can have
      by_cases hsound : ∀ t ∈ reason.texts, isSound t = true
      · right
        obtain ⟨d, hd⟩ := answerProblem_eq_ok hs (answerable_parameter hcode hsound)
        refine ⟨?_, _, hd, Or.inr rfl⟩
        rintro (⟨b, hb⟩ | ⟨code', name, word, hw, hword⟩)
        · rw [← hcut, ho] at hb
          cases hb
        · rw [ho] at hw
          obtain ⟨-, rfl⟩ := Failure.rejected.inj (Except.error.inj hw)
          have htrue := hsound word (by simp [Reason.texts])
          rw [hword] at htrue
          cases htrue
      · left
        obtain ⟨name, word, rfl, hword⟩ := (hr.texts_sound_or ho).resolve_left hsound
        exact ⟨Or.inr ⟨code, name, word, ho, hword⟩,
          answerProblem_eq_error hs (not_writable_unknownValue hword)⟩

/-- A message for a profile is answered unless it is one that is not. -/
lemma outcome_answerConversion {s : Surroundings} (hs : s.Regular) (i : Installation)
    (profile : String) (m : Incoming) :
    (Unanswered i.room profile m ∧ ∃ b, (answerConversion i s profile m).outcome = .error b) ∨
      (¬Unanswered i.room profile m ∧ ∃ o, (answerConversion i s profile m).outcome = .ok o ∧
        (o.status = 200 ∨ o.status = 400 ∨ o.status = 422)) := by
  cases hcheck : checkConversion profile (readBody i.room m) with
  | error p =>
    right
    obtain ⟨hp, hstatus⟩ := checkConversion_eq_error hcheck
    obtain ⟨d, hd⟩ := answerProblem_eq_ok hs hp
    refine ⟨?_, _, by simpa only [answerConversion, hcheck, report] using hd, Or.inr hstatus⟩
    rintro ⟨hprofile, d, body, hread, hbody, -⟩
    rw [checkConversion_eq_ok.mpr ⟨⟨d, hread, hbody⟩, hprofile⟩] at hcheck
    cases hcheck
  | ok body =>
    obtain ⟨⟨d, hread, hbody⟩, hprofile⟩ := checkConversion_eq_ok.mp hcheck
    have hunanswered : Unanswered i.room profile m ↔
        LeftUnanswered i.room (requestFor profile body) := by
      constructor
      · rintro ⟨-, e, body', hread', hbody', hleft⟩
        obtain rfl := BodyReading.document.inj (hread.symm.trans hread')
        obtain rfl := Except.ok.inj (hbody.symm.trans hbody')
        exact hleft
      · exact fun hleft => ⟨hprofile, d, body, hread, hbody, hleft⟩
    have hanswer : answerConversion i s profile m =
        answerConverted s profile ((requestFor profile body).convert requestHandler i.room) := by
      simp only [answerConversion, hcheck, requestFor, convertRequest_requestHandler]
    rw [hunanswered, hanswer]
    rcases outcome_answerConverted hs i.room profile
      (Request.valid_withProfile ⟨d, hbody⟩ hprofile) with h | ⟨hleft, o, ho, hstatus⟩
    · exact Or.inl h
    · exact Or.inr ⟨hleft, o, ho, hstatus.imp_right Or.inl⟩

/-! ## Answers of the service -/

variable {c : Circumstances} {m : Incoming}

lemma preflight?_eq_none (hm : m.method ≠ "OPTIONS") : Cors.preflight? m = none := by
  simp only [Cors.preflight?, beq_iff_eq, hm, if_false]

/-- The access log keeps the status of an answer. -/
lemma logged_of_ok {o : Outgoing}
    (ho : (answerRoute c.installation c.surroundings m).outcome = .ok o) :
    ∃ o', (logged c m).outcome = .ok o' ∧ o'.status = o.status := by
  unfold logged
  split
  · simp only [ho]
    exact ⟨_, rfl, Outgoing.status_withHeaders o _⟩
  · exact ⟨o, ho, rfl⟩

/-- The access log lets a breakdown pass. -/
lemma logged_of_error {b : Breakdown}
    (ho : (answerRoute c.installation c.surroundings m).outcome = .error b) :
    (logged c m).outcome = .error b := by
  unfold logged
  split
  · simp only [ho]
  · exact ho

/-- The layers around the innermost one pass its answer on, with its status. -/
lemma serve_of_ok (hm : m.method ≠ "OPTIONS") {o : Outgoing}
    (ho : (answerRoute c.installation c.surroundings m).outcome = .ok o) :
    (serve c m).response.status = o.status ∧ (serve c m).raised = none := by
  obtain ⟨o', ho', hstatus⟩ := logged_of_ok ho
  simp only [serve, preflight?_eq_none hm, ho']
  exact ⟨hstatus, trivial⟩

/-- A breakdown is answered with status 500 and goes on. -/
lemma serve_of_error (hm : m.method ≠ "OPTIONS") {b : Breakdown}
    (ho : (answerRoute c.installation c.surroundings m).outcome = .error b) :
    (serve c m).response.status = 500 ∧ (serve c m).raised = some b := by
  simp only [serve, preflight?_eq_none hm, logged_of_error ho]
  exact ⟨rfl, trivial⟩

lemma answerRoute_conversion {i : Installation} {s : Surroundings} {profile : String}
    (hm : m.method = "POST") (hr : Route.ofPath? m.path.toList = some (.convert profile)) :
    answerRoute i s m = answerConversion i s profile m := by
  have hroute : i.route? m.path.toList = some (.convert profile) := by
    simp [Installation.route?, hr, Installation.has]
  simp only [answerRoute, hroute, hm, Route.methods, List.contains_cons, beq_self_eq_true,
    Bool.true_or, if_true, answerAt]

/-- A message to the place of a profile is answered as it should be, or breaks down. -/
lemma serve_conversion_or {profile : String} (hc : c.Regular) (hm : m.method = "POST")
    (hr : Route.ofPath? m.path.toList = some (.convert profile)) :
    (Unanswered c.installation.room profile m ∧ (serve c m).response.status = 500 ∧
        ∃ b, (serve c m).raised = some b) ∨
      (¬Unanswered c.installation.room profile m ∧ (serve c m).response.status ∈ [200, 400, 422] ∧
        (serve c m).raised = none) := by
  have hpost : m.method ≠ "OPTIONS" := by
    rw [hm]
    decide
  have hroute : answerRoute c.installation c.surroundings m =
      answerConversion c.installation c.surroundings profile m := answerRoute_conversion hm hr
  rcases outcome_answerConversion hc.surroundings c.installation profile m with
    ⟨hun, b, hb⟩ | ⟨hun, o, ho, hstatus⟩
  · obtain ⟨hserved, hraised⟩ := serve_of_error hpost (hroute ▸ hb)
    exact Or.inl ⟨hun, hserved, b, hraised⟩
  · obtain ⟨hserved, hraised⟩ := serve_of_ok hpost (hroute ▸ ho)
    refine Or.inr ⟨hun, ?_, hraised⟩
    simpa [hserved] using hstatus

/-- **A message to the place of a profile is answered with 200, 400 or 422 exactly when its request
gets an answer.**  Otherwise it is answered with 500, and what went wrong goes on.  A request that
passes its check is converted or rejected by any handler with a registry, unless its areas or its
incline cut the conversion short. -/
theorem serve_conversion {profile : String} (hc : c.Regular) (hm : m.method = "POST")
    (hr : Route.ofPath? m.path.toList = some (.convert profile)) :
    ((serve c m).raised = none ∧ (serve c m).response.status ∈ [200, 400, 422] ↔
        ¬Unanswered c.installation.room profile m) ∧
      ((serve c m).raised.isSome = true ∧ (serve c m).response.status = 500 ↔
        Unanswered c.installation.room profile m) ∧
      ∀ d r, requestShape.check d = .ok r → ∀ kind codes room,
        ((∃ search, ((Request.ofDocument r).convert (.withCodes kind codes) room).outcome =
              .ok search) ∨
            (∃ code reason, ((Request.ofDocument r).convert (.withCodes kind codes) room).outcome =
              .error (.rejected code reason)) ↔
          ∀ b, ¬(Request.ofDocument r).CutShort (.withCodes kind codes) room b) := by
  refine ⟨?_, ?_, fun d r hcheck kind codes room => ?_⟩
  · rcases serve_conversion_or hc hm hr with ⟨hun, -, b, hraised⟩ | ⟨hun, hstatus, hraised⟩
    · simp [hraised, hun]
    · exact iff_of_true ⟨hraised, hstatus⟩ hun
  · rcases serve_conversion_or hc hm hr with ⟨hun, hstatus, b, hraised⟩ | ⟨hun, -, hraised⟩
    · exact iff_of_true ⟨by rw [hraised]; rfl, hstatus⟩ hun
    · simp [hraised, hun]
  · have hcut : ∀ b, ((Request.ofDocument r).convert (.withCodes kind codes) room).outcome =
          .error (.brokenDown b) ↔
        (Request.ofDocument r).CutShort (.withCodes kind codes) room b := fun b =>
      Request.convert_eq_brokenDown_iff (Request.valid_of_yields ⟨d, hcheck⟩)
    simp only [← hcut]
    cases ((Request.ofDocument r).convert (.withCodes kind codes) room).outcome with
    | ok search => simp
    | error e => cases e <;> simp

/-- Circumstances of a service that is told nothing. -/
def plainCircumstances : Circumstances :=
  ⟨⟨.standard, .hundred, fun _ => ""⟩, .standard, "1", "2", "0.00", ""⟩

/-- A place, by its coordinates. -/
def place (x y : Int) : Document := .array [.integer x, .integer y]

/-- A request that keeps away from a place that no number is large enough for. -/
def farRequest : Document :=
  .object
    [("profile", .text "driving-car"), ("coordinates", .array [place 0 0, place 1 1]),
     ("options", .object
       [("avoid_polygons", .object
         [("type", .text "Polygon"),
          ("coordinates", .array [.array [place (10 ^ 309) 0, place 0 1, place 1 1]])])])]

/-- The bytes of a plain text. -/
def plainBytes (s : String) : List UInt8 := s.toList.map Char.toUInt8

/-- A message with such a request. -/
def farMessage : Incoming where
  method := "POST"
  path := "/api/v1/directions/driving-car/parameters"
  query := ""
  headers := [("content-type", "application/json")]
  body :=
    plainBytes "\x7b\"coordinates\":[[0,0],[1,1]],\"options\":\x7b\"avoid_polygons\":" ++
      plainBytes "\x7b\"type\":\"Polygon\",\"coordinates\":[[[" ++
        List.replicate 310 '9'.toUInt8 ++ plainBytes ",0],[0,1],[1,1]]]\x7d\x7d\x7d"
  client := none
  address := .of "http://localhost" "/api/v1/directions/driving-car/parameters" ""

/-- Whether a conversion is cut short. -/
def isCutShort (x : Traced Failure Search) : Bool :=
  match x.outcome with
  | .error (.brokenDown _) => true
  | _ => false

/-- The message is answered with 500, and the conversion of the request is cut short. -/
theorem serve_farMessage :
    (serve plainCircumstances farMessage).response.status = 500 ∧
      Unanswered .hundred "driving-car" farMessage ∧
      ∃ r, requestShape.check farRequest = .ok r ∧
        ∃ b, (Request.ofDocument r).CutShort (.withCodes .route .routing) .hundred b := by
  have hregular : plainCircumstances.Regular := ⟨⟨"development", rfl⟩, by decide, by decide⟩
  have hroute : Route.ofPath? farMessage.path.toList = some (.convert "driving-car") := by
    decide +kernel
  obtain ⟨-, hunanswered, hconvert⟩ := serve_conversion hregular rfl hroute
  have hstatus : (serve plainCircumstances farMessage).raised.isSome = true ∧
      (serve plainCircumstances farMessage).response.status = 500 := by decide +kernel
  have hrequest : (requestShape.check farRequest).toOption.any (fun r =>
      isCutShort ((Request.ofDocument r).convert (.withCodes .route .routing) .hundred)) =
        true := by decide +kernel
  refine ⟨hstatus.2, hunanswered.mp hstatus, ?_⟩
  cases hcheck : requestShape.check farRequest with
  | error issues => simp [hcheck, Except.toOption] at hrequest
  | ok r =>
    refine ⟨r, rfl, ?_⟩
    by_contra hnone
    rcases (hconvert _ r hcheck .route .routing .hundred).mpr (not_exists.mp hnone) with
      ⟨search, ho⟩ | ⟨code, reason, ho⟩ <;>
      simp [hcheck, Except.toOption, isCutShort, ho] at hrequest

end RouteIntake.Service
