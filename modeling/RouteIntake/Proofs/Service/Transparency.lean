import RouteIntake.Proofs.Service.Access
import RouteIntake.Proofs.Text.Kept

/-!
# The access log changes no answer

A service that logs its messages is compared with one that does not.  Where messages are logged each
has an identifier from the access log, and an answer has it in a header; where they are not, a
problem is reported under an identifier of its own.  Both identifiers stand in the bodies of errors,
so these are the same but for them.

What has no form as an answer breaks down, and the breakdown tells where in the written answer it
found half of a character.  Behind an identifier this place depends on how long the identifier is,
so the two must be equally long for the breakdowns to be the same: they are rows of eight
hexadecimal digits (`IsIdentifier`, `unwritable?_errorBody`).

The answers of the innermost layer are compared first, then what comes of the message outside:

* `serve_transparent`.
-/

namespace RouteIntake.Service

open Text Document

/-! ## Identifiers -/

/-- Whether a text is an identifier of a message: eight hexadecimal digits. -/
structure IsIdentifier (id : String) : Prop where
  length : id.toList.length = 8
  digits : ∀ c ∈ id.toList, c ∈ "0123456789abcdef".toList

variable {id id' : String}

lemma IsIdentifier.ne_empty (h : IsIdentifier id) : id ≠ "" := by
  rintro rfl
  cases h.length

/-- Hexadecimal digits are plain, and they are written as they are. -/
lemma writeCode_of_mem_digits {c : Char} (h : c ∈ "0123456789abcdef".toList) :
    isMarked c = false ∧ writeCode openStyle c.toNat = [c] := by
  have hall : ("0123456789abcdef".toList.all fun c =>
      !isMarked c && writeCode openStyle c.toNat == [c]) = true := by decide
  simpa using List.all_eq_true.mp hall c h

lemma IsIdentifier.plain (h : IsIdentifier id) : ∀ c ∈ id.toList, isMarked c = false :=
  fun c hc => (writeCode_of_mem_digits (h.digits c hc)).1

/-- An identifier is written between quotes as it is. -/
lemma IsIdentifier.writeText_eq (h : IsIdentifier id) :
    writeText openStyle id = '\x22' :: (id.toList ++ ['\x22']) := by
  have hcodes : codes id.toList = id.toList.map Char.toNat := by
    simpa using codes_plain_append h.plain []
  have hdigits : ∀ cs : List Char, (∀ c ∈ cs, c ∈ "0123456789abcdef".toList) →
      (cs.map Char.toNat).flatMap (writeCode openStyle) = cs := by
    intro cs hcs
    induction cs with
    | nil => rfl
    | cons c cs ih =>
      obtain ⟨hc, hcs⟩ := List.forall_mem_cons.mp hcs
      rw [List.map_cons, List.flatMap_cons, (writeCode_of_mem_digits hc).2, ih hcs,
        List.singleton_append]
  rw [writeText, hcodes, hdigits _ h.digits]

/-! ## Where the first halves are -/

/-- A change of codes that leaves halves alone and makes no others does not move the first
halves. -/
lemma firstHalves?_map {f : ℕ → ℕ} (hf : ∀ n, isHalf (f n) = isHalf n)
    (hhalf : ∀ n, isHalf n = true → f n = n) (ns : List ℕ) :
    firstHalves? (ns.map f) = firstHalves? ns := by
  have hdrop : (fun n => !isHalf n) ∘ f = fun n => !isHalf n := by
    funext n
    exact congrArg not (hf n)
  have htake : isHalf ∘ f = isHalf := funext hf
  rw [firstHalves?, firstHalvesWhere?, firstHalves?, firstHalvesWhere?, List.dropWhile_map, hdrop]
  cases hrest : ns.dropWhile fun n => !isHalf n with
  | nil => rfl
  | cons n rest =>
    have hn : isHalf n = true := by
      have hhead := List.head?_dropWhile_not (fun n => !isHalf n) ns
      rw [hrest] at hhead
      simpa using hhead
    simp only [List.map_cons, List.length_map, List.takeWhile_map, htake, hhalf n hn]

/-- Of codes between others it matters only how many there are, unless they are halves. -/
lemma firstHalves?_replace {a x y b : List ℕ} (hx : ∀ n ∈ x, isHalf n = false)
    (hy : ∀ n ∈ y, isHalf n = false) (hlength : x.length = y.length) :
    firstHalves? (a ++ (x ++ b)) = firstHalves? (a ++ (y ++ b)) := by
  let f : ℕ → ℕ := fun n => if isHalf n then n else 0
  have hf : ∀ n, isHalf (f n) = isHalf n := by
    intro n
    by_cases hn : isHalf n = true
    · simp only [f, if_pos hn]
    · rw [Bool.not_eq_true] at hn
      simp only [f, hn, Bool.false_eq_true, if_false]
      decide
  have hhalf : ∀ n, isHalf n = true → f n = n := fun n hn => if_pos hn
  have hzero : ∀ ns : List ℕ, (∀ n ∈ ns, isHalf n = false) →
      ns.map f = List.replicate ns.length 0 := by
    intro ns hns
    refine List.map_eq_replicate_iff.mpr fun n hn => ?_
    simp only [f, hns n hn]
    rfl
  rw [← firstHalves?_map hf hhalf (a ++ (x ++ b)), ← firstHalves?_map hf hhalf (a ++ (y ++ b))]
  simp only [List.map_append, hzero x hx, hzero y hy, hlength]

/-! ## Bodies of errors with an identifier -/

section Bodies

variable (shown : Bool) (code message details : Document)

/-- What is written of the body of an error before its identifier. -/
def writtenBefore : List Char :=
  '\x7b' :: (writeText openStyle "error" ++ ':' :: '\x7b' ::
    (writeText openStyle "code" ++ ':' :: writeChars openStyle code ++ ',' ::
      (writeText openStyle "message" ++ ':' :: writeChars openStyle message ++ ',' ::
        (writeText openStyle "request_id" ++ [':', '\x22']))))

/-- What is written of the body of an error after its identifier. -/
def writtenAfter : List Char :=
  '\x22' :: ((if shown then ',' :: (writeText openStyle "details" ++ ':' ::
    writeChars openStyle details) else []) ++ ['\x7d', '\x7d'])

lemma compact_errorBody (h : IsIdentifier id) :
    compact (errorBody shown code message (.text id) details) =
      writtenBefore code message ++ (id.toList ++ writtenAfter shown details) := by
  have htruthy : (Document.text id).isTruthy = true := by
    simpa [Document.isTruthy] using h.ne_empty
  cases shown <;>
    simp [compact, errorBody, htruthy, writeChars, writeMembers, joinEntries, h.writeText_eq,
      writtenBefore, writtenAfter]

/-- Whether the body of an error has a form, and why it has none, does not depend on its
identifier. -/
lemma unwritable?_errorBody (h : IsIdentifier id) (h' : IsIdentifier id') :
    unwritable? (errorBody shown code message (.text id) details) =
      unwritable? (errorBody shown code message (.text id') details) := by
  have hfinite : (errorBody shown code message (.text id) details).isFinite =
      (errorBody shown code message (.text id') details).isFinite := by
    have htruthy : ∀ {id : String}, IsIdentifier id → (Document.text id).isTruthy = true := by
      intro id h
      simpa [Document.isTruthy] using h.ne_empty
    cases shown <;> simp [errorBody, htruthy h, htruthy h', isFinite, membersFinite]
  have hcodes : ∀ {id : String}, IsIdentifier id →
      codes (compact (errorBody shown code message (.text id) details)) =
        codes (writtenBefore code message) ++
          (id.toList.map Char.toNat ++ codes (writtenAfter shown details)) := by
    intro id h
    have hhead : ∀ c ∈ (id.toList ++ writtenAfter shown details).head?, isMarked c = false := by
      have hne : id.toList ≠ [] := List.ne_nil_of_length_pos (by rw [h.length]; decide)
      rw [List.head?_append_of_ne_nil _ hne]
      exact fun c hc => h.plain c (List.mem_of_head? hc)
    rw [compact_errorBody shown code message details h, codes, codesFrom_append hhead,
      codes_plain_append h.plain]
    rfl
  have hhalves : ∀ {id : String}, ∀ n ∈ id.toList.map Char.toNat, isHalf n = false := by
    intro id n hn
    obtain ⟨c, -, rfl⟩ := List.mem_map.mp hn
    exact isHalf_toNat c
  have hlength : (id.toList.map Char.toNat).length = (id'.toList.map Char.toNat).length := by
    rw [List.length_map, List.length_map, h.length, h'.length]
  rw [unwritable?, unwritable?, hfinite, hcodes h, hcodes h',
    firstHalves?_replace hhalves hhalves hlength]

end Bodies

/-! ## Answers under two identifiers -/

/-- Two bodies, the one under an identifier and the other under another, that are the same but for
these: they do not differ, or both are the body of an error and nothing else in it is another. -/
inductive Payload.SameButId (id id' : String) : Payload → Payload → Prop
  | same (p : Payload) : SameButId id id' p p
  | error (shown : Bool) (code message details : Document) :
    SameButId id id' (.document (errorBody shown code message (.text id) details))
      (.document (errorBody shown code message (.text id') details))

/-- Two outcomes, answers or breakdowns, that are the same but for the identifiers in their
bodies. -/
inductive SameOutcome (id id' : String) :
    Except Breakdown Outgoing → Except Breakdown Outgoing → Prop
  | answer (status : Int) (headers : List Header) {p p' : Payload}
      (h : p.SameButId id id' p') :
    SameOutcome id id' (.ok ⟨status, headers, p⟩) (.ok ⟨status, headers, p'⟩)
  | brokenDown (b : Breakdown) : SameOutcome id id' (.error b) (.error b)

lemma SameOutcome.refl (x : Except Breakdown Outgoing) : SameOutcome id id' x x := by
  cases x with
  | ok o => exact .answer o.status o.headers (.same o.payload)
  | error b => exact .brokenDown b

/-- The bodies of an error under two identifiers are both written, or both not for the same
reason. -/
lemma SameOutcome.written (h : IsIdentifier id) (h' : IsIdentifier id') (status : Int)
    (shown : Bool) (code message details : Document) :
    SameOutcome id id' (Outgoing.written status (errorBody shown code message (.text id) details))
      (Outgoing.written status (errorBody shown code message (.text id') details)) := by
  rw [Outgoing.written, Outgoing.written, unwritable?_errorBody shown code message details h h']
  cases unwritable? (errorBody shown code message (.text id') details) with
  | some b => exact .brokenDown b
  | none => exact .answer _ _ (.error shown code message details)

/-- Surroundings that differ in whether messages are logged, each with an identifier of its own. -/
structure Surroundings.SameButId (id id' : String) (s s' : Surroundings) : Prop where
  settings : s'.settings = { s.settings with logRequests := s'.settings.logRequests }
  requestId : s.requestId = .text id
  requestId' : s'.requestId = .text id'
  identifier : IsIdentifier id
  identifier' : IsIdentifier id'

/-- What is fixed when a service is started and when another is started, whose settings differ in
whether messages are logged and in nothing else. -/
structure Installation.SameButLogging (i i' : Installation) : Prop where
  started : i'.started = { i.started with logRequests := i'.started.logRequests }
  room : i'.room = i.room
  manual : i'.manual = i.manual

/-- Both services have the same places. -/
lemma Installation.SameButLogging.route?_eq {i i' : Installation} (h : i.SameButLogging i')
    (path : List Char) : i'.route? path = i.route? path := by
  have hpages : i'.hasPages = i.hasPages := by
    rw [hasPages, h.started]
    rfl
  have hhas : i'.has = i.has := by
    funext route
    cases route with
    | page page => exact hpages
    | _ => rfl
  rw [route?, route?, hhas]

/-- Both services let the same origins in. -/
lemma Installation.SameButLogging.policy_eq {i i' : Installation} (h : i.SameButLogging i') :
    Cors.Policy.ofSettings i'.started = Cors.Policy.ofSettings i.started := by
  rw [h.started]
  rfl

namespace Surroundings.SameButId

variable {s s' : Surroundings} {i i' : Installation}

/-- A problem is answered in the same way, or not answered for the same reason. -/
lemma answerProblem (h : s.SameButId id id' s') (p : Problem) :
    SameOutcome id id' (answerProblem s p) (answerProblem s' p) := by
  have hshows : showsDetails s'.settings p.details = showsDetails s.settings p.details := by
    rw [h.settings]
    rfl
  rw [Service.answerProblem, Service.answerProblem, Problem.body, Problem.body, hshows, h.requestId,
    h.requestId']
  cases showsDetails s.settings p.details with
  | error b => exact .brokenDown b
  | ok shown =>
    exact .written h.identifier h.identifier' p.status shown p.code p.message p.details

lemma report (h : s.SameButId id id' s') (p : Problem) :
    SameOutcome id id' (report s p).outcome (report s' p).outcome := h.answerProblem p

lemma answerConverted (h : s.SameButId id id' s') (profile : String) (x : Traced Failure Search) :
    SameOutcome id id' (answerConverted s profile x).outcome
      (answerConverted s' profile x).outcome := by
  unfold Service.answerConverted
  split
  · exact .refl _
  · exact h.answerProblem _
  · exact .refl _

lemma answerConversion (h : s.SameButId id id' s') (hi : i.SameButLogging i') (profile : String)
    (m : Incoming) :
    SameOutcome id id' (answerConversion i s profile m).outcome
      (answerConversion i' s' profile m).outcome := by
  unfold Service.answerConversion
  rw [hi.room]
  split
  · exact h.report _
  · exact h.answerConverted profile _

/-- What a place tells of the service does not depend on whether messages are logged. -/
lemma answerAt (h : s.SameButId id id' s') (hi : i.SameButLogging i') (m : Incoming)
    (route : Route) :
    SameOutcome id id' (answerAt i s m route).outcome (answerAt i' s' m route).outcome := by
  cases route with
  | convert profile => exact h.answerConversion hi profile m
  | page page =>
    simp only [Service.answerAt]
    rw [hi.manual]
    exact .refl _
  | _ =>
    simp only [Service.answerAt]
    rw [h.settings]
    exact .refl _

lemma answerRoute (h : s.SameButId id id' s') (hi : i.SameButLogging i') (m : Incoming) :
    SameOutcome id id' (answerRoute i s m).outcome (answerRoute i' s' m).outcome := by
  unfold Service.answerRoute
  dsimp only
  simp only [hi.route?_eq]
  split
  · split
    · exact h.answerAt hi m _
    · exact h.report _
  · split
    · exact .refl _
    · exact h.report _

end Surroundings.SameButId

/-! ## What comes of a message with and without the access log -/

/-- Circumstances whose settings differ in whether messages are logged and in nothing else, those
that the service was started with and those that it has now.  Where messages are logged the access
log gives each an identifier; where they are not it has one of its own. -/
structure SameButLogging (on off : Circumstances) : Prop where
  installation : on.installation.SameButLogging off.installation
  settings : off.settings = { on.settings with logRequests := off.settings.logRequests }
  logs : on.logsRequests = true
  silent : off.logsRequests = false
  loggedId : IsIdentifier on.loggedId
  freshId : IsIdentifier off.freshId

variable {on off : Circumstances} {m : Incoming}

lemma requestId_surroundings_of_silent (hsilent : off.logsRequests = false) :
    off.surroundings.requestId = .text off.freshId := by
  show Document.text off.requestId = _
  rw [Circumstances.requestId, hsilent]
  rfl

lemma SameButLogging.surroundings (h : SameButLogging on off) :
    on.surroundings.SameButId on.loggedId off.freshId off.surroundings where
  settings := h.settings
  requestId := requestId_surroundings h.logs
  requestId' := requestId_surroundings_of_silent h.silent
  identifier := h.loggedId
  identifier' := h.freshId

/-- Without the access log an answer of the innermost layer gets the headers for other origins
alone. -/
lemma serve_silent_of_ok (hsilent : off.logsRequests = false) (hm : Cors.preflight? m = none)
    {o : Outgoing} (ho : (answerRoute off.installation off.surroundings m).outcome = .ok o) :
    serve off m =
      ⟨o.withHeaders (Cors.answerHeaders off.policy m),
        (answerRoute off.installation off.surroundings m).log, none⟩ := by
  simp only [serve, hm, logged, hsilent, ho, Bool.false_eq_true, if_false]

lemma serve_silent_of_error (hsilent : off.logsRequests = false) (hm : Cors.preflight? m = none)
    {b : Breakdown} (hb : (answerRoute off.installation off.surroundings m).outcome = .error b) :
    serve off m =
      ⟨answerBreakdown off b,
        (answerRoute off.installation off.surroundings m).log ++
          (breakdownProblem b).lines off.surroundings,
        some b⟩ := by
  simp only [serve, hm, logged, hsilent, hb, Bool.false_eq_true, if_false]

/-- The headers of an answer but for the one of the access log. -/
def otherHeaders (headers : List Header) : List Header :=
  headers.filter fun h => !(h.1 == "x-request-id")

/-- What comes of a message in two circumstances is the same but for identifiers: the status, the
headers but for the one of the access log, the body, and the breakdown that goes on, if any. -/
structure SameServed (id id' : String) (x y : Served) : Prop where
  status : x.response.status = y.response.status
  headers : otherHeaders x.response.headers = otherHeaders y.response.headers
  payload : x.response.payload.SameButId id id' y.response.payload
  raised : x.raised = y.raised

/-- The header of the access log is the only one that the others are without. -/
lemma otherHeaders_logged (headers cors : List Header) (id : String) :
    otherHeaders (headers ++ [("x-request-id", id)] ++ cors) = otherHeaders (headers ++ cors) := by
  have hself : otherHeaders [("x-request-id", id)] = [] := rfl
  simp only [otherHeaders, List.filter_append] at hself ⊢
  rw [hself, List.append_nil]

/-- **What comes of a message with and without the access log.** -/
lemma SameButLogging.sameServed (h : SameButLogging on off) (m : Incoming) :
    SameServed on.loggedId off.freshId (serve on m) (serve off m) := by
  have hpolicy : off.policy = on.policy := h.installation.policy_eq
  cases hm : Cors.preflight? m with
  | some f =>
    rw [serve_of_preflight hm, serve_of_preflight hm, hpolicy]
    exact ⟨rfl, rfl, .same _, rfl⟩
  | none =>
    have hroute := h.surroundings.answerRoute h.installation m
    generalize hon : (answerRoute on.installation on.surroundings m).outcome = x at hroute
    generalize hoff : (answerRoute off.installation off.surroundings m).outcome = y at hroute
    cases hroute with
    | answer status headers hpayload =>
      rw [serve_logged_of_ok h.logs hm hon, serve_silent_of_ok h.silent hm hoff, hpolicy]
      exact ⟨rfl, otherHeaders_logged headers _ _, hpayload, rfl⟩
    | brokenDown b =>
      rw [serve_logged_of_error h.logs hm hon, serve_silent_of_error h.silent hm hoff]
      refine ⟨rfl, rfl, ?_, rfl⟩
      rw [answerBreakdown, answerBreakdown, Circumstances.requestId, Circumstances.requestId,
        h.logs, h.silent]
      exact .error false _ _ .null

/-! ## Identifiers in the bodies of errors -/

/-- An answer of the innermost layer keeps its body on the way out. -/
lemma payload_serve_of_ok {c : Circumstances} (hm : Cors.preflight? m = none) {o : Outgoing}
    (ho : (answerRoute c.installation c.surroundings m).outcome = .ok o) :
    (serve c m).response.payload = o.payload := by
  cases hlogs : c.logsRequests with
  | true => rw [serve_logged_of_ok hlogs hm ho]; rfl
  | false => rw [serve_silent_of_ok hlogs hm ho]; rfl

/-- A breakdown of the innermost layer is answered outside. -/
lemma response_serve_of_error {c : Circumstances} (hm : Cors.preflight? m = none) {b : Breakdown}
    (hb : (answerRoute c.installation c.surroundings m).outcome = .error b) :
    (serve c m).response = answerBreakdown c b := by
  simp only [serve, hm, logged_of_error hb]

/-- An error in the body of an answer names its message by the identifier that it is reported
under, whether messages are logged or not. -/
lemma names_serve {c : Circumstances} (hid : c.requestId ≠ "") (m : Incoming) {d : Document}
    (hd : (serve c m).response.payload = .document d) (herror : (error? d).isSome = true) :
    errorField? d "request_id" = some (.text c.requestId) := by
  cases hm : Cors.preflight? m with
  | some f =>
    -- preflights are answered with a text
    have htext : ∃ t, (Cors.answer c.policy f).payload = .text t := by
      unfold Cors.answer
      dsimp only
      split <;> exact ⟨_, rfl⟩
    obtain ⟨t, ht⟩ := htext
    rw [serve_of_preflight hm, ht] at hd
    cases hd
  | none =>
    cases ho : (answerRoute c.installation c.surroundings m).outcome with
    | ok o =>
      rw [payload_serve_of_ok hm ho] at hd
      exact ((correlated_answerRoute rfl hid c.installation m).names o ho).error d hd herror
    | error b =>
      rw [response_serve_of_error hm ho] at hd
      exact (names_errorBody hid 500).error d hd herror

/-- **The access log changes no answer.**  Let a message be served twice, in circumstances that
differ in whether messages are logged, with an identifier for the message in each.  The two answers
have the same status, the same headers but for the one of the access log, and the same body but for
the identifier of the message in an error, and what broke down, if anything did, is the same.  An
error in the body has an identifier in both. -/
theorem serve_transparent (h : SameButLogging on off) (m : Incoming) :
    SameServed on.loggedId off.freshId (serve on m) (serve off m) ∧
      (∀ d, (serve on m).response.payload = .document d → (error? d).isSome = true →
        errorField? d "request_id" = some (.text on.loggedId)) ∧
      ∀ d, (serve off m).response.payload = .document d → (error? d).isSome = true →
        errorField? d "request_id" = some (.text off.freshId) := by
  have hon : on.requestId = on.loggedId := by rw [Circumstances.requestId, if_pos h.logs]
  have hoff : off.requestId = off.freshId := by rw [Circumstances.requestId, h.silent]; rfl
  refine ⟨h.sameServed m, fun d hd herror => ?_, fun d hd herror => ?_⟩
  · rw [← hon]
    exact names_serve (hon ▸ h.loggedId.ne_empty) m hd herror
  · rw [← hoff]
    exact names_serve (hoff ▸ h.freshId.ne_empty) m hd herror

/-- Settings that let all origins in, and otherwise are standard. -/
def openSettings : Settings := { Settings.standard with corsOrigins := .array [.text "*"] }

/-- The settings without a log of messages. -/
def silentSettings : Settings := { openSettings with logRequests := .boolean false }

/-- A service with such settings that logs its messages. -/
def loudCircumstances : Circumstances :=
  ⟨⟨openSettings, .hundred, fun _ => ""⟩, openSettings, "0a1b2c3d", "4e5f6071", "0.00", ""⟩

/-- The same service when it does not. -/
def silentCircumstances : Circumstances :=
  ⟨⟨silentSettings, .hundred, fun _ => ""⟩, silentSettings, "0a1b2c3d", "4e5f6071", "0.00", ""⟩

/-- A message that breaks down is answered with status 500 in both cases, with another identifier,
and the same breakdown goes on. -/
theorem serve_transparent_farMessage :
    SameButLogging loudCircumstances silentCircumstances ∧
      (serve loudCircumstances farMessage).raised.isSome = true ∧
      (serve silentCircumstances farMessage).raised = (serve loudCircumstances farMessage).raised ∧
      (∃ d, (serve loudCircumstances farMessage).response.payload = .document d ∧
        errorField? d "request_id" = some (.text "0a1b2c3d")) ∧
      ∃ d, (serve silentCircumstances farMessage).response.payload = .document d ∧
        errorField? d "request_id" = some (.text "4e5f6071") := by
  have hlogged : IsIdentifier "0a1b2c3d" := ⟨rfl, by simp⟩
  have hfresh : IsIdentifier "4e5f6071" := ⟨rfl, by simp⟩
  have hlogging : SameButLogging loudCircumstances silentCircumstances :=
    ⟨⟨rfl, rfl, rfl⟩, rfl, rfl, rfl, hlogged, hfresh⟩
  have hraised : (serve loudCircumstances farMessage).raised.isSome = true := by decide +kernel
  obtain ⟨b, hloud⟩ := Option.isSome_iff_exists.mp hraised
  obtain ⟨hserved, hon, hoff⟩ := serve_transparent hlogging farMessage
  have hsilent : (serve silentCircumstances farMessage).raised = some b := hserved.raised ▸ hloud
  have hloudBody := congrArg Outgoing.payload (response_of_raised hloud)
  have hsilentBody := congrArg Outgoing.payload (response_of_raised hsilent)
  exact ⟨hlogging, hraised, hserved.raised.symm,
    ⟨_, hloudBody, hon _ hloudBody isSome_error?_errorBody⟩,
    ⟨_, hsilentBody, hoff _ hsilentBody isSome_error?_errorBody⟩⟩

end RouteIntake.Service
