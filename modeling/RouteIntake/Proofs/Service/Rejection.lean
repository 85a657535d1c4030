import RouteIntake.Proofs.Conversion.Breakdown
import RouteIntake.Proofs.Service.Codes
import RouteIntake.Proofs.Service.Problem

/-!
# Rejections that can be answered

A rejected request is answered with a code and a sentence that repeats names and values, so the
answer can be sent only if these are free of halves of characters.  The code is always one of the
service (`writable_code_of_convertRequest`).  The texts are free of halves for a valid request, with
one exception (`Request.Valid.texts_sound_or`): the word that a wheelchair request gives for a way
is any text, and a word that is in no table is repeated as it was sent.
-/

namespace RouteIntake

open Schema Service Text

/-- The texts that a reason is reported with. -/
def Reason.texts : Reason → List String
  | .unknownValue name value => [name, value]
  | .unknownConstant name family value => [name, value, Document.constantName family value]
  | .incompatible name value otherName otherValue => [name, value, otherName, otherValue]
  | .unknownRestrictions names profile => profile :: names
  | .malformed name => [name]
  | .unreadable name => [name]

namespace Service

/-! ## Sentences -/

/-- The sentence about an unknown value is sound when the name and the value are. -/
lemma isSound_unknownValue {value name : String} :
    isSound ("Unknown parameter value '" ++ value ++ "' for '" ++ name ++ "'.") =
      (isSound value && isSound name) := by
  rw [isSound_append_plain (by decide), isSound_append_plain_append (by decide) (by decide),
    isSound_plain_append (by decide)]

/-- The sentence about two parameters is sound when their names and values are. -/
lemma isSound_incompatible {name value otherName otherValue : String} :
    isSound ("Parameter '" ++ name ++ "=" ++ value ++ "' is incompatible with parameter '" ++
      otherName ++ "=" ++ otherValue ++ "'.") =
      (isSound name && isSound value && isSound otherName && isSound otherValue) := by
  have hequals : isPlain "=" = true := by decide
  have hwith : isPlain "' is incompatible with parameter '" = true := by decide
  rw [isSound_append_plain (by decide), isSound_append_plain_append hequals (by decide),
    isSound_append_plain_append hwith (by decide), isSound_append_plain_append hequals (by decide),
    isSound_plain_append (by decide)]

/-! ## Reasons as problems -/

/-- All names that errors have their codes under are registered by the service. -/
lemma writable_code_of_codeName {e : ParameterError} {name : String} (h : e.CodeName name) :
    Writable (codeOrInternal (ErrorCodes.routing.code name)) := by
  cases h <;> exact ⟨rfl, rfl⟩

/-- The service rejects a request under a code of its own. -/
lemma writable_code_of_convertRequest {room : Room} {r : Request} {code : Document}
    {reason : Reason}
    (h : (requestHandler.convertRequest room r).outcome = .error (.rejected code reason)) :
    Writable (codeOrInternal code) := by
  have hcall : (Call.request room r).failure? requestHandler = some (.rejected code reason) :=
    failure?_eq_some_iff.mpr h
  obtain ⟨name, hname, rfl⟩ := Call.exists_codeName hcall
  exact writable_code_of_codeName hname

/-- The error of a reason repeats its texts alone. -/
lemma writable_ofReason (code : Document) {reason : Reason}
    (h : ∀ t ∈ reason.texts, isSound t = true) :
    Writable (ParameterError.ofReason code reason).detail ∧
      ∀ p ∈ (ParameterError.ofReason code reason).parameters, Writable p.1 ∧ Writable p.2 := by
  cases reason with
  | unknownValue name value =>
    obtain ⟨hname, hvalue⟩ : isSound name = true ∧ isSound value = true := by
      simpa [Reason.texts] using h
    refine ⟨writable_text ?_, ?_⟩
    · rw [Document.mention_text, Document.mention_text, isSound_unknownValue, hname, hvalue]
      rfl
    · simpa [ParameterError.ofReason, ParameterError.unknownValue] using
        ⟨writable_text hname, writable_text hvalue⟩
  | unknownConstant name family value =>
    obtain ⟨hname, hvalue, hshown⟩ : isSound name = true ∧ isSound value = true ∧
        isSound (Document.constantName family value) = true := by
      simpa [Reason.texts] using h
    refine ⟨writable_text ?_, ?_⟩
    · rw [Document.mention_text, Document.mention, isSound_unknownValue, hname, hshown]
      rfl
    · simpa [ParameterError.ofReason, ParameterError.unknownValue] using
        ⟨writable_text hname, rfl, hvalue⟩
  | incompatible name value otherName otherValue =>
    obtain ⟨hname, hvalue, hotherName, hotherValue⟩ : isSound name = true ∧ isSound value = true ∧
        isSound otherName = true ∧ isSound otherValue = true := by
      simpa [Reason.texts] using h
    refine ⟨writable_text ?_, ?_⟩
    · simp only [Document.mention_text, isSound_incompatible, hname, hvalue, hotherName,
        hotherValue]
      rfl
    · simpa [ParameterError.ofReason, ParameterError.incompatible] using
        ⟨⟨writable_text hname, writable_text hvalue⟩, writable_text hotherName,
          writable_text hotherValue⟩
  | unknownRestrictions names profile =>
    obtain ⟨hprofile, hnames⟩ : isSound profile = true ∧ ∀ t ∈ names, isSound t = true := by
      simpa [Reason.texts] using h
    have hjoined : isSound (", ".intercalate names) = true :=
      isSound_intercalate (by decide) (by decide) hnames
    have hrestrictions : isSound "restrictions" = true := by decide
    have hword : isSound "profile" = true := by decide
    refine ⟨writable_text ?_, ?_⟩
    · simp only [Document.mention_text, isSound_incompatible, hrestrictions, hjoined, hword,
        hprofile]
      rfl
    · simpa [ParameterError.ofReason, ParameterError.incompatible] using
        ⟨⟨writable_text hrestrictions, writable_text hjoined⟩, writable_text hword,
          writable_text hprofile⟩
  | malformed name =>
    have hname : isSound name = true := by simpa [Reason.texts] using h
    refine ⟨writable_text ?_, ?_⟩
    · show isSound ("Parameter '" ++ (Document.text name).mention ++ "' has incorrect value " ++
        "or format.") = true
      rw [Document.mention_text, isSound_append_plain (by decide), isSound_append_plain (by decide),
        isSound_plain_append (by decide)]
      exact hname
    · simpa [ParameterError.ofReason, ParameterError.badValue] using
        ⟨writable_text hname, writable_null⟩
  | unreadable name =>
    have hname : isSound name = true := by simpa [Reason.texts] using h
    refine ⟨writable_text ?_, ?_⟩
    · rw [Document.mention_text, isSound_append_plain (by decide), isSound_plain_append (by decide)]
      exact hname
    · simpa [ParameterError.ofReason, ParameterError.badForm] using
        ⟨writable_text hname, writable_null⟩

/-- A reason whose texts are sound can be answered under a code that has a form. -/
lemma answerable_parameter {code : Document} (hcode : Writable (codeOrInternal code))
    {reason : Reason} (h : ∀ t ∈ reason.texts, isSound t = true) :
    (Problem.parameter (.ofReason code reason)).Answerable := by
  obtain ⟨hdetail, hparameters⟩ := writable_ofReason code h
  have hname : ∀ name ∈ ["parameters", "name", "value"], isSound name = true := by decide
  refine
    { code := ?_
      message := hdetail
      details := ?_ }
  · show Writable (codeOrInternal (ParameterError.ofReason code reason).code)
    rw [ParameterError.code_ofReason]
    exact hcode
  · show Writable (ParameterError.details _)
    rw [ParameterError.details, writable_object_iff, List.forall_mem_singleton]
    refine ⟨hname _ (by simp), writable_array_iff.mpr fun d hd => ?_⟩
    obtain ⟨p, hp, rfl⟩ := List.mem_map.mp hd
    rw [writable_object_iff, List.forall_mem_cons, List.forall_mem_singleton]
    exact ⟨⟨hname _ (by simp), (hparameters p hp).1⟩, hname _ (by simp), (hparameters p hp).2⟩

/-- A value that is not sound makes a problem that is not answered. -/
lemma not_writable_unknownValue {code : Document} {name value : String}
    (h : isSound value = false) :
    ¬Writable (Problem.parameter (.ofReason code (.unknownValue name value))).message := by
  rintro ⟨-, hsound⟩
  have hs : isSound ("Unknown parameter value '" ++ value ++ "' for '" ++ name ++ "'.") = true := by
    simpa [Problem.message, ParameterError.ofReason, ParameterError.unknownValue,
      Document.isSound] using hsound
  rw [isSound_unknownValue, h] at hs
  cases hs

end Service

/-! ## Reasons of valid requests -/

variable {handler : Handler} {room : Room} {code : Document} {reason : Reason}

/-- Profiles are named with sound texts. -/
lemma Profile.isSound_nameOf (id : Int) : isSound (Profile.nameOf id) = true := by
  have htable : ∀ entry ∈ Profile.table, isSound entry.1 = true := by decide +kernel
  unfold Profile.nameOf
  split
  · exact htable _ (List.mem_of_find?_eq_some ‹_›)
  · decide

lemma Restriction.isSound_name (r : Restriction) : isSound r.name = true := by
  cases r <;> decide +kernel

/-- A profile that a request may name is only ever rejected under its own name. -/
lemma convertProfile_texts {name : String} (h : name ∈ Profile.requestable)
    (he : convertProfile handler (.text name) = .error (.rejected code reason)) :
    ∀ t ∈ reason.texts, isSound t = true := by
  have hall : ∀ n ∈ "profile" :: Profile.requestable, isSound n = true := by decide +kernel
  obtain rfl := Handler.eq_of_failure_eq_rejected (convertProfile_eq_error he).symm
  simpa [Reason.texts] using ⟨hall "profile" (by simp), hall name (by simp [h])⟩

lemma convertVehicle_texts {o : Options} (h : o.Valid) {profile : Int}
    (he : convertVehicle handler o.vehicleType profile = .error (.rejected code reason)) :
    ∀ t ∈ reason.texts, isSound t = true := by
  have hall : ∀ n ∈ "vehicle_type" :: "profile" :: Vehicle.requestable, isSound n = true := by
    decide +kernel
  rcases h.vehicle with hd | ⟨w, hw, hd⟩
  · rw [hd, convertVehicle_null] at he
    cases he
  · rw [hd] at he
    obtain rfl := Handler.eq_of_failure_eq_rejected (convertVehicle_eq_error he).symm
    simpa [Reason.texts] using ⟨hall "vehicle_type" (by simp), hall w (by simp [hw]),
      hall "profile" (by simp), Profile.isSound_nameOf profile⟩

lemma convertFeatures_texts {profile : Int} {ds : List Document}
    (h : ∀ d ∈ ds, ∃ name ∈ Feature.names, d = .text name)
    (he : convertFeatures handler profile ds = .error (.rejected code reason)) :
    ∀ t ∈ reason.texts, isSound t = true := by
  have hall : ∀ n ∈ "avoid_features" :: "profile" :: Feature.names, isSound n = true := by
    decide +kernel
  obtain ⟨d, hd, he⟩ := exists_refused_of_convertFeatures he
  obtain ⟨name, hname, rfl⟩ := h d hd
  generalize hf : Failure.rejected code reason = f at he
  cases he with
  | unknown =>
    obtain rfl := Handler.eq_of_failure_eq_rejected hf.symm
    simpa [Reason.texts] using ⟨hall "avoid_features" (by simp), hall name (by simp [hname])⟩
  | excluded =>
    obtain rfl := Handler.eq_of_failure_eq_rejected hf.symm
    simpa [Reason.texts] using ⟨hall "avoid_features" (by simp), hall name (by simp [hname]),
      hall "profile" (by simp), Profile.isSound_nameOf profile⟩

lemma convertAvoidFeatures_texts {o : Options} (h : o.Valid) {profile : Int}
    (he : convertAvoidFeatures handler o.avoidFeatures profile = .error (.rejected code reason)) :
    ∀ t ∈ reason.texts, isSound t = true := by
  unfold convertAvoidFeatures at he
  rcases h.avoidFeatures.optional with hd | hy
  · rw [hd] at he
    cases he
  · obtain ⟨ds, hd, -, hds⟩ := hy.list
    rw [hd] at he
    split at he
    · exact convertFeatures_texts (fun d hmem => (hds d hmem).choice) he
    · cases he

lemma convertAvoidAreas_texts {d : Document}
    (he : convertAvoidAreas handler room d = .error (.rejected code reason)) :
    ∀ t ∈ reason.texts, isSound t = true := by
  have hname : isSound Area.parameterName = true := by decide
  unfold convertAvoidAreas at he
  split at he
  · cases he
  · rcases Area.ofDocument_eq_rejected he with rfl | rfl
    · simpa [Reason.texts] using hname
    · simpa [Reason.texts] using hname

/-- Profile parameters are rejected with sound texts, or for a word. -/
lemma convertParameters_texts {o : Options} (h : o.Valid) {profile : Int}
    (he : (convertParameters handler room o profile).outcome = .error (.rejected code reason)) :
    (∀ t ∈ reason.texts, isSound t = true) ∨
      ∃ name word, reason = .unknownValue name word ∧ isSound word = false := by
  rcases convertParameters_eq_error he with
    he | ⟨rs, -, hu, he⟩ | ⟨rs, hrs, -, he⟩ | ⟨_, _, -, he⟩ | ⟨_, _, -, -, he⟩
  · exact Or.inl (convertVehicle_texts h he)
  · rw [convertRestrictions_unknown hu] at he
    obtain rfl := Handler.eq_of_failure_eq_rejected (Except.error.inj he)
    left
    simpa [Reason.texts] using
      ⟨Profile.isSound_nameOf profile, fun r _ => r.isSound_name⟩
  · obtain ⟨r, hword, table, he⟩ := limitsFor_eq_error he
    rcases encodeWord_eq_error he with ⟨s, -, hs⟩ | ⟨family, s, hd, -⟩ | ⟨⟨b, hb⟩, -⟩
    · -- this is the only value that is repeated and was not chosen from a list
      obtain rfl := Handler.eq_of_failure_eq_rejected hs.symm
      cases hsound : isSound s with
      | true => exact Or.inl (by simpa [Reason.texts] using ⟨r.isSound_name, hsound⟩)
      | false => exact Or.inr ⟨r.name, s, rfl, hsound⟩
    · rcases (h.restrictions rs hrs).word hword with hnull | ⟨t, ht⟩
      · rw [hnull] at hd
        cases hd
      · rw [ht] at hd
        cases hd
    · cases hb
  · obtain ⟨b, hb, -⟩ := applyOne_eq_error he
    cases hb
  · cases he

/-- **A valid request is rejected with texts that can be sent**, unless it is rejected for a word
with half of a character. -/
lemma Request.Valid.texts_sound_or {r : Request} (h : r.Valid)
    (he : (r.convert handler room).outcome = .error (.rejected code reason)) :
    (∀ t ∈ reason.texts, isSound t = true) ∨
      ∃ name word, reason = .unknownValue name word ∧ isSound word = false := by
  obtain ⟨name, hname, hprofile⟩ := h.profile
  simp only [Request.outcome_convert, Request.convertParts, bind_eq_error, hprofile, reduceCtorEq,
    and_false, exists_false, or_false] at he
  -- the profile, the vehicle, the features, the areas, and last the profile parameters
  rcases he with (he | ⟨_, -, he | ⟨_, -, he | ⟨_, -, he⟩⟩⟩) | ⟨_, -, he⟩
  · exact Or.inl (convertProfile_texts hname he)
  · exact Or.inl (convertVehicle_texts h.options he)
  · exact Or.inl (convertAvoidFeatures_texts h.options he)
  · exact Or.inl (convertAvoidAreas_texts he)
  · exact convertParameters_texts h.options he

end RouteIntake
