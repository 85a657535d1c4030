import RouteIntake.Profile.Given
import RouteIntake.Proofs.Restriction.Unknown

/-!
# Conversions under two registries

A handler looks a code up wherever it rejects something, in the registry that it was given.  Two
handlers of one kind that were given different registries are followed here in lock-step, from
converter to converter.  They stay together because

* both decide by the same values, and a code that was looked up is never looked at again
  (`Alike.ite`, `Alike.bind`);
* where one of them rejects something so does the other, for the same reason and under the same name
  (`Alike.reject`), and the name goes with the error that the reason is reported as
  (`Reason.GoesBy`).

`Alike` says that two outcomes are the same but for codes, and `Traced.Alike` says the same of two
conversions with their logs.  With one registry on both sides, `Alike` says under which name the
code of an outcome was looked up.
-/

namespace RouteIntake

open Service

/-! ## Errors that are the same but for their codes -/

namespace Service.ParameterError

/-- An error is what another is, but for the code that it is reported under. -/
structure SameButCode (e e' : ParameterError) : Prop where
  /-- The kind of error. -/
  kind : e'.kind = e.kind
  /-- What the client is told. -/
  detail : e'.detail = e.detail
  /-- The parameters with their values. -/
  parameters : e'.parameters = e.parameters
  /-- The status of the answer. -/
  status : e'.toApi.status = e.toApi.status
  /-- What only the log is told. -/
  internal : e'.toApi.internal = e.toApi.internal

/-- The errors of a reason are the same under all codes, but for the code. -/
lemma sameButCode_ofReason (code code' : Document) (reason : Reason) :
    (ofReason code reason).SameButCode (ofReason code' reason) := by
  cases reason <;> exact ⟨rfl, rfl, rfl, rfl, rfl⟩

/-- The name under which the code of an error is registered: it goes with the kind of the error, and
errors that refuse restrictions have a name of their own. -/
inductive CodeName (e : ParameterError) : String → Prop
  /-- A value cannot be read. -/
  | unreadable (h : e.kind = .badForm) : e.CodeName "INVALID_JSON_FORMAT"
  /-- Restrictions are refused. -/
  | restrictions (h : e.RefusesRestrictions) : e.CodeName "UNKNOWN_PARAMETER"
  /-- Anything else. -/
  | value (h : e.kind ≠ .badForm) (hr : ¬e.RefusesRestrictions) :
    e.CodeName "INVALID_PARAMETER_VALUE"

end Service.ParameterError

/-! ## Names that go with reasons -/

/-- Whatever code a reason is reported under, the name goes with the error. -/
def Reason.GoesBy (reason : Reason) (name : String) : Prop :=
  ∀ code, (ParameterError.ofReason code reason).CodeName name

namespace Reason

lemma unknownValue_goesBy (name value : String) :
    (unknownValue name value).GoesBy "INVALID_PARAMETER_VALUE" :=
  fun _ => .value (by rintro ⟨⟩) (by rintro ⟨⟨⟩, -⟩)

lemma unknownConstant_goesBy (name family value : String) :
    (unknownConstant name family value).GoesBy "INVALID_PARAMETER_VALUE" :=
  fun _ => .value (by rintro ⟨⟩) (by rintro ⟨⟨⟩, -⟩)

/-- Two parameters that do not go together are another matter than restrictions that are refused. -/
lemma incompatible_goesBy {name : String} (h : name ≠ "restrictions")
    (value otherName otherValue : String) :
    (incompatible name value otherName otherValue).GoesBy "INVALID_PARAMETER_VALUE" := by
  refine fun _ => .value (by rintro ⟨⟩) ?_
  rintro ⟨-, hname⟩
  exact h (Document.text.inj (Option.some.inj hname))

lemma unknownRestrictions_goesBy (names : List String) (profile : String) :
    (unknownRestrictions names profile).GoesBy "UNKNOWN_PARAMETER" :=
  fun _ => .restrictions ⟨rfl, rfl⟩

lemma malformed_goesBy (name : String) : (malformed name).GoesBy "INVALID_PARAMETER_VALUE" :=
  fun _ => .value (by rintro ⟨⟩) (by rintro ⟨⟨⟩, -⟩)

lemma unreadable_goesBy (name : String) : (unreadable name).GoesBy "INVALID_JSON_FORMAT" :=
  fun _ => .unreadable rfl

end Reason

/-! ## Outcomes that are the same but for codes -/

/-- The parameter error that a failure is raised as, if it is a rejection. -/
def Failure.error? : Failure → Option ParameterError
  | .rejected code reason => some (.ofReason code reason)
  | .brokenDown _ => none

/-- Two outcomes, the one under some codes and the other under others, that are the same but for
these. -/
inductive Alike {α : Type} (codes codes' : ErrorCodes) : Except Failure α → Except Failure α → Prop
  /-- Both are the same value. -/
  | value (a : α) : Alike codes codes' (.ok a) (.ok a)
  /-- Both are cut short in the same way. -/
  | brokenDown (b : Breakdown) :
    Alike codes codes' (.error (.brokenDown b)) (.error (.brokenDown b))
  /-- Both are parameter errors.  They are the same but for their codes, and each has the code that
  is registered for the name that goes with its kind. -/
  | raised (f f' : Failure) (e e' : ParameterError) (name : String) (he : f.error? = some e)
    (he' : f'.error? = some e') (hsame : e.SameButCode e') (hname : e.CodeName name)
    (hcode : e.code = codes.code name) (hcode' : e'.code = codes'.code name) :
    Alike codes codes' (.error f) (.error f')

/-- Two conversions that log the same and have the same outcome but for codes. -/
structure Traced.Alike {α : Type} (codes codes' : ErrorCodes) (t t' : Traced Failure α) : Prop where
  log : t.log = t'.log
  outcome : RouteIntake.Alike codes codes' t.outcome t'.outcome

variable {α β : Type} {kind : HandlerKind} {codes codes' : ErrorCodes} {room : Room}

/-- Both handlers reject something for one reason, under the name that goes with it. -/
lemma Alike.reject {name : String} {reason : Reason} (hname : reason.GoesBy name) :
    Alike (α := α) codes codes' ((Handler.withCodes kind codes).reject name reason)
      ((Handler.withCodes kind codes').reject name reason) :=
  .raised _ _ _ _ name rfl rfl (ParameterError.sameButCode_ofReason _ _ reason) (hname _)
    (ParameterError.code_ofReason _ reason) (ParameterError.code_ofReason _ reason)

/-- Both handlers take the same branch. -/
lemma Alike.ite {c : Prop} [Decidable c] {x x' y y' : Except Failure α}
    (hx : Alike codes codes' x x') (hy : Alike codes codes' y y') :
    Alike codes codes' (if c then x else y) (if c then x' else y') := by
  split
  · exact hx
  · exact hy

/-- Both handlers go on from the same value. -/
lemma Alike.bind {x x' : Except Failure α} {f f' : α → Except Failure β}
    (hx : Alike codes codes' x x') (hf : ∀ a, Alike codes codes' (f a) (f' a)) :
    Alike codes codes' (x >>= f) (x' >>= f') := by
  cases hx with
  | value a => exact hf a
  | brokenDown b => exact .brokenDown b
  | raised e e' f f' name he he' hsame hname hcode hcode' =>
    exact .raised e e' f f' name he he' hsame hname hcode hcode'

lemma Traced.Alike.of_outcome {x x' : Except Failure α} (hx : RouteIntake.Alike codes codes' x x') :
    Traced.Alike codes codes' (.ofOutcome x) (.ofOutcome x') := ⟨rfl, hx⟩

/-- Both conversions log as much before they end, for they go on from the same value. -/
lemma Traced.Alike.bind {t t' : Traced Failure α} {f f' : α → Traced Failure β}
    (ht : Traced.Alike codes codes' t t') (hf : ∀ a, Traced.Alike codes codes' (f a) (f' a)) :
    Traced.Alike codes codes' (t >>= f) (t' >>= f') := by
  obtain ⟨log, x⟩ := t
  obtain ⟨log', x'⟩ := t'
  obtain ⟨rfl, hx⟩ := ht
  cases hx with
  | value a => exact ⟨congrArg (log ++ ·) (hf a).log, (hf a).outcome⟩
  | brokenDown b => exact ⟨rfl, .brokenDown b⟩
  | raised e e' f f' name he he' hsame hname hcode hcode' =>
    exact ⟨rfl, .raised e e' f f' name he he' hsame hname hcode hcode'⟩

/-! ## Converters, one by one -/

lemma alike_convertProfile (d : Document) :
    Alike codes codes' (convertProfile (.withCodes kind codes) d)
      (convertProfile (.withCodes kind codes') d) :=
  .ite (.reject (Reason.unknownValue_goesBy _ _)) (.value _)

lemma alike_convertVehicle (d : Document) (profile : Int) :
    Alike codes codes' (convertVehicle (.withCodes kind codes) d profile)
      (convertVehicle (.withCodes kind codes') d profile) :=
  .ite (.value _) (.ite (.value _) (.reject (Reason.incompatible_goesBy (by decide) _ _ _)))

lemma alike_convertFeature (profile : Int) (d : Document) :
    Alike codes codes' (convertFeature (.withCodes kind codes) profile d)
      (convertFeature (.withCodes kind codes') profile d) :=
  .ite (.reject (Reason.unknownValue_goesBy _ _))
    (.ite (.value _) (.reject (Reason.incompatible_goesBy (by decide) _ _ _)))

lemma alike_convertFeatures (profile : Int) (ds : List Document) :
    Alike codes codes' (convertFeatures (.withCodes kind codes) profile ds)
      (convertFeatures (.withCodes kind codes') profile ds) := by
  induction ds with
  | nil => exact .value 0
  | cons d ds ih => exact (alike_convertFeature profile d).bind fun _ => ih.bind fun _ => .value _

lemma alike_convertFeatureList (d : Document) (profile : Int) :
    Alike codes codes' (convertFeatureList (.withCodes kind codes) d profile)
      (convertFeatureList (.withCodes kind codes') d profile) := by
  unfold convertFeatureList
  cases d.parts with
  | ok ds => exact alike_convertFeatures profile ds
  | error b => exact .brokenDown b

lemma alike_orFail (x : Except Breakdown α) :
    Alike codes codes' (Conversion.orFail x) (Conversion.orFail x) := by
  cases x with
  | ok a => exact .value a
  | error b => exact .brokenDown b

lemma Conversion.alike_vehicle (d profile : Document) :
    Alike codes codes' (Conversion.vehicle (.withCodes kind codes) d profile)
      (Conversion.vehicle (.withCodes kind codes') d profile) :=
  .ite (.value 0) ((alike_orFail _).bind fun id => alike_convertVehicle d id)

lemma Conversion.alike_features (d profile : Document) :
    Alike codes codes' (Conversion.features (.withCodes kind codes) d profile)
      (Conversion.features (.withCodes kind codes') d profile) := by
  unfold features
  cases Profile.given profile with
  | ok id => exact alike_convertFeatureList d id
  | error b =>
    refine (alike_orFail d.parts).bind fun ds => ?_
    cases ds with
    | nil => exact .value 0
    | cons first ds => exact .ite (.reject (Reason.unknownValue_goesBy _ _)) (.brokenDown b)

/-- A description is read without a handler; what was read decides what both do. -/
lemma Area.alike_ofDocument (room : Room) (d : Document) :
    Alike codes codes' (Area.ofDocument (.withCodes kind codes) room d)
      (Area.ofDocument (.withCodes kind codes') room d) := by
  have hunreadable : Alike (α := List Polygon) codes codes' (unreadable (.withCodes kind codes))
      (unreadable (.withCodes kind codes')) := .reject (Reason.unreadable_goesBy _)
  unfold ofDocument
  cases (d.field? "type").bind Document.text? with
  | none => exact hunreadable
  | some kindName =>
    cases d.field? "coordinates" with
    | none => exact hunreadable
    | some coordinates =>
      dsimp only
      cases Coordinates.ofDocument room.areas coordinates with
      | error refusal =>
        cases refusal with
        | tooDeep => exact .brokenDown .tooDeep
        | overflow => exact .brokenDown .overflow
        | notFinite => exact hunreadable
      | ok c =>
        dsimp only
        cases GeometryKind.ofName? kindName with
        | none => exact hunreadable
        | some geometry =>
          dsimp only
          cases interpret geometry c with
          | areas ps => exact .value ps
          | noArea => exact .reject (Reason.malformed_goesBy _)
          | invalid => exact hunreadable

lemma alike_validateRestrictions (rs : Restrictions) (profile : Int) :
    Alike codes codes' (validateRestrictions (.withCodes kind codes) rs profile)
      (validateRestrictions (.withCodes kind codes') rs profile) := by
  unfold validateRestrictions
  cases rs.unknownTo (Profile.category profile) with
  | nil => exact .value _
  | cons r unknown => exact .reject (Reason.unknownRestrictions_goesBy _ _)

lemma alike_encodeWord (r : Restriction) (table : List String) (d : Document) :
    Alike codes codes' (encodeWord (.withCodes kind codes) r table d)
      (encodeWord (.withCodes kind codes') r table d) := by
  cases d with
  | null => exact .value Document.null
  | text s =>
    simp only [encodeWord]
    cases Wheelchair.position? table s with
    | some n => exact .value _
    | none => exact .reject (Reason.unknownValue_goesBy _ _)
  | constant family s =>
    simp only [encodeWord]
    cases Wheelchair.position? table s with
    | some n => exact .value _
    | none => exact .reject (Reason.unknownConstant_goesBy _ _ _)
  | _ => exact .brokenDown _

lemma alike_limitsFor (rs : Restrictions) (vehicle : Document) (c : Category) :
    Alike codes codes' (limitsFor (.withCodes kind codes) rs vehicle c)
      (limitsFor (.withCodes kind codes') rs vehicle c) := by
  cases c with
  | wheelchair =>
    exact (alike_encodeWord _ _ _).bind fun _ => (alike_encodeWord _ _ _).bind fun _ =>
      (alike_encodeWord _ _ _).bind fun _ => .value _
  | _ => exact .value _

lemma alike_convertLimits (o : Options) (profile : Int) :
    Alike codes codes' (convertLimits (.withCodes kind codes) o profile)
      (convertLimits (.withCodes kind codes') o profile) := by
  rw [convertLimits_eq, convertLimits_eq]
  refine (alike_convertVehicle _ _).bind fun _ => ?_
  cases o.restrictions? with
  | none => exact .value _
  | some rs =>
    exact (alike_validateRestrictions rs profile).bind fun _ =>
      (alike_limitsFor rs _ _).bind fun _ => .value _

/-- Weightings are never rejected, so both handlers do the same with them. -/
lemma alike_applyWeightings (room : Room) (p : Parameters) (ws : Option Weightings) :
    Alike codes codes' (applyWeightings room p ws).outcome (applyWeightings room p ws).outcome := by
  cases ws with
  | none => exact .value p
  | some ws =>
    simp only [applyWeightings, Traced.outcome_bind]
    cases ha : (Weighting.applyAll room ws).outcome with
    | ok applied => exact .value (p.add applied)
    | error e =>
      obtain ⟨m, -, he⟩ := applyEach_eq_error ha
      obtain ⟨b, rfl, -⟩ := applyOne_eq_error he
      exact .brokenDown b

lemma alike_describeLimits (room : Room) (p : Parameters) :
    Alike codes codes' (describeLimits room p) (describeLimits room p) := by
  unfold describeLimits
  cases p.unshowable? room with
  | none => exact .value p
  | some b => exact .brokenDown b

lemma alike_convertParameters (room : Room) (o : Options) (profile : Int) :
    Traced.Alike codes codes' (convertParameters (.withCodes kind codes) room o profile)
      (convertParameters (.withCodes kind codes') room o profile) :=
  (Traced.Alike.of_outcome (alike_convertLimits o profile)).bind fun p =>
    .bind ⟨rfl, alike_applyWeightings room p _⟩ fun q => .of_outcome (alike_describeLimits room q)

lemma Request.alike_convertParts (room : Room) (r : Request) :
    Alike codes codes' (r.convertParts (.withCodes kind codes) room)
      (r.convertParts (.withCodes kind codes') room) := by
  refine (alike_convertProfile _).bind fun profile => (alike_convertVehicle _ _).bind fun _ =>
    .bind ?features fun _ => .bind ?areas fun _ => .value _
  case features => exact .ite (alike_convertFeatureList _ profile) (.value 0)
  case areas => exact .ite (.value []) (Area.alike_ofDocument room _)

lemma Request.alike_convert (room : Room) (r : Request) :
    Traced.Alike codes codes' (r.convert (.withCodes kind codes) room)
      (r.convert (.withCodes kind codes') room) :=
  (Traced.Alike.of_outcome (r.alike_convertParts room)).bind fun s =>
    (alike_convertParameters room _ s.profile).bind fun p =>
      ⟨rfl, .value { s with parameters := p }⟩

/-- Handlers of routes convert whole requests, and no other handler does. -/
lemma Handler.alike_convertRequest (room : Room) (r : Request) :
    Traced.Alike codes codes' ((Handler.withCodes kind codes).convertRequest room r)
      ((Handler.withCodes kind codes').convertRequest room r) := by
  cases kind with
  | generic => exact ⟨rfl, .brokenDown _⟩
  | route => exact r.alike_convert room

end RouteIntake
