import RouteIntake.Proofs.Schema.Complaints
import RouteIntake.Proofs.Text.Sound

/-!
# What validation says can be sent

An issue names the way to a place and says what is wrong there.  Names on the way may come from the
document, and messages may list texts of the shape; the issue can be sent when all of these are free
of halves of characters (`Issue.IsSound`).  For shapes whose own texts are sound (`Shape.isSound`)
this holds of every issue, whatever the document (`Shape.check_refusesSoundly`): names of a
dictionary are listed with replacement characters, and a closed record refuses names with halves
before it lists them.
-/

namespace RouteIntake.Schema

open Text

/-! ## Messages -/

lemma isSound_alternatives {values : List String} (h : ∀ v ∈ values, isSound v = true) :
    isSound (alternatives values) = true := by
  have hquote : isPlain "'" = true := by decide
  have hor : isPlain "' or '" = true := by decide
  have hcomma : isPlain "', " = true := by decide
  fun_induction alternatives values with
  | case1 => rfl
  | case2 v =>
    rw [isSound_append_plain hquote, isSound_plain_append hquote]
    exact h v (by simp)
  | case3 v w =>
    rw [isSound_append_plain hquote, isSound_append_plain_append hor (by decide),
      isSound_plain_append hquote, h v (by simp), h w (by simp)]
    rfl
  | case4 v vs _ _ ih =>
    rw [isSound_append_plain_append hcomma (by decide), isSound_plain_append hquote, h v (by simp),
      ih fun u hu => h u (List.mem_cons_of_mem v hu)]
    rfl

/-- The message of a complaint in a body is sound when the texts that it repeats are. -/
lemma Complaint.isSound_message {c : Complaint} (h : ∀ s ∈ c.quoted, isSound s = true) :
    isSound (c.message .unnamed) = true := by
  cases c with
  | notChoice values =>
    show isSound ("Input should be " ++ alternatives values) = true
    rw [isSound_plain_append (by decide +kernel)]
    exact isSound_alternatives h
  | notInstance name =>
    show isSound ("Input should be an instance of " ++ name) = true
    rw [isSound_plain_append (by decide +kernel)]
    exact h name (by simp [quoted])
  | unknownSeverity value =>
    show isSound ("Value error, " ++ ("Unknown log level: " ++ value)) = true
    rw [isSound_plain_append (by decide +kernel), isSound_plain_append (by decide +kernel)]
    exact h value (by simp [quoted])
  | tooShort minimum actual =>
    show isSound ("List should have at least " ++ minimum.repr ++ " items after validation, not " ++
      actual.repr) = true
    rw [isSound_append_plain (isPlain_repr actual), isSound_append_plain (by decide +kernel),
      isSound_append_plain (isPlain_repr minimum)]
    decide +kernel
  | outOfBound bound =>
    cases bound with
    | atMost n =>
      show isSound ("Input should be less than or equal to " ++ toString n) = true
      rw [isSound_plain_append (by decide +kernel)]
      exact isSound_of_isPlain (isPlain_toString_int n)
    | atLeast n =>
      show isSound ("Input should be greater than or equal to " ++ toString n) = true
      rw [isSound_plain_append (by decide +kernel)]
      exact isSound_of_isPlain (isPlain_toString_int n)
    | above n =>
      show isSound ("Input should be greater than " ++ toString n) = true
      rw [isSound_plain_append (by decide +kernel)]
      exact isSound_of_isPlain (isPlain_toString_int n)
  | notRecord name =>
    show isSound "Input should be a valid dictionary or object to extract fields from" = true
    exact isSound_of_isPlain (by decide +kernel)
  | _ => exact isSound_of_isPlain (by decide +kernel)

/-! ## Issues -/

/-- Whether an issue can be sent: no name on its path and nothing in its message has half of a
character. -/
def Issue.IsSound (i : Issue) : Prop :=
  (∀ name, Step.field name ∈ i.path → Text.isSound name = true) ∧
    Text.isSound (i.complaint.message .unnamed) = true

/-- Whether the issues of a check can all be sent. -/
def RefusesSoundly {α : Type} (x : Except (List Issue) α) : Prop :=
  ∀ issues, x = .error issues → ∀ i ∈ issues, i.IsSound

variable {α : Type}

/-- An issue that can be sent can be sent from further up, where the step there can. -/
lemma Issue.IsSound.under {i : Issue} (h : i.IsSound) {step : Step}
    (hstep : ∀ name, step = .field name → Text.isSound name = true) : (i.under step).IsSound := by
  refine ⟨fun name hname => ?_, h.2⟩
  rcases List.mem_cons.mp hname with hname | hname
  · exact hstep name hname.symm
  · exact h.1 name hname

lemma refusesSoundly_complain {c : Complaint} (h : ∀ s ∈ c.quoted, isSound s = true) :
    RefusesSoundly (complain c : Except (List Issue) α) :=
  refuses_complain ⟨by simp, Complaint.isSound_message h⟩

lemma RefusesSoundly.under {x : Except (List Issue) α} (h : RefusesSoundly x) {step : Step}
    (hstep : ∀ name, step = .field name → isSound name = true) :
    RefusesSoundly (under step x) :=
  Refuses.under (Refuses.imp h fun _ hi => hi.under hstep)

/-! ## Shapes -/

mutual

/-- Whether the texts of a shape that its issues repeat are sound.  The name of a severity is
repeated as it was sent, so that a shape that asks for one is not. -/
def Shape.isSound : Shape → Bool
  | .choice values => values.all Text.isSound
  | .severity => false
  | .foreign name => Text.isSound name
  | .optional inner => inner.isSound
  | .list _ item => item.isSound
  | .dictionary value => value.isSound
  | .record _ _ fields => fieldsSound fields
  | _ => true

/-- Whether declared fields are sound, with their names. -/
def fieldsSound : List Field → Bool
  | [] => true
  | .mk name _ shape :: fields => Text.isSound name && shape.isSound && fieldsSound fields

end

/-- A name is listed without halves. -/
lemma isSound_listedName (name : String) : isSound (listedName name) = true := by
  have hlisted : ∀ n ∈ (codes name.toList).flatMap fun n =>
      if isHalf n then List.replicate 3 0xfffd else [n], isCode n ∧ isHalf n = false := by
    intro n hn
    obtain ⟨m, hm, hn⟩ := List.mem_flatMap.mp hn
    split at hn
    · rw [(List.mem_replicate.mp hn).2]
      exact ⟨by simp [isCode], by decide⟩
    · rename_i hhalf
      rw [List.mem_singleton.mp hn]
      exact ⟨isCode_of_mem_codes hm, by simpa using hhalf⟩
  exact isSound_ofCodes (fun n hn => (hlisted n hn).1) fun n hn => (hlisted n hn).2

lemma isSound_of_mem {fields : List Field} (h : fieldsSound fields = true) {n : String}
    {p : Presence} {s : Shape} (hf : Field.mk n p s ∈ fields) :
    Text.isSound n = true ∧ s.isSound = true := by
  induction fields with
  | nil => simp at hf
  | cons field fields ih =>
    obtain ⟨n', p', s'⟩ := field
    rw [fieldsSound, Bool.and_eq_true, Bool.and_eq_true] at h
    rcases List.mem_cons.mp hf with he | hf
    · obtain ⟨rfl, rfl, rfl⟩ := Field.mk.inj he
      exact h.1
    · exact ih h.2 hf

/-- The texts of a sound shape that its complaints repeat are sound. -/
lemma Shape.isSound_of_quotes {s : Shape} (hs : s.isSound = true) {t : String} (ht : s.Quotes t) :
    Text.isSound t = true := by
  cases s with
  | choice values => exact List.all_eq_true.mp hs t ht
  | foreign name =>
    obtain rfl : t = name := ht
    exact hs
  | severity => cases hs
  | _ => cases ht

/-- An issue about one field itself can be sent when the name of the field can. -/
lemma Issue.isSound_field {name : String} (hname : Text.isSound name = true) {c : Complaint}
    (hc : c.quoted = []) : Issue.IsSound ⟨[.field name], c⟩ := by
  refine ⟨fun n hn => ?_, Complaint.isSound_message (by simp [hc])⟩
  rw [Step.field.inj (List.mem_singleton.mp hn)]
  exact hname

/-- The issues that a sound shape can raise can be sent. -/
lemma Shape.Raises.isSound {s : Shape} {i : Issue} (h : s.Raises i) (hs : s.isSound = true) :
    i.IsSound := by
  induction h with
  | here _ hc =>
    exact ⟨by simp, Complaint.isSound_message fun t ht => Shape.isSound_of_quotes hs (hc t ht)⟩
  | inner _ ih => exact ih hs
  | item _ ih => exact (ih hs).under nofun
  | @member _ name _ _ ih =>
    refine (ih hs).under fun n hn => ?_
    rw [← Step.field.inj hn]
    exact isSound_listedName name
  | undeclared _ hname => exact Issue.isSound_field hname rfl
  | missing hf => exact Issue.isSound_field (isSound_of_mem hs hf).1 rfl
  | field hf _ ih =>
    obtain ⟨hname, hinner⟩ := isSound_of_mem hs hf
    refine (ih hinner).under fun n hn => ?_
    rw [← Step.field.inj hn]
    exact hname

/-- **Every issue of a sound shape can be sent**, whatever the document. -/
lemma Shape.check_refusesSoundly (s : Shape) (hs : s.isSound = true) (d : Document) :
    RefusesSoundly (s.check d) :=
  (s.check_raises d).imp fun _ hi => hi.isSound hs

end RouteIntake.Schema
