import RouteIntake.Proofs.Outcome
import RouteIntake.Schema.Shape

/-!
# The issues that a shape can raise

`Shape.Raises` says which issues a check against a shape may report, by the way to the place: an
issue of the document itself, of a part under one more step, or of the names of a record.  Every
issue that a check reports is among them (`Shape.check_raises`), so that what holds of all issues is
shown by induction on this relation, without the check.

A path names members of the document.  Most of these names are declared by the shape; the others are
names that the document chose, and they come into a path in one way only, as undeclared fields of a
closed record (`Shape.Raises.extra_of_mem`).
-/

namespace RouteIntake.Schema

/-! ## What complaints repeat -/

/-- The texts that a complaint repeats. -/
def Complaint.quoted : Complaint → List String
  | .notChoice values => values
  | .notInstance name => [name]
  | .unknownSeverity value => [value]
  | _ => []

lemma quoted_of_readInteger {d : Document} {c : Complaint} (h : readInteger d = .error c) :
    c.quoted = [] := by
  unfold readInteger at h
  repeat' split at h
  all_goals first | cases h; rfl | cases h

lemma quoted_of_readNumber {d : Document} {c : Complaint} (h : readNumber d = .error c) :
    c.quoted = [] := by
  unfold readNumber at h
  repeat' split at h
  all_goals first | cases h; rfl | cases h

lemma quoted_of_booleanOfInteger {n : Int} {c : Complaint} (h : booleanOfInteger n = .error c) :
    c.quoted = [] := by
  unfold booleanOfInteger at h
  repeat' split at h
  all_goals first | cases h; rfl | cases h

lemma quoted_of_readBoolean {d : Document} {c : Complaint} (h : readBoolean d = .error c) :
    c.quoted = [] := by
  simp only [readBoolean] at h
  repeat' split at h
  all_goals first | exact quoted_of_booleanOfInteger h | cases h; rfl | cases h

/-- A choice repeats what may be chosen, and not what was. -/
lemma quoted_of_readChoice {values : List String} {d : Document} {c : Complaint}
    (h : readChoice values d = .error c) : c.quoted = values ∨ c.quoted = [] := by
  unfold readChoice at h
  repeat' split at h
  all_goals first | (cases h; simp [Complaint.quoted]) | cases h

lemma quoted_of_firstBroken {allowed : Bound → Bool} {bounds : List Bound} {c : Complaint}
    (h : firstBroken allowed bounds = .error c) : c.quoted = [] := by
  induction bounds with
  | nil => cases h
  | cons b bs ih =>
    rw [firstBroken] at h
    split at h
    · exact ih h
    · cases h
      rfl

/-! ## Properties of all issues -/

/-- Whether all issues that a check reports have a property. -/
def Refuses {α : Type} (P : Issue → Prop) (x : Except (List Issue) α) : Prop :=
  ∀ issues, x = .error issues → ∀ i ∈ issues, P i

section

variable {α β : Type} {P Q : Issue → Prop}

lemma refuses_ok (a : α) : Refuses P (.ok a) := by
  intro issues h
  cases h

lemma refuses_complain {c : Complaint} (h : P ⟨[], c⟩) :
    Refuses P (complain c : Except (List Issue) α) := by
  intro issues he i hi
  obtain rfl := Except.error.inj he
  rwa [List.mem_singleton.mp hi]

lemma refuses_single {make : α → Document} {x : Except Complaint α}
    (h : ∀ c, x = .error c → P ⟨[], c⟩) : Refuses P (single make x) := by
  cases x with
  | ok a => exact refuses_ok _
  | error c => exact refuses_complain (h c rfl)

lemma Refuses.imp {x : Except (List Issue) α} (h : Refuses P x) (hPQ : ∀ i, P i → Q i) :
    Refuses Q x := by
  intro issues he i hi
  exact hPQ i (h issues he i hi)

lemma Refuses.under {step : Step} {x : Except (List Issue) α}
    (h : Refuses (fun i => P (i.under step)) x) : Refuses P (under step x) := by
  cases x with
  | ok a => exact refuses_ok a
  | error es =>
    intro issues he i hi
    obtain rfl := Except.error.inj he
    obtain ⟨j, hj, rfl⟩ := List.mem_map.mp hi
    exact h es rfl j hj

lemma Refuses.map {x : Except (List Issue) α} (h : Refuses P x) {f : α → β} :
    Refuses P (x.map f) := by
  intro issues he
  exact h issues (map_eq_error.mp he)

lemma Refuses.both {x : Except (List Issue) α} {y : Except (List Issue) β} (hx : Refuses P x)
    (hy : Refuses P y) : Refuses P (both x y) := by
  cases x with
  | ok a =>
    rw [both_ok_left]
    exact hy.map
  | error es =>
    cases y with
    | ok b =>
      rw [both_ok_right]
      exact hx.map
    | error fs =>
      intro issues he i hi
      obtain rfl := Except.error.inj he
      rcases List.mem_append.mp hi with hi | hi
      · exact hx es rfl i hi
      · exact hy fs rfl i hi

lemma refuses_gather {rs : List (Except (List Issue) α)} (h : ∀ r ∈ rs, Refuses P r) :
    Refuses P (gather rs) := by
  induction rs with
  | nil => exact refuses_ok _
  | cons r rs ih =>
    have hboth := (h r List.mem_cons_self).both (ih fun s hs => h s (List.mem_cons_of_mem r hs))
    intro issues he
    rw [gather] at he
    split at he
    · cases he
    · rename_i es hes
      obtain rfl := Except.error.inj he
      exact hboth es hes

end

/-! ## The issues of a shape -/

/-- The texts that the complaints of a shape may repeat: those of the shape, and for the name of a
severity any text. -/
def Shape.Quotes : Shape → String → Prop
  | .choice values, t => t ∈ values
  | .foreign name, t => t = name
  | .severity, _ => True
  | _, _ => False

/-- The issues that a shape can raise. -/
inductive Shape.Raises : Shape → Issue → Prop
  /-- Something is wrong with the document itself. -/
  | here {s : Shape} {c : Complaint} (hs : s ≠ .anything) (hc : ∀ t ∈ c.quoted, s.Quotes t) :
    s.Raises ⟨[], c⟩
  /-- A document in place of null is wrong. -/
  | inner {s : Shape} {i : Issue} (hi : s.Raises i) : (Shape.optional s).Raises i
  /-- An item is wrong. -/
  | item {minimum index : Nat} {s : Shape} {i : Issue} (hi : s.Raises i) :
    (Shape.list minimum s).Raises (i.under (.item index))
  /-- A member of a dictionary is wrong. -/
  | member {s : Shape} {name : String} {i : Issue} (hi : s.Raises i) :
    (Shape.dictionary s).Raises (i.under (.field (listedName name)))
  /-- A field of a closed record is not declared. -/
  | undeclared {record name : String} {fields : List Field}
    (hn : name ∉ fields.map Field.name) (hsound : Text.isSound name = true) :
    (Shape.record record true fields).Raises ⟨[.field name], .extra⟩
  /-- A field that has to be there is absent. -/
  | missing {record name : String} {closed : Bool} {fields : List Field} {s : Shape}
    (hf : Field.mk name .required s ∈ fields) :
    (Shape.record record closed fields).Raises ⟨[.field name], .missing⟩
  /-- A field is wrong. -/
  | field {record name : String} {closed : Bool} {fields : List Field} {presence : Presence}
    {s : Shape} {i : Issue} (hf : Field.mk name presence s ∈ fields) (hi : s.Raises i) :
    (Shape.record record closed fields).Raises (i.under (.field name))

/-- A complaint that repeats nothing may be raised wherever anything may. -/
lemma Shape.Raises.plain {s : Shape} {c : Complaint} (hs : s ≠ .anything) (hc : c.quoted = []) :
    s.Raises ⟨[], c⟩ :=
  .here hs (by simp [hc])

lemma refuses_checkItems {check : Document → Except (List Issue) Document} {P : Issue → Prop}
    (h : ∀ (d : Document) (index : Nat), Refuses (fun i => P (i.under (.item index))) (check d))
    {start : Nat} {ds : List Document} : ∀ r ∈ checkItems check start ds, Refuses P r := by
  induction ds generalizing start with
  | nil => simp [checkItems]
  | cons d ds ih =>
    rw [checkItems, List.forall_mem_cons]
    exact ⟨(h d start).under, ih⟩

lemma refuses_checkMembers {check : Document → Except (List Issue) Document} {P : Issue → Prop}
    (h : ∀ (d : Document) (name : String),
      Refuses (fun i => P (i.under (.field (listedName name)))) (check d))
    {ms : List (String × Document)} : ∀ r ∈ checkMembers check ms, Refuses P r := by
  induction ms with
  | nil => simp [checkMembers]
  | cons m ms ih =>
    rw [checkMembers, List.forall_mem_cons]
    exact ⟨((h m.2 m.1).under).map, ih⟩

lemma refuses_noneUndeclared {closed : Bool} {names : List String} {ms : List (String × Document)}
    {P : Issue → Prop}
    (h : ∀ m ∈ ms, closed = true → m.1 ∉ names → P ⟨[.field m.1], .extra⟩) :
    Refuses P (noneUndeclared closed names ms) := by
  intro issues he i hi
  unfold noneUndeclared at he
  split at he
  · rename_i hclosed
    split at he
    · cases he
    · obtain rfl := Except.error.inj he
      obtain ⟨m, hm, rfl⟩ := List.mem_map.mp hi
      obtain ⟨hmem, hname⟩ := List.mem_filter.mp hm
      exact h m hmem hclosed (by simpa using hname)
  · cases he

lemma refuses_fieldValue {name : String} {presence : Presence}
    {check : Document → Except (List Issue) Document} {P : Issue → Prop}
    (h : ∀ d, Refuses (fun i => P (i.under (.field name))) (check d))
    (hmissing : presence = .required → P ⟨[.field name], .missing⟩)
    {ms : List (String × Document)} : Refuses P (fieldValue name presence check ms) := by
  unfold fieldValue
  split
  · exact (h _).under
  · cases presence with
    | standard d => exact refuses_ok d
    | required => exact (refuses_complain (hmissing rfl)).under

mutual

/-- **Every issue that a check reports is one that its shape can raise.** -/
lemma Shape.check_raises : ∀ (s : Shape) (d : Document), Refuses s.Raises (s.check d)
  | .anything, d => refuses_ok d
  | .text, d => by
    unfold Shape.check
    split
    · exact refuses_ok _
    · exact refuses_complain (.plain nofun rfl)
  | .boolean, d => by
    unfold Shape.check
    exact refuses_single fun c hc => .plain nofun (quoted_of_readBoolean hc)
  | .integer bounds, d => by
    unfold Shape.check
    split
    · rename_i c hc
      exact refuses_complain (.plain nofun (quoted_of_readInteger hc))
    · exact refuses_single fun c hc => .plain nofun (quoted_of_firstBroken hc)
  | .number bounds, d => by
    unfold Shape.check
    split
    · rename_i c hc
      exact refuses_complain (.plain nofun (quoted_of_readNumber hc))
    · exact refuses_single fun c hc => .plain nofun (quoted_of_firstBroken hc)
  | .choice values, d => by
    unfold Shape.check
    refine refuses_single fun c hc => ?_
    rcases quoted_of_readChoice hc with hq | hq
    · exact .here nofun fun t ht => hq ▸ ht
    · exact .plain nofun hq
  | .severity, d => by
    unfold Shape.check
    exact refuses_single fun c _ => .here nofun fun _ _ => trivial
  | .foreign name, d => by
    unfold Shape.check
    exact refuses_complain (.here nofun fun t ht => List.mem_singleton.mp ht)
  | .optional inner, d => by
    unfold Shape.check
    split
    · exact refuses_ok _
    · exact (inner.check_raises _).imp fun i hi => .inner hi
  | .list minimum item, d => by
    unfold Shape.check
    split
    · split
      · unfold longEnough
        split
        · exact refuses_complain (.plain nofun rfl)
        · exact refuses_ok _
      · rename_i issues he
        intro es hes
        obtain rfl := Except.error.inj hes
        exact refuses_gather (refuses_checkItems fun d index =>
          (item.check_raises d).imp fun i hi => .item hi) _ he
    · exact refuses_complain (.plain nofun rfl)
  | .dictionary value, d => by
    unfold Shape.check
    split
    · exact (refuses_gather (refuses_checkMembers fun d name =>
        (value.check_raises d).imp fun i hi => .member hi)).map
    · exact refuses_complain (.plain nofun rfl)
  | .record name closed fields, d => by
    unfold Shape.check
    split
    · split
      · exact refuses_complain (.plain nofun rfl)
      · rename_i ms hsound
        refine Refuses.map (.both ((checkFields_raises fields ms).imp ?_)
          (refuses_noneUndeclared ?_))
        · rintro i (⟨n, s, hf, rfl⟩ | ⟨n, p, s, j, hf, hj, rfl⟩)
          · exact .missing hf
          · exact .field hf hj
        · -- a closed record has refused names with halves by now, and an open one lists none
          rintro m hm rfl hn
          have hall : namesSound ms = true := by simpa using hsound
          exact .undeclared hn (List.all_eq_true.mp hall m hm)
    · exact refuses_complain (.plain nofun rfl)

/-- The issues of declared fields: one that has to be there is absent, or one is wrong. -/
lemma checkFields_raises : ∀ (fields : List Field) (ms : List (String × Document)),
    Refuses (fun i =>
      (∃ n s, Field.mk n .required s ∈ fields ∧ i = ⟨[.field n], .missing⟩) ∨
        ∃ n p s j, Field.mk n p s ∈ fields ∧ s.Raises j ∧ i = j.under (.field n))
      (checkFields fields ms)
  | [], _ => refuses_ok []
  | .mk name presence shape :: fields, ms => by
    rw [checkFields]
    refine Refuses.map (.both (refuses_fieldValue (fun d => ?_) ?_)
      ((checkFields_raises fields ms).imp ?_))
    · exact (shape.check_raises d).imp fun i hi =>
        Or.inr ⟨name, presence, shape, i, List.mem_cons_self, hi, rfl⟩
    · rintro rfl
      exact Or.inl ⟨name, shape, List.mem_cons_self, rfl⟩
    · rintro i (⟨n, s, hf, hi⟩ | ⟨n, p, s, j, hf, hj, hi⟩)
      · exact Or.inl ⟨n, s, List.mem_cons_of_mem _ hf, hi⟩
      · exact Or.inr ⟨n, p, s, j, List.mem_cons_of_mem _ hf, hj, hi⟩

end

/-! ## Names in paths -/

mutual

/-- Whether a shape leaves a name to undeclared fields: it declares no field of that name, and its
dictionaries do not look at what their names stand for. -/
def Shape.leavesOut (name : String) : Shape → Bool
  | .optional inner => inner.leavesOut name
  | .list _ item => item.leavesOut name
  | .dictionary .anything => true
  | .dictionary _ => false
  | .record _ _ fields => fieldsLeaveOut name fields
  | _ => true

/-- Whether declared fields leave a name to others. -/
def fieldsLeaveOut (name : String) : List Field → Bool
  | [] => true
  | .mk n _ shape :: fields => n != name && shape.leavesOut name && fieldsLeaveOut name fields

end

lemma leavesOut_of_mem {name : String} {fields : List Field} (h : fieldsLeaveOut name fields = true)
    {n : String} {p : Presence} {s : Shape} (hf : Field.mk n p s ∈ fields) :
    n ≠ name ∧ s.leavesOut name = true := by
  induction fields with
  | nil => simp at hf
  | cons field fields ih =>
    obtain ⟨n', p', s'⟩ := field
    rw [fieldsLeaveOut, Bool.and_eq_true, Bool.and_eq_true, bne_iff_ne] at h
    rcases List.mem_cons.mp hf with he | hf
    · obtain ⟨rfl, rfl, rfl⟩ := Field.mk.inj he
      exact h.1
    · exact ih h.2 hf

/-- A name that a shape leaves out comes into a path as the last step only: as the name of an
undeclared field. -/
lemma Shape.Raises.extra_of_mem {s : Shape} {i : Issue} (h : s.Raises i) {name : String}
    (hs : s.leavesOut name = true) (hname : Step.field name ∈ i.path) :
    i.complaint = .extra ∧ ∃ way, i.path = way ++ [.field name] ∧ Step.field name ∉ way := by
  induction h with
  | here => simp at hname
  | inner _ ih => exact ih hs hname
  | @item _ index _ i _ ih =>
    obtain ⟨hc, way, hway, hnot⟩ := ih hs (by simpa [Issue.under] using hname)
    exact ⟨hc, .item index :: way, by simp [Issue.under, hway], by simp [hnot]⟩
  | @member s n i hi ih =>
    -- a dictionary of other values than any would have names in the middle of a path
    cases s with
    | anything =>
      cases hi with
      | here hne _ => exact absurd rfl hne
    | _ => cases hs
  | undeclared =>
    obtain rfl := Step.field.inj (List.mem_singleton.mp hname)
    exact ⟨rfl, [], rfl, by simp⟩
  | missing hf =>
    obtain rfl := Step.field.inj (List.mem_singleton.mp hname)
    exact absurd rfl (leavesOut_of_mem hs hf).1
  | @field _ n _ _ _ _ i hf _ ih =>
    obtain ⟨hne, hinner⟩ := leavesOut_of_mem hs hf
    have hstep : Step.field name ≠ .field n := fun he => hne (Step.field.inj he).symm
    obtain ⟨hc, way, hway, hnot⟩ := ih hinner (by simpa [Issue.under, hstep] using hname)
    exact ⟨hc, .field n :: way, by simp [Issue.under, hway], by simp [hnot, hstep]⟩

end RouteIntake.Schema
