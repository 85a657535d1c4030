import Mathlib
import RouteIntake.Proofs.Outcome
import RouteIntake.Schema.Shape

/-!
# Normal forms of shapes

Validation turns a document into a normal form.  `Shape.Yields s d` says that `d` is a normal form
for the shape `s`: some document is validated to it.  For every kind of shape there is a lemma that
says what its normal forms look like; that of a record reduces each of its fields to the shape of
the field, so that the normal forms of a nested record are opened one level at a time.
-/

namespace RouteIntake.Schema

/-- A document is a normal form for a shape when validation gives it. -/
def Shape.Yields (s : Shape) (d : Document) : Prop := ∃ raw, s.check raw = .ok d

namespace Shape.Yields

/-! ## Single values -/

lemma text {d : Document} (h : Shape.text.Yields d) : ∃ w, d = .text w := by
  obtain ⟨raw, h⟩ := h
  cases raw <;> simp only [Shape.check, complain, reduceCtorEq, Except.ok.injEq] at h
  exact ⟨_, h.symm⟩

/-- A reading of a single value that succeeds is wrapped. -/
lemma single_eq_ok {α : Type} {make : α → Document} {x : Except Complaint α} {d : Document} :
    single make x = .ok d ↔ ∃ a, x = .ok a ∧ make a = d := by
  cases x with
  | error c => simp [single, complain]
  | ok a => simp [single]

lemma boolean {d : Document} (h : Shape.boolean.Yields d) : ∃ b, d = .boolean b := by
  obtain ⟨raw, h⟩ := h
  rw [Shape.check, single_eq_ok] at h
  obtain ⟨b, -, rfl⟩ := h
  exact ⟨b, rfl⟩

lemma integer {bounds : List Bound} {d : Document} (h : (Shape.integer bounds).Yields d) :
    ∃ n, d = .integer n ∧ ∀ b ∈ bounds, b.allowsInt n = true := by
  obtain ⟨raw, h⟩ := h
  rw [Shape.check] at h
  cases hn : readInteger raw with
  | error c => simp [hn, complain] at h
  | ok n =>
    simp only [hn, single_eq_ok] at h
    obtain ⟨u, hu, rfl⟩ := h
    exact ⟨n, rfl, firstBroken_eq_ok.mp hu⟩

lemma number {bounds : List Bound} {d : Document} (h : (Shape.number bounds).Yields d) :
    ∃ x, d = .number x ∧ ∀ b ∈ bounds, b.allows x = true := by
  obtain ⟨raw, h⟩ := h
  rw [Shape.check] at h
  cases hx : readNumber raw with
  | error c => simp [hx, complain] at h
  | ok x =>
    simp only [hx, single_eq_ok] at h
    obtain ⟨u, hu, rfl⟩ := h
    exact ⟨x, rfl, firstBroken_eq_ok.mp hu⟩

lemma choice {values : List String} {d : Document} (h : (Shape.choice values).Yields d) :
    ∃ w ∈ values, d = .text w := by
  obtain ⟨raw, h⟩ := h
  rw [Shape.check, single_eq_ok] at h
  obtain ⟨w, hw, rfl⟩ := h
  cases raw with
  | text s =>
    by_cases hs : values.contains s = true
    · simp only [readChoice, hs, if_true, Except.ok.injEq] at hw
      subst hw
      exact ⟨s, by simpa using hs, rfl⟩
    · simp only [readChoice, hs, Bool.false_eq_true, if_false] at hw
      split at hw <;> cases hw
  | _ => simp [readChoice] at hw

lemma optional {s : Shape} {d : Document} (h : (Shape.optional s).Yields d) :
    d = .null ∨ s.Yields d := by
  obtain ⟨raw, h⟩ := h
  cases raw with
  | null =>
    left
    simpa [Shape.check, eq_comm] using h
  | _ =>
    right
    exact ⟨_, by simpa [Shape.check] using h⟩

lemma optional_null (s : Shape) : (Shape.optional s).Yields .null := ⟨.null, by simp [Shape.check]⟩

/-! ## Lists and dictionaries -/

/-- Every one of the gathered values comes from one of the checks. -/
lemma mem_of_gather {α : Type} {rs : List (Except (List Issue) α)} {as : List α}
    (h : gather rs = .ok as) {a : α} (ha : a ∈ as) : Except.ok a ∈ rs := by
  induction rs generalizing as with
  | nil =>
    simp only [gather, Except.ok.injEq] at h
    simp [← h] at ha
  | cons r rs ih =>
    obtain ⟨b, bs, rfl, rfl, hbs⟩ := gather_cons_eq_ok.mp h
    rcases List.mem_cons.mp ha with rfl | ha
    · exact List.mem_cons_self
    · exact List.mem_cons_of_mem _ (ih hbs ha)

lemma mem_checkItems {check : Document → Except (List Issue) Document} {start : Nat}
    {ds : List Document} {v : Document} (h : Except.ok v ∈ checkItems check start ds) :
    ∃ d ∈ ds, check d = .ok v := by
  induction ds generalizing start with
  | nil => simp [checkItems] at h
  | cons d ds ih =>
    rw [checkItems, List.mem_cons] at h
    rcases h with h | h
    · exact ⟨d, List.mem_cons_self, under_eq_ok.mp h.symm⟩
    · obtain ⟨e, he, hv⟩ := ih h
      exact ⟨e, List.mem_cons_of_mem _ he, hv⟩

lemma list {minimum : Nat} {item : Shape} {d : Document} (h : (Shape.list minimum item).Yields d) :
    ∃ ds, d = .array ds ∧ minimum ≤ ds.length ∧ ∀ v ∈ ds, item.Yields v := by
  obtain ⟨raw, h⟩ := h
  cases raw with
  | array raws =>
    simp only [Shape.check] at h
    -- the items are gathered before they are counted
    cases hg : gather (checkItems item.check 0 raws) with
    | error issues => simp [hg] at h
    | ok vs =>
      simp only [hg, longEnough] at h
      split at h
      · simp [complain] at h
      · rename_i hlen
        rw [Except.ok.injEq] at h
        refine ⟨vs, h.symm, ?_, fun v hv => ?_⟩
        · simpa [Nat.blt_eq] using hlen
        · obtain ⟨e, -, he⟩ := mem_checkItems (mem_of_gather hg hv)
          exact ⟨e, he⟩
  | _ => simp [Shape.check, complain] at h

lemma mem_checkMembers {check : Document → Except (List Issue) Document}
    {ms : List (String × Document)} {m : String × Document}
    (h : Except.ok m ∈ checkMembers check ms) : ∃ d, check d = .ok m.2 := by
  induction ms with
  | nil => simp [checkMembers] at h
  | cons n ms ih =>
    rw [checkMembers, List.mem_cons] at h
    rcases h with h | h
    · obtain ⟨v, hv, rfl⟩ := map_eq_ok.mp h.symm
      exact ⟨n.2, under_eq_ok.mp hv⟩
    · exact ih h

lemma dictionary {value : Shape} {d : Document} (h : (Shape.dictionary value).Yields d) :
    ∃ ms, d = .object ms ∧ ∀ m ∈ ms, value.Yields m.2 := by
  obtain ⟨raw, h⟩ := h
  cases raw with
  | object raws =>
    rw [Shape.check] at h
    obtain ⟨ms, hms, rfl⟩ := map_eq_ok.mp h
    exact ⟨ms, rfl, fun m hm => mem_checkMembers (mem_of_gather hms hm)⟩
  | _ => simp [Shape.check, complain] at h

/-! ## Records -/

/-- The value of a declared field of a record is what its check gives. -/
lemma lookup_checkFields {fields : List Field} {ms vs : List (String × Document)}
    (h : checkFields fields ms = .ok vs) (hn : (fields.map Field.name).Nodup) {name : String}
    {presence : Presence} {shape : Shape} (hf : Field.mk name presence shape ∈ fields) :
    ∃ v, vs.lookup name = some v ∧ fieldValue name presence shape.check ms = .ok v := by
  induction fields generalizing vs with
  | nil => simp at hf
  | cons f fields ih =>
    obtain ⟨n, p, s⟩ := f
    rw [checkFields, map_eq_ok] at h
    obtain ⟨⟨v, us⟩, hb, rfl⟩ := h
    obtain ⟨hv, hus⟩ := both_eq_ok.mp hb
    rw [List.map_cons, List.nodup_cons] at hn
    -- the field is the first one, or its name is another, for no name is declared twice
    rcases List.mem_cons.mp hf with he | hmem
    · obtain ⟨rfl, rfl, rfl⟩ := Field.mk.inj he
      exact ⟨v, by simp, hv⟩
    · have hne : name ≠ n := by
        rintro rfl
        exact hn.1 (List.mem_map.mpr ⟨_, hmem, rfl⟩)
      obtain ⟨u, hu, hc⟩ := ih hus hn.2 hmem
      exact ⟨u, by rw [List.lookup_cons, beq_eq_false_iff_ne.mpr hne]; exact hu, hc⟩

/-- The fields of a record stand in the order in which they are declared. -/
lemma names_checkFields {fields : List Field} {ms vs : List (String × Document)}
    (h : checkFields fields ms = .ok vs) : vs.map Prod.fst = fields.map Field.name := by
  induction fields generalizing vs with
  | nil =>
    obtain rfl := Except.ok.inj h
    rfl
  | cons field fields ih =>
    obtain ⟨name, presence, shape⟩ := field
    rw [checkFields, map_eq_ok] at h
    obtain ⟨r, hr, rfl⟩ := h
    rw [List.map_cons, List.map_cons, ih (both_eq_ok.mp hr).2]
    rfl

/-- What a record is validated to has all of its fields in order. -/
lemma record_object {name : String} {closed : Bool} {fields : List Field} {raw d : Document}
    (h : (Shape.record name closed fields).check raw = .ok d) :
    ∃ ms vs, raw = .object ms ∧ d = .object vs ∧ checkFields fields ms = .ok vs := by
  cases raw with
  | object ms =>
    rw [Shape.check] at h
    split at h
    · simp [complain] at h
    · obtain ⟨⟨vs, u⟩, hb, rfl⟩ := map_eq_ok.mp h
      exact ⟨ms, vs, rfl, rfl, (both_eq_ok.mp hb).1⟩
  | _ => simp [Shape.check, complain] at h

/-- The value of a field is a normal form of its shape, or what the record declares for an absent
field. -/
lemma of_fieldValue {name : String} {presence : Presence} {shape : Shape}
    {ms : List (String × Document)} {v : Document}
    (h : fieldValue name presence shape.check ms = .ok v) :
    shape.Yields v ∨ presence = .standard v := by
  unfold fieldValue at h
  split at h
  · left
    exact ⟨_, under_eq_ok.mp h⟩
  · cases presence with
    | required => simp [under, complain] at h
    | standard w =>
      right
      simpa using h

/-- A field of a normal record is a normal form of its own shape, or the value that the record
declares for an absent field. -/
lemma field {name : String} {closed : Bool} {fields : List Field} {d : Document}
    (h : (Shape.record name closed fields).Yields d) (hn : (fields.map Field.name).Nodup)
    {fieldName : String} {presence : Presence} {shape : Shape}
    (hf : Field.mk fieldName presence shape ∈ fields) :
    shape.Yields (d.fieldOrNull fieldName) ∨ presence = .standard (d.fieldOrNull fieldName) := by
  obtain ⟨raw, h⟩ := h
  obtain ⟨ms, vs, -, rfl, hvs⟩ := record_object h
  obtain ⟨v, hv, hc⟩ := lookup_checkFields hvs hn hf
  have hd : (Document.object vs).fieldOrNull fieldName = v := by
    simp [Document.fieldOrNull, Document.field?, hv]
  rw [hd]
  exact of_fieldValue hc

end Shape.Yields

/-! ## Values that pass unchanged -/

/-- The items of an array that all pass a check unchanged do so together. -/
lemma gather_checkItems {check : Document → Except (List Issue) Document} {ds : List Document}
    (h : ∀ d ∈ ds, check d = .ok d) (start : Nat) :
    gather (checkItems check start ds) = .ok ds := by
  induction ds generalizing start with
  | nil => rfl
  | cons d ds ih =>
    obtain ⟨hd, hds⟩ := List.forall_mem_cons.mp h
    have hunder : under (.item start) (check d) = .ok d := by
      rw [hd]
      rfl
    rw [checkItems, hunder, gather, ih hds (start + 1)]
    rfl

/-- The members of an object that all pass a check unchanged do so together. -/
lemma gather_checkMembers {check : Document → Except (List Issue) Document}
    {ms : List (String × Document)} (h : ∀ m ∈ ms, check m.2 = .ok m.2) :
    gather (checkMembers check ms) = .ok ms := by
  induction ms with
  | nil => rfl
  | cons m ms ih =>
    obtain ⟨name, d⟩ := m
    obtain ⟨hd, hms⟩ := List.forall_mem_cons.mp h
    have hunder : under (.field (listedName name)) (check d) = .ok d := under_eq_ok.mpr hd
    rw [checkMembers, hunder, gather, ih hms]
    rfl

/-- A list of any length passes unchanged when the documents of its items do. -/
lemma Shape.check_list_map {α : Type} {item : Shape} {f : α → Document} {as : List α}
    (h : ∀ a ∈ as, item.check (f a) = .ok (f a)) :
    (Shape.list 0 item).check (.array (as.map f)) = .ok (.array (as.map f)) := by
  rw [Shape.check, gather_checkItems (List.forall_mem_map.mpr h)]
  rfl

end RouteIntake.Schema
