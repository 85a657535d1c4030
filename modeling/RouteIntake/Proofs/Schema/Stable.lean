import RouteIntake.Proofs.Schema.Normal

/-!
# Normal forms stay as they are

A shape is stable when its normal forms pass its check unchanged, so that what has been validated
may be validated again.  Single values are stable, and so are lists, dictionaries and optional
values of what is stable.  A record is stable when each of its fields is, with its default; its
names have to be distinct, and without halves of characters (`Shape.Stable.record`).

A record looks at its members by name only, and at no others than its fields: members that give the
same fields are checked alike (`checkFields_congr`).
-/

namespace RouteIntake.Schema

/-! ## Records by their fields -/

/-- A field has the same value in members that agree on its name. -/
lemma fieldValue_congr {name : String} {presence : Presence}
    {check : Document → Except (List Issue) Document} {ms ms' : List (String × Document)}
    (h : ms.lookup name = ms'.lookup name) :
    fieldValue name presence check ms = fieldValue name presence check ms' := by
  simp only [fieldValue, h]

lemma checkFields_congr {fields : List Field} {ms ms' : List (String × Document)}
    (h : ∀ name presence shape, Field.mk name presence shape ∈ fields →
      fieldValue name presence shape.check ms = fieldValue name presence shape.check ms') :
    checkFields fields ms = checkFields fields ms' := by
  induction fields with
  | nil => rfl
  | cons field fields ih =>
    obtain ⟨name, presence, shape⟩ := field
    have hfield := h name presence shape List.mem_cons_self
    have hfields := ih fun n p s hmem => h n p s (List.mem_cons_of_mem _ hmem)
    rw [checkFields, checkFields, hfield, hfields]

/-- An open record is what its fields are: other members do not matter. -/
lemma Shape.check_open {name : String} {fields : List Field} {ms : List (String × Document)} :
    (Shape.record name false fields).check (.object ms) = (checkFields fields ms).map .object := by
  rw [Shape.check, Bool.false_and, noneUndeclared]
  cases checkFields fields ms <;> rfl

/-- The value of a field that is there is checked. -/
lemma fieldValue_of_lookup {name : String} {presence : Presence}
    {check : Document → Except (List Issue) Document} {ms : List (String × Document)}
    {d : Document} (h : ms.lookup name = some d) :
    fieldValue name presence check ms = under (.field name) (check d) := by
  simp only [fieldValue, h]

/-- There is nothing undeclared where all names are declared. -/
lemma undeclared_eq_nil {names : List String} {ms : List (String × Document)}
    (h : ∀ m ∈ ms, m.1 ∈ names) : undeclared names ms = [] := by
  rw [undeclared, List.map_eq_nil_iff, List.filter_eq_nil_iff]
  intro m hm
  simpa using h m hm

/-! ## Stable shapes -/

/-- A shape whose normal forms pass unchanged. -/
def Shape.Stable (s : Shape) : Prop := ∀ d, s.Yields d → s.check d = .ok d

/-- A field whose shape is stable, and whose default passes unchanged. -/
def Field.Stable : Field → Prop
  | .mk _ presence shape => shape.Stable ∧ ∀ d, presence = .standard d → shape.check d = .ok d

namespace Shape.Stable

lemma anything : Shape.anything.Stable := fun _ _ => rfl

lemma text : Shape.text.Stable := by
  intro d h
  obtain ⟨w, rfl⟩ := h.text
  rfl

lemma boolean : Shape.boolean.Stable := by
  intro d h
  obtain ⟨b, rfl⟩ := h.boolean
  rfl

lemma integer (bounds : List Bound) : (Shape.integer bounds).Stable := by
  intro d h
  obtain ⟨n, rfl, hn⟩ := h.integer
  show single _ (firstBroken (·.allowsInt n) bounds) = _
  rw [firstBroken_eq_ok.mpr hn]
  rfl

lemma number (bounds : List Bound) : (Shape.number bounds).Stable := by
  intro d h
  obtain ⟨x, rfl, hx⟩ := h.number
  show single _ (firstBroken (·.allows x) bounds) = _
  rw [firstBroken_eq_ok.mpr hx]
  rfl

lemma choice (values : List String) : (Shape.choice values).Stable := by
  intro d h
  obtain ⟨w, hw, rfl⟩ := h.choice
  rw [Shape.check, readChoice, if_pos (List.contains_iff_mem.mpr hw)]
  rfl

variable {s : Shape}

lemma optional (hs : s.Stable) : (Shape.optional s).Stable := by
  intro d h
  rcases h.optional with rfl | hd
  · rfl
  · cases d with
    | null => rfl
    | _ => exact hs _ hd

lemma list (hs : s.Stable) (minimum : Nat) : (Shape.list minimum s).Stable := by
  intro d h
  obtain ⟨ds, rfl, hlength, hds⟩ := h.list
  have hlong : ¬Nat.blt ds.length minimum = true := by
    rw [Nat.blt_eq]
    omega
  have hitems := gather_checkItems (fun v hv => hs v (hds v hv)) 0
  simp only [Shape.check, hitems, longEnough, if_neg hlong]

lemma dictionary (hs : s.Stable) : (Shape.dictionary s).Stable := by
  intro d h
  obtain ⟨ms, rfl, hms⟩ := h.dictionary
  simp only [Shape.check, gather_checkMembers fun m hm => hs m.2 (hms m hm)]
  rfl

/-- A record with distinct names is stable when its fields are. -/
lemma record {fields : List Field} (hn : (fields.map Field.name).Nodup)
    (hsound : ∀ n ∈ fields.map Field.name, Text.isSound n = true)
    (hf : ∀ f ∈ fields, f.Stable) (name : String) (closed : Bool) :
    (Shape.record name closed fields).Stable := by
  rintro d ⟨raw, h⟩
  obtain ⟨ms, vs, rfl, rfl, hvs⟩ := Yields.record_object h
  -- a field that was checked, or put in for an absent one, is checked to the same value again
  have hagain : checkFields fields vs = checkFields fields ms := by
    refine checkFields_congr fun n p s hmem => ?_
    obtain ⟨v, hv, hc⟩ := Yields.lookup_checkFields hvs hn hmem
    have hstable : s.check v = .ok v := by
      rcases Yields.of_fieldValue hc with hy | hp
      · exact (hf _ hmem).1 v hy
      · exact (hf _ hmem).2 v hp
    rw [hc, fieldValue_of_lookup hv, hstable]
    rfl
  have hnames := Yields.names_checkFields hvs
  have hvsSound : namesSound vs = true := by
    refine List.all_eq_true.mpr fun m hm => hsound m.1 ?_
    rw [← hnames]
    exact List.mem_map_of_mem hm
  have hdeclared : noneUndeclared closed (fields.map Field.name) vs = .ok () := by
    rw [noneUndeclared, undeclared_eq_nil fun m hm => hnames ▸ List.mem_map_of_mem hm]
    exact ite_self _
  rw [Shape.check, hvsSound, hagain, hvs, hdeclared]
  cases closed <;> rfl


end Shape.Stable

end RouteIntake.Schema
