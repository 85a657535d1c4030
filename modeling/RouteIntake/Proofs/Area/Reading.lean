import RouteIntake.Proofs.Area.Description
import RouteIntake.Proofs.Area.Faults

/-!
# What areas are read from

`Document.leaves` is what stands in nested arrays, however deep, and `Coordinates.Unfit` says which
of it is never a coordinate.  One such leaf is enough for a refusal, whatever the other leaves are.

The main statement, `Area.ofDocument_described_iff`, puts this together with what describes areas:
coordinates with an unfit leaf are refused, and all others are read as what they describe.  Not
every unfit leaf is reported, though: a place deeper than there is room for may come before it, and
nobody refuses that.
-/

namespace RouteIntake

open Numeral

/-! ## What stands in nested arrays -/

namespace Document

mutual

/-- What stands in nested arrays, from left to right, however deep. -/
def leaves : Document → List Document
  | .array ds => leavesOf ds
  | d => [d]

/-- What stands in several documents, from left to right. -/
def leavesOf : List Document → List Document
  | [] => []
  | d :: ds => leaves d ++ leavesOf ds

end

mutual

/-- How many levels of reading nested arrays take: one for each level of arrays, and one for what
stands in them. -/
def levels : Document → Nat
  | .array ds => levelsOf ds + 1
  | _ => 1

/-- How many levels the deepest of several documents takes. -/
def levelsOf : List Document → Nat
  | [] => 0
  | d :: ds => max (levels d) (levelsOf ds)

end

end Document

namespace Coordinates

/-- Values that are never a coordinate. -/
inductive Unfit : Document → Prop
  /-- Null. -/
  | null : Unfit .null
  /-- A truth value, although it could count as a number. -/
  | boolean (b : Bool) : Unfit (.boolean b)
  /-- A constant. -/
  | constant (family value : String) : Unfit (.constant family value)
  /-- An object. -/
  | object (ms : List (String × Document)) : Unfit (.object ms)
  /-- A number that is not finite. -/
  | number (x : Binary64) (h : x.isFinite = false) : Unfit (.number x)
  /-- A text that is no number, or not a finite one. -/
  | text (s : String) (h : ∀ x, Binary64.ofAnyScript? s = some x → x.isFinite = false) :
    Unfit (.text s)

lemma Unfit.fault?_eq {d : Document} (h : Unfit d) : fault? (some d) = some .notFinite := by
  cases h with
  | number x h => simp [fault?, h]
  | text s h =>
    cases hs : Binary64.ofAnyScript? s with
    | none => simp [fault?, hs]
    | some x => simp [fault?, hs, h x hs]
  | _ => rfl

mutual

/-- Where there is room for all levels, every leaf is come to. -/
lemma leaves_eq_map_some : ∀ (room : Nat) (d : Document), d.levels ≤ room →
    leaves room d = d.leaves.map some
  | 0, d, h => by
    cases d <;> simp [Document.levels] at h
  | room + 1, .array ds, h => by
    rw [leaves, Document.leaves]
    exact leavesOf_eq_map_some room ds (Nat.le_of_succ_le_succ h)
  | _ + 1, .null, _ | _ + 1, .boolean _, _ | _ + 1, .integer _, _ | _ + 1, .number _, _
  | _ + 1, .text _, _ | _ + 1, .constant _ _, _ | _ + 1, .object _, _ => rfl

lemma leavesOf_eq_map_some : ∀ (room : Nat) (ds : List Document), Document.levelsOf ds ≤ room →
    leavesOf room ds = (Document.leavesOf ds).map some
  | _, [], _ => rfl
  | room, d :: ds, h => by
    obtain ⟨hd, hds⟩ := max_le_iff.mp h
    rw [leavesOf, Document.leavesOf, List.map_append, leaves_eq_map_some room d hd,
      leavesOf_eq_map_some room ds hds]

end

mutual

/-- Where there is not room for all levels, some place is not come to. -/
lemma none_mem_leaves : ∀ (room : Nat) (d : Document), room < d.levels → none ∈ leaves room d
  | 0, _, _ => by simp [leaves]
  | room + 1, .array ds, h => by
    rw [leaves]
    exact none_mem_leavesOf room ds (Nat.lt_of_succ_lt_succ h)
  | room + 1, .null, h | room + 1, .boolean _, h | room + 1, .integer _, h
  | room + 1, .number _, h | room + 1, .text _, h | room + 1, .constant _ _, h
  | room + 1, .object _, h => by
    simp [Document.levels] at h

lemma none_mem_leavesOf : ∀ (room : Nat) (ds : List Document), room < Document.levelsOf ds →
    none ∈ leavesOf room ds
  | _, [], h => by simp [Document.levelsOf] at h
  | room, d :: ds, h => by
    rw [leavesOf, List.mem_append]
    rcases lt_max_iff.mp h with hd | hds
    · exact Or.inl (none_mem_leaves room d hd)
    · exact Or.inr (none_mem_leavesOf room ds hds)

end

mutual

/-- What is come to is a leaf. -/
lemma mem_leaves_of_some_mem {l : Document} : ∀ (room : Nat) (d : Document),
    some l ∈ leaves room d → l ∈ d.leaves
  | 0, _, h => by simp [leaves] at h
  | room + 1, .array ds, h => by
    rw [leaves] at h
    exact mem_leavesOf_of_some_mem room ds h
  | _ + 1, .null, h | _ + 1, .boolean _, h | _ + 1, .integer _, h | _ + 1, .number _, h
  | _ + 1, .text _, h | _ + 1, .constant _ _, h | _ + 1, .object _, h => by
    simpa [leaves, Document.leaves] using h

lemma mem_leavesOf_of_some_mem {l : Document} : ∀ (room : Nat) (ds : List Document),
    some l ∈ leavesOf room ds → l ∈ Document.leavesOf ds
  | _, [], h => by simp [leavesOf] at h
  | room, d :: ds, h => by
    rw [leavesOf, List.mem_append] at h
    rw [Document.leavesOf, List.mem_append]
    rcases h with h | h
    · exact Or.inl (mem_leaves_of_some_mem room d h)
    · exact Or.inr (mem_leavesOf_of_some_mem room ds h)

end

/-- One leaf that is never a coordinate spoils all coordinates, unless a place that there is no room
for comes first. -/
lemma ofDocument_of_unfit (room : Nat) {c l : Document}
    (hsmall : ∀ n, .integer n ∈ c.leaves → n.natAbs < Binary64.integerBound) (hl : l ∈ c.leaves)
    (hu : Unfit l) :
    ofDocument room c = .error .notFinite ∨
      (ofDocument room c = .error .tooDeep ∧ room < c.levels) := by
  simp only [ofDocument_eq_error_iff]
  -- there is a fault: that of the leaf, or of a place that is too deep
  obtain ⟨place, hplace, hfault⟩ : ∃ place ∈ leaves room c, fault? place ≠ none := by
    rcases Nat.lt_or_ge room c.levels with hdeep | hroom
    · exact ⟨none, none_mem_leaves room c hdeep, by simp [fault?]⟩
    · refine ⟨some l, ?_, by simp [hu.fault?_eq]⟩
      rw [leaves_eq_map_some room c hroom]
      exact List.mem_map_of_mem hl
  obtain ⟨e, he⟩ : ∃ e, (leaves room c).findSome? fault? = some e := by
    rw [← Option.ne_none_iff_exists']
    intro hnone
    exact hfault (List.findSome?_eq_none_iff.mp hnone place hplace)
  obtain ⟨first, hfirst, hfault⟩ := List.exists_of_findSome?_eq_some he
  cases e with
  | notFinite => exact Or.inl he
  | tooDeep =>
    right
    refine ⟨he, ?_⟩
    by_contra hroom
    rw [fault?_eq_tooDeep_iff.mp hfault,
      leaves_eq_map_some room c (Nat.le_of_not_lt hroom)] at hfirst
    simp at hfirst
  | overflow =>
    obtain ⟨n, rfl, hn⟩ := fault?_eq_overflow_iff.mp hfault
    exact absurd hn (Nat.not_le_of_lt (hsmall n (mem_leaves_of_some_mem room c hfirst)))

end Coordinates

namespace Area

open Coordinates

/-! ## Refusals -/

/-- One leaf that is never a coordinate spoils the areas of any kind, unless the conversion is cut
short before. -/
lemma ofDocument_of_unfit (handler : Handler) (room : Room) {c l : Document}
    (hsmall : ∀ n, .integer n ∈ c.leaves → n.natAbs < Binary64.integerBound) (hl : l ∈ c.leaves)
    (hu : Unfit l) (kind : String) :
    (ofDocument handler room (described kind c) = unreadable handler ∧
        ¬CutShort room.areas (described kind c) .tooDeep) ∨
      (ofDocument handler room (described kind c) = breakDown .tooDeep ∧
        CutShort room.areas (described kind c) .tooDeep ∧ room.areas < c.levels) := by
  simp only [ofDocument, field?_type_described, field?_coordinates_described, Option.bind_some,
    Document.text?, cutShort_iff]
  rcases Coordinates.ofDocument_of_unfit room.areas hsmall hl hu with hc | ⟨hc, hdeep⟩
  · left
    simp [hc]
  · right
    simp [hc, hdeep]

/-- **What areas are read from.**  Coordinates are given together with any text for their kind, and
their integers are no larger than a number can be.

One leaf that is null, a truth value, an object, a constant, a number that is not finite or a text
that is no finite number has the areas refused as unreadable, whatever the kind and the other leaves
are.  There is one exception: where the first thing wrong is a place that there is no room for, the
conversion breaks down instead, so the refusal is sure where there is room for all levels.

When areas are read, they are what the coordinates describe as a polygon or as several, and all
their numbers are finite; and what is described so is read wherever there is room for it. -/
theorem ofDocument_described_iff (handler : Handler) (room : Room) {c : Document}
    (hsmall : ∀ n, .integer n ∈ c.leaves → n.natAbs < Binary64.integerBound) (kind : String) :
    ((∃ l ∈ c.leaves, Unfit l) →
        ((ofDocument handler room (described kind c) = unreadable handler ∧
            ¬CutShort room.areas (described kind c) .tooDeep) ∨
          (ofDocument handler room (described kind c) = breakDown .tooDeep ∧
            CutShort room.areas (described kind c) .tooDeep)) ∧
        (c.levels ≤ room.areas →
          ofDocument handler room (described kind c) = unreadable handler)) ∧
      (∀ ps, ofDocument handler room (described kind c) = .ok ps →
        DescribesAreas kind c ps ∧ ∀ p ∈ ps, IsFinite p) ∧
      (leastRoom ≤ room.areas → ∀ ps, DescribesAreas kind c ps →
        ofDocument handler room (described kind c) = .ok ps) := by
  refine ⟨?_, fun ps hps => ?_, fun hroom ps => (ofDocument_described_eq_ok_iff hroom).mpr⟩
  · rintro ⟨l, hl, hu⟩
    rcases ofDocument_of_unfit handler room hsmall hl hu kind with hrefused | ⟨hbroken, hcut, hdeep⟩
    · exact ⟨Or.inl hrefused, fun _ => hrefused.1⟩
    · exact ⟨Or.inr ⟨hbroken, hcut⟩, fun hroom => absurd hdeep (Nat.not_lt_of_le hroom)⟩
  · have hareas := describesAreas_of_ofDocument hps
    exact ⟨hareas, isFinite_of_describesAreas hareas⟩

/-- A value in so many arrays, one in the other. -/
def nested : Nat → Document → Document
  | 0, d => d
  | n + 1, d => .array [nested n d]

lemma leaves_nested (n : Nat) (d : Document) : (nested n d).leaves = d.leaves := by
  induction n with
  | zero => rfl
  | succ n ih => simp [nested, Document.leaves, Document.leavesOf, ih]

/-- What is nested deeper than there is room for is not looked at. -/
lemma leaves_nested_of_le {levels n : Nat} (h : levels ≤ n) (d : Document) :
    Coordinates.leaves levels (nested n d) = [none] := by
  induction levels generalizing n with
  | zero => rw [leaves]
  | succ levels ih =>
    obtain ⟨k, rfl⟩ : ∃ k, n = k + 1 := Nat.exists_eq_add_of_le' ((Nat.succ_pos levels).trans_le h)
    rw [nested, leaves, leavesOf, leavesOf, List.append_nil, ih (Nat.le_of_succ_le_succ h)]

/-- Null is refused under a name of no kind.  A truth value in six hundred arrays is not come to,
and a triangle is read as the polygon that it describes. -/
theorem ofDocument_described_nested :
    let handler := Handler.standard .route
    ofDocument handler .hundred (described "Circle" (.array [.integer 1, .array [.null]])) =
        unreadable handler ∧
      ofDocument handler .hundred (described "Polygon" (nested 600 (.boolean true))) =
        breakDown .tooDeep ∧
      ∃ p, DescribesPolygon triangle p ∧ IsFinite p ∧
        ofDocument handler .hundred (described "polygon" triangle) = .ok [p] := by
  intro handler
  refine ⟨?_, ?_, ?_⟩
  · have hleaves : (Document.array [.integer 1, .array [.null]]).leaves = [.integer 1, .null] := rfl
    have hsmall : ∀ n, .integer n ∈ (Document.array [.integer 1, .array [.null]]).leaves →
        n.natAbs < Binary64.integerBound := by
      intro n hn
      rw [hleaves] at hn
      obtain rfl : n = 1 := by simpa using hn
      decide +kernel
    obtain ⟨hrefused, -⟩ := ofDocument_described_iff handler .hundred hsmall "Circle"
    exact (hrefused ⟨.null, by simp [hleaves], .null⟩).2 (by decide)
  · have hleaves : (nested 600 (.boolean true)).leaves = [.boolean true] := leaves_nested 600 _
    have hsmall : ∀ n, .integer n ∈ (nested 600 (.boolean true)).leaves →
        n.natAbs < Binary64.integerBound := by
      intro n hn
      rw [hleaves] at hn
      simp at hn
    have hcut : CutShort 100 (described "Polygon" (nested 600 (.boolean true))) .tooDeep :=
      ⟨⟨"Polygon", rfl⟩, nested 600 (.boolean true), [], none, [], rfl,
        leaves_nested_of_le (by decide) _, by simp, Or.inl ⟨rfl, rfl⟩⟩
    obtain ⟨hrefused, -⟩ := ofDocument_described_iff handler .hundred hsmall "Polygon"
    rcases (hrefused ⟨.boolean true, by simp [hleaves], .boolean true⟩).1 with ⟨-, hnot⟩ | hbroken
    · exact absurd hcut hnot
    · exact hbroken.1
  · have hsmall : ∀ n, .integer n ∈ triangle.leaves → n.natAbs < Binary64.integerBound := by
      intro n hn
      have hn : n = 0 ∨ n = 1 := by
        simp only [triangle, Document.leaves, Document.leavesOf] at hn
        simp at hn
        omega
      rcases hn with rfl | rfl <;> decide +kernel
    obtain ⟨-, hread, -⟩ := ofDocument_described_iff handler .hundred hsmall "polygon"
    cases htriangle : ofDocument handler .hundred (described "polygon" triangle) with
    | error e =>
      have hfine : (ofDocument handler .hundred (described "polygon" triangle)).isOk = true := by
        decide +kernel
      rw [htriangle] at hfine
      cases hfine
    | ok ps =>
      obtain ⟨hareas, hfinite⟩ := hread ps htriangle
      rcases hareas with ⟨-, p, rfl, hp⟩ | ⟨hkind, -⟩
      · exact ⟨p, hp, hfinite p (List.mem_singleton_self p), rfl⟩
      · exact absurd hkind (by decide)

end Area

end RouteIntake
