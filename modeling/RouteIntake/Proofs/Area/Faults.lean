import RouteIntake.Area.Geometry
import RouteIntake.Proofs.Numeral.Range

/-!
# What is wrong with coordinates

Coordinates are read from left to right, and the first fault decides.  `Coordinates.leaves` lists
what stands in nested arrays in the order of reading, and `Coordinates.fault?` says what is wrong
with it on its own; together they say what is wrong with coordinates without following the reading:

* `Coordinates.ofDocument_eq_error_iff`: coordinates are refused for the first fault of their
  leaves;
* `Area.ofDocument_eq_brokenDown_iff`: the conversion of areas is cut short exactly when the first
  fault is an integer that is too large, or a place that there is no room for.
-/

namespace RouteIntake

open Numeral

namespace Coordinates

mutual

/-- What stands in nested arrays, from left to right: values that are no arrays, and `none` for a
place that there is no room for. -/
def leaves : Nat → Document → List (Option Document)
  | 0, _ => [none]
  | room + 1, .array ds => leavesOf room ds
  | _ + 1, d => [some d]

/-- What stands in several documents, from left to right. -/
def leavesOf : Nat → List Document → List (Option Document)
  | _, [] => []
  | room, d :: ds => leaves room d ++ leavesOf room ds

end

/-- What is wrong with one leaf, if anything is. -/
def fault? : Option Document → Option Refusal
  | none => some .tooDeep
  | some (.integer n) => if Binary64.integerBound ≤ n.natAbs then some .overflow else none
  | some (.number x) => if x.isFinite then none else some .notFinite
  | some (.text s) =>
    if (Binary64.ofAnyScript? s).any Binary64.isFinite then none else some .notFinite
  | some _ => some .notFinite

lemma finiteOnly_eq_error_iff {x : Binary64} {e : Refusal} :
    finiteOnly x = .error e ↔ x.isFinite = false ∧ e = .notFinite := by
  unfold finiteOnly
  cases x.isFinite <;> simp [eq_comm]

/-- A value that is no array is refused for its own fault. -/
lemma ofLeaf_eq_error_iff {d : Document} {e : Refusal} :
    ofLeaf d = .error e ↔ fault? (some d) = some e := by
  cases d with
  | integer n =>
    cases h : Binary64.ofInt? n with
    | none => simp [ofLeaf, fault?, h, Binary64.ofInt?_eq_none_iff.mp h]
    | some x =>
      have hn : ¬Binary64.integerBound ≤ n.natAbs := by
        rw [← Binary64.ofInt?_eq_none_iff, h]
        simp
      simp [ofLeaf, fault?, h, hn]
  | number x =>
    rw [ofLeaf, finiteOnly_eq_error_iff]
    cases hx : x.isFinite <;> simp [fault?, hx, eq_comm]
  | text s =>
    cases h : Binary64.ofAnyScript? s with
    | none => simp [ofLeaf, fault?, h]
    | some x =>
      simp only [ofLeaf, h, finiteOnly_eq_error_iff]
      cases hx : x.isFinite <;> simp [fault?, h, hx, eq_comm]
  | _ => simp [ofLeaf, fault?]

mutual

/-- Coordinates are refused for the first fault of their leaves. -/
lemma ofDocument_eq_error_iff {e : Refusal} : ∀ (room : Nat) (d : Document),
    ofDocument room d = .error e ↔ (leaves room d).findSome? fault? = some e
  | 0, d => by simp [ofDocument, leaves, fault?]
  | room + 1, .array ds => by
    rw [leaves, ← ofItems_eq_error_iff room ds, ofDocument]
    cases ofItems room ds <;> simp
  | _ + 1, .null | _ + 1, .boolean _ | _ + 1, .integer _ | _ + 1, .number _ | _ + 1, .text _
  | _ + 1, .constant _ _ | _ + 1, .object _ => by
    simp only [ofDocument, leaves, List.findSome?_singleton, ofLeaf_eq_error_iff]

/-- Several coordinates are refused for the first fault of all their leaves. -/
lemma ofItems_eq_error_iff {e : Refusal} : ∀ (room : Nat) (ds : List Document),
    ofItems room ds = .error e ↔ (leavesOf room ds).findSome? fault? = some e
  | _, [] => by simp [ofItems, leavesOf]
  | room, d :: ds => by
    rw [leavesOf, List.findSome?_append, ofItems]
    cases hd : ofDocument room d with
    | error f =>
      rw [(ofDocument_eq_error_iff room d).mp hd]
      simp
    | ok c =>
      -- coordinates that are read have no fault, by the lemma for one document
      have hnone : (leaves room d).findSome? fault? = none := by
        cases hf : (leaves room d).findSome? fault? with
        | none => rfl
        | some f =>
          rw [(ofDocument_eq_error_iff room d).mpr hf] at hd
          cases hd
      rw [hnone, Option.none_or, ← ofItems_eq_error_iff room ds]
      cases ofItems room ds <;> simp

end

lemma fault?_eq_tooDeep_iff {l : Option Document} : fault? l = some .tooDeep ↔ l = none := by
  unfold fault?
  repeat' split
  all_goals simp

lemma fault?_eq_overflow_iff {l : Option Document} :
    fault? l = some .overflow ↔
      ∃ n, l = some (.integer n) ∧ Binary64.integerBound ≤ n.natAbs := by
  unfold fault?
  repeat' split
  all_goals simp_all

end Coordinates

namespace Area

/-- What cuts the conversion of an area short: it has a type and coordinates, and the first thing
wrong with the coordinates is that there is no room for them, or an integer that is too large. -/
def CutShort (room : Nat) (d : Document) (b : Breakdown) : Prop :=
  (∃ kind, (d.field? "type").bind Document.text? = some kind) ∧
    ∃ c before leaf after, d.field? "coordinates" = some c ∧
      Coordinates.leaves room c = before ++ leaf :: after ∧
      (∀ l ∈ before, Coordinates.fault? l = none) ∧
      ((leaf = none ∧ b = .tooDeep) ∨
        ∃ n, leaf = some (.integer n) ∧ Binary64.integerBound ≤ n.natAbs ∧ b = .overflow)

/-- An area is cut short when its coordinates are refused for one of two reasons. -/
lemma cutShort_iff {room : Nat} {d : Document} {b : Breakdown} :
    CutShort room d b ↔
      (∃ kind, (d.field? "type").bind Document.text? = some kind) ∧
        ∃ c, d.field? "coordinates" = some c ∧
          ((Coordinates.ofDocument room c = .error .tooDeep ∧ b = .tooDeep) ∨
            (Coordinates.ofDocument room c = .error .overflow ∧ b = .overflow)) := by
  simp only [CutShort, Coordinates.ofDocument_eq_error_iff, List.findSome?_eq_some_iff,
    Coordinates.fault?_eq_tooDeep_iff, Coordinates.fault?_eq_overflow_iff]
  constructor
  · rintro ⟨hkind, c, before, leaf, after, hc, hl, hbefore, ⟨rfl, rfl⟩ | ⟨n, rfl, hn, rfl⟩⟩
    · exact ⟨hkind, c, hc, Or.inl ⟨⟨before, none, after, hl, rfl, hbefore⟩, rfl⟩⟩
    · exact ⟨hkind, c, hc, Or.inr ⟨⟨before, _, after, hl, ⟨n, rfl, hn⟩, hbefore⟩, rfl⟩⟩
  · rintro ⟨hkind, c, hc, ⟨⟨before, leaf, after, hl, rfl, hbefore⟩, rfl⟩ |
      ⟨⟨before, leaf, after, hl, ⟨n, rfl, hn⟩, hbefore⟩, rfl⟩⟩
    · exact ⟨hkind, c, before, none, after, hc, hl, hbefore, Or.inl ⟨rfl, rfl⟩⟩
    · exact ⟨hkind, c, before, _, after, hc, hl, hbefore, Or.inr ⟨n, rfl, hn, rfl⟩⟩

/-- **When an area cannot be answered.**  The conversion of an area is cut short exactly when the
first fault of its coordinates is one that nobody refuses. -/
theorem ofDocument_eq_brokenDown_iff {kind : HandlerKind} {codes : ErrorCodes} {room : Room}
    {d : Document} {b : Breakdown} :
    ofDocument (.withCodes kind codes) room d = .error (.brokenDown b) ↔
      CutShort room.areas d b := by
  rw [cutShort_iff, ofDocument]
  cases (d.field? "type").bind Document.text? with
  | none => simp [unreadable, Handler.reject]
  | some kindName =>
    cases d.field? "coordinates" with
    | none => simp [unreadable, Handler.reject]
    | some c =>
      cases hc : Coordinates.ofDocument room.areas c with
      | error e => cases e <;> simp [hc, breakDown, unreadable, Handler.reject, eq_comm]
      | ok cs =>
        cases hkind : GeometryKind.ofName? kindName with
        | none => simp [hc, hkind, unreadable, Handler.reject]
        | some k => cases hi : interpret k cs <;> simp [hc, hkind, hi, unreadable, Handler.reject]

/-- Areas are rejected under the name of their parameter alone. -/
lemma ofDocument_eq_rejected {handler : Handler} {room : Room} {d : Document} {code : Document}
    {reason : Reason} (h : ofDocument handler room d = .error (.rejected code reason)) :
    reason = .unreadable parameterName ∨ reason = .malformed parameterName := by
  unfold ofDocument unreadable at h
  repeat' split at h
  all_goals first
    | cases h
    | exact Or.inl (Handler.eq_of_failure_eq_rejected (Except.error.inj h))
    | exact Or.inr (Handler.eq_of_failure_eq_rejected (Except.error.inj h))

end Area

end RouteIntake
