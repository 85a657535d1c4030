import Mathlib
import RouteIntake.Area.Geometry
import RouteIntake.Proofs.Outcome

/-!
# Collections of polygons and their members

A collection of polygons is read all at once: its coordinates, then each member as a polygon.  What
it gives is compared here with what its members give on their own.  They agree but for one thing.
Whether a geometry is empty is asked of the whole: a polygon on its own is refused when it is empty,
but among others it is let through, and the collection has an empty polygon in its place.

The reading of coordinates is seen item by item (`Coordinates.ofItems_eq_ok_iff`), and it does not
depend on the room there is, as long as there is enough (`Coordinates.ofDocument_of_levels_le`).

* `Area.convertPolygons_eq_ok_iff`: what a collection of polygons becomes, member by member, and
  when it is converted exactly as its members are.
-/

namespace RouteIntake

/-! ## Lists item by item -/

/-- Items are mapped to values one by one. -/
lemma mapM_eq_some_iff {α β : Type} {f : α → Option β} {as : List α} {bs : List β} :
    as.mapM f = some bs ↔ List.Forall₂ (fun a b => f a = some b) as bs := by
  induction as generalizing bs with
  | nil => cases bs <;> simp
  | cons a as ih =>
    rw [List.mapM_cons]
    cases bs with
    | nil =>
      cases f a <;> cases as.mapM f <;> simp
    | cons b bs =>
      rw [List.forall₂_cons, ← ih]
      cases f a <;> cases as.mapM f <;> simp

/-- Two relations that hold item by item hold item by item together. -/
lemma exists_forall₂_and_forall₂_iff {α β γ : Type} {R : α → β → Prop} {S : β → γ → Prop}
    {as : List α} {cs : List γ} :
    (∃ bs, List.Forall₂ R as bs ∧ List.Forall₂ S bs cs) ↔
      List.Forall₂ (fun a c => ∃ b, R a b ∧ S b c) as cs := by
  constructor
  · rintro ⟨bs, hR, hS⟩
    induction hR generalizing cs with
    | nil =>
      cases hS
      exact .nil
    | cons hab _ ih =>
      obtain ⟨c, cs', hbc, hrest, rfl⟩ := List.forall₂_cons_left_iff.mp hS
      exact .cons ⟨_, hab, hbc⟩ (ih hrest)
  · intro h
    induction h with
    | nil => exact ⟨[], .nil, .nil⟩
    | cons hac _ ih =>
      obtain ⟨b, hab, hbc⟩ := hac
      obtain ⟨bs, hR, hS⟩ := ih
      exact ⟨b :: bs, .cons hab hR, .cons hbc hS⟩

/-- Every item on the left has a partner on the right. -/
lemma exists_right_of_forall₂ {α β : Type} {R : α → β → Prop} {as : List α} {bs : List β}
    (h : List.Forall₂ R as bs) {a : α} (ha : a ∈ as) : ∃ b ∈ bs, R a b := by
  induction h with
  | nil => cases ha
  | cons hab _ ih =>
    rcases List.mem_cons.mp ha with rfl | ha
    · exact ⟨_, List.mem_cons_self, hab⟩
    · obtain ⟨b, hb, hR⟩ := ih ha
      exact ⟨b, List.mem_cons_of_mem _ hb, hR⟩

/-- Every item on the right has a partner on the left. -/
lemma exists_left_of_forall₂ {α β : Type} {R : α → β → Prop} {as : List α} {bs : List β}
    (h : List.Forall₂ R as bs) {b : β} (hb : b ∈ bs) : ∃ a ∈ as, R a b :=
  exists_right_of_forall₂ (R := flip R) h.flip hb

/-- Where every item has a partner, there is a list of partners. -/
lemma exists_forall₂ {α β : Type} {R : α → β → Prop} {as : List α} (h : ∀ a ∈ as, ∃ b, R a b) :
    ∃ bs, List.Forall₂ R as bs := by
  induction as with
  | nil => exact ⟨[], .nil⟩
  | cons a as ih =>
    rw [List.forall_mem_cons] at h
    obtain ⟨b, hb⟩ := h.1
    obtain ⟨bs, hbs⟩ := ih h.2
    exact ⟨b :: bs, .cons hb hbs⟩

lemma forall₂_replicate {α β : Type} {R : α → β → Prop} {a : α} {b : β} (h : R a b) (n : Nat) :
    List.Forall₂ R (List.replicate n a) (List.replicate n b) := by
  induction n with
  | zero => exact .nil
  | succ n ih => exact .cons h ih

/-! ## The reading of coordinates -/

namespace Coordinates

/-- The items of an array are read one by one. -/
lemma ofItems_eq_ok_iff {room : Nat} {ds : List Document} {cs : List Coordinates} :
    ofItems room ds = .ok cs ↔ List.Forall₂ (fun d c => ofDocument room d = .ok c) ds cs := by
  induction ds generalizing cs with
  | nil => cases cs <;> simp [ofItems]
  | cons d ds ih =>
    rw [ofItems]
    cases hd : ofDocument room d with
    | error e => cases cs <;> simp [hd]
    | ok c =>
      cases hds : ofItems room ds with
      | error e => cases cs <;> simp [hd, ← ih, hds]
      | ok cs' => cases cs <;> simp [hd, ← ih, hds]

lemma ofDocument_array_eq_ok_iff {room : Nat} {ds : List Document} {c : Coordinates} :
    ofDocument (room + 1) (.array ds) = .ok c ↔ ∃ cs, ofItems room ds = .ok cs ∧ c = .group cs := by
  rw [ofDocument]
  cases ofItems room ds <;> simp [eq_comm]

lemma finiteOnly_ne_group (x : Numeral.Binary64) (cs : List Coordinates) :
    finiteOnly x ≠ .ok (.group cs) := by
  unfold finiteOnly
  split <;> simp

/-- Only an array is read as an array. -/
lemma exists_array_of_group {room : Nat} {d : Document} {cs : List Coordinates}
    (h : ofDocument room d = .ok (.group cs)) :
    ∃ r ds, room = r + 1 ∧ d = .array ds ∧ ofItems r ds = .ok cs := by
  cases room with
  | zero => simp [ofDocument] at h
  | succ r =>
    cases d with
    | array ds =>
      obtain ⟨cs', hcs, hc⟩ := ofDocument_array_eq_ok_iff.mp h
      obtain rfl := group.inj hc
      exact ⟨r, ds, rfl, rfl, hcs⟩
    | integer n =>
      simp only [ofDocument, ofLeaf] at h
      split at h <;> cases h
    | number x => exact absurd h (finiteOnly_ne_group x cs)
    | text s =>
      simp only [ofDocument, ofLeaf] at h
      split at h
      · exact absurd h (finiteOnly_ne_group _ cs)
      · cases h
    | _ => cases h

mutual

/-- How many levels of reading coordinates take. -/
def levels : Coordinates → Nat
  | .value _ => 1
  | .group cs => levelsOf cs + 1

/-- How many levels the deepest of several coordinates takes. -/
def levelsOf : List Coordinates → Nat
  | [] => 0
  | c :: cs => max (levels c) (levelsOf cs)

end

lemma levels_pos (c : Coordinates) : 0 < c.levels := by
  cases c <;> simp [levels]

lemma levelsOf_le {cs : List Coordinates} {k : Nat} (h : ∀ c ∈ cs, c.levels ≤ k) :
    levelsOf cs ≤ k := by
  induction cs with
  | nil => exact Nat.zero_le k
  | cons c cs ih =>
    rw [List.forall_mem_cons] at h
    exact max_le h.1 (ih h.2)

mutual

/-- Coordinates are read in the same way wherever there is room for their levels. -/
lemma ofDocument_of_levels_le {r' : Nat} {c : Coordinates} : ∀ (r : Nat) (d : Document),
    ofDocument r d = .ok c → c.levels ≤ r' → ofDocument r' d = .ok c
  | 0, _, h, _ => by simp [ofDocument] at h
  | r + 1, .array ds, h, hle => by
    obtain ⟨cs, hcs, rfl⟩ := ofDocument_array_eq_ok_iff.mp h
    obtain ⟨k, rfl⟩ : ∃ k, r' = k + 1 := Nat.exists_eq_add_of_le' ((levels_pos _).trans_le hle)
    exact ofDocument_array_eq_ok_iff.mpr
      ⟨cs, ofItems_of_levels_le r ds hcs (Nat.le_of_succ_le_succ hle), rfl⟩
  | _ + 1, .null, h, hle | _ + 1, .boolean _, h, hle | _ + 1, .integer _, h, hle
  | _ + 1, .number _, h, hle | _ + 1, .text _, h, hle | _ + 1, .constant _ _, h, hle
  | _ + 1, .object _, h, hle => by
    obtain ⟨k, rfl⟩ : ∃ k, r' = k + 1 := Nat.exists_eq_add_of_le' ((levels_pos _).trans_le hle)
    exact h

lemma ofItems_of_levels_le {r' : Nat} : ∀ (r : Nat) (ds : List Document) {cs : List Coordinates},
    ofItems r ds = .ok cs → levelsOf cs ≤ r' → ofItems r' ds = .ok cs
  | _, [], cs, h, _ => h
  | r, d :: ds, cs, h, hle => by
    obtain ⟨c, cs, hd, hds, rfl⟩ := List.forall₂_cons_left_iff.mp (ofItems_eq_ok_iff.mp h)
    obtain ⟨hc, hcs⟩ := max_le_iff.mp hle
    exact ofItems_eq_ok_iff.mpr (.cons (ofDocument_of_levels_le r d hd hc)
      (ofItems_eq_ok_iff.mp (ofItems_of_levels_le r ds (ofItems_eq_ok_iff.mpr hds) hcs)))

end

lemma allHollow_eq_true_iff {cs : List Coordinates} :
    allHollow cs = true ↔ ∀ c ∈ cs, c.isHollow = true := by
  induction cs with
  | nil => simp [allHollow]
  | cons c cs ih => simp [allHollow, ih]

/-- An array with numbers in one of its items has numbers. -/
lemma isHollow_group_of_mem {c : Coordinates} {cs : List Coordinates} (hc : c ∈ cs)
    (h : c.isHollow = false) : (group cs).isHollow = false := by
  rw [isHollow, Bool.eq_false_iff, Ne, allHollow_eq_true_iff]
  intro hall
  rw [hall c hc] at h
  cases h

end Coordinates

namespace Area

open Coordinates

/-! ## How deep polygons are -/

/-- An array whose items are read as something of at most `k` levels has at most `k + 1` levels. -/
lemma levels_le_of_mapM {β : Type} {f : Coordinates → Option β} {k : Nat}
    (hf : ∀ c b, f c = some b → c.levels ≤ k) {c : Coordinates} {bs : List β}
    (h : (c.group? >>= fun cs => cs.mapM f) = some bs) : c.levels ≤ k + 1 := by
  obtain ⟨cs, hcs, hbs⟩ := Option.bind_eq_some_iff.mp h
  cases c with
  | value x => cases hcs
  | group items =>
    obtain rfl := Option.some.inj hcs
    refine Nat.succ_le_succ (levelsOf_le fun c hc => ?_)
    obtain ⟨b, -, hb⟩ := exists_right_of_forall₂ (mapM_eq_some_iff.mp hbs) hc
    exact hf c b hb

lemma levels_le_of_value? {c : Coordinates} {x : Numeral.Binary64} (h : c.value? = some x) :
    c.levels ≤ 1 := by
  cases c with
  | value y => exact le_rfl
  | group cs => cases h

lemma levels_le_of_point? {c : Coordinates} {p : Point} (h : point? c = some p) : c.levels ≤ 2 :=
  levels_le_of_mapM (fun _ _ => levels_le_of_value?) h

/-- Points are the items of an array, read one by one, and not single numbers. -/
lemma points?_eq_some {c : Coordinates} {ps : List Point} (h : points? c = some ps) :
    (c.group? >>= fun cs => cs.mapM point?) = some ps ∧ ∀ p ∈ ps, p ≠ [] := by
  obtain ⟨cs, hcs, h⟩ := Option.bind_eq_some_iff.mp h
  obtain ⟨qs, hqs, h⟩ := Option.bind_eq_some_iff.mp h
  have hmap : (c.group? >>= fun cs => cs.mapM point?) = some qs :=
    Option.bind_eq_some_iff.mpr ⟨cs, hcs, hqs⟩
  cases qs with
  | nil =>
    obtain rfl := Option.some.inj h
    exact ⟨hmap, by simp⟩
  | cons p rest =>
    obtain ⟨hsize, hps⟩ := Option.ite_none_right_eq_some.mp h
    obtain rfl := Option.some.inj hps
    obtain ⟨hp, hrest⟩ := Bool.and_eq_true_iff.mp hsize
    refine ⟨hmap, fun q hq => ?_⟩
    -- a point of the right size is not empty, and all are of the size of the first
    rintro rfl
    have hlength : p.length = 0 := by
      rcases List.mem_cons.mp hq with rfl | hq
      · rfl
      · exact (beq_iff_eq.mp (List.all_eq_true.mp hrest [] hq)).symm
    rw [hlength] at hp
    cases hp

lemma levels_le_of_points? {c : Coordinates} {ps : List Point} (h : points? c = some ps) :
    c.levels ≤ 3 :=
  levels_le_of_mapM (fun _ _ => levels_le_of_point?) (points?_eq_some h).1

lemma levels_le_of_ring? {c : Coordinates} {r : Ring} (h : ring? c = some r) : c.levels ≤ 3 := by
  obtain ⟨ps, hps, -⟩ := Option.bind_eq_some_iff.mp h
  exact levels_le_of_points? hps

lemma levels_le_of_polygon? {c : Coordinates} {p : Polygon} (h : polygon? c = some p) :
    c.levels ≤ 4 := by
  obtain ⟨cs, hcs, h⟩ := Option.bind_eq_some_iff.mp h
  obtain ⟨rings, hrings, -⟩ := Option.bind_eq_some_iff.mp h
  exact levels_le_of_mapM (fun _ _ => levels_le_of_ring?)
    (Option.bind_eq_some_iff.mpr ⟨cs, hcs, hrings⟩)

/-! ## Which polygons are empty -/

/-- A point has numbers. -/
lemma isHollow_of_point? {c : Coordinates} {p : Point} (h : point? c = some p) (hp : p ≠ []) :
    c.isHollow = false := by
  obtain ⟨cs, hcs, hmap⟩ := Option.bind_eq_some_iff.mp h
  cases c with
  | value x => cases hcs
  | group items =>
    obtain rfl := Option.some.inj hcs
    obtain ⟨x, hx⟩ := List.exists_mem_of_ne_nil p hp
    obtain ⟨v, hv, hvx⟩ := exists_left_of_forall₂ (mapM_eq_some_iff.mp hmap) hx
    refine isHollow_group_of_mem hv ?_
    cases v with
    | value y => rfl
    | group cs => cases hvx

/-- A row that is closed to a ring is empty when the ring is. -/
lemma close?_eq_some {ps : List Point} {r : Ring} (h : close? ps = some r) :
    (ps = [] ∧ r = []) ∨ (ps ≠ [] ∧ r ≠ []) := by
  cases ps with
  | nil => exact Or.inl ⟨rfl, (Option.some.inj h).symm⟩
  | cons first rest =>
    refine Or.inr ⟨List.cons_ne_nil _ _, ?_⟩
    rintro rfl
    simp only [close?] at h
    repeat' split at h
    all_goals simp at h

/-- A ring is empty when its coordinates are an empty array; otherwise it has numbers. -/
lemma ring?_eq_some {c : Coordinates} {r : Ring} (h : ring? c = some r) :
    (c = .group [] ∧ r = []) ∨ (c.isHollow = false ∧ r ≠ []) := by
  obtain ⟨ps, hps, hr⟩ := Option.bind_eq_some_iff.mp h
  obtain ⟨hmap, hne⟩ := points?_eq_some hps
  obtain ⟨cs, hcs, hmap⟩ := Option.bind_eq_some_iff.mp hmap
  have hpoints := mapM_eq_some_iff.mp hmap
  cases c with
  | value x => cases hcs
  | group items =>
    obtain rfl := Option.some.inj hcs
    rcases close?_eq_some hr with ⟨rfl, rfl⟩ | ⟨hps, hr⟩
    · exact Or.inl ⟨by rw [List.forall₂_nil_right_iff.mp hpoints], rfl⟩
    · refine Or.inr ⟨?_, hr⟩
      obtain ⟨p, hp⟩ := List.exists_mem_of_ne_nil ps hps
      obtain ⟨d, hd, hdp⟩ := exists_left_of_forall₂ hpoints hp
      exact isHollow_group_of_mem hd (isHollow_of_point? hdp (hne p hp))

/-- A polygon is empty when its coordinates are nothing but empty arrays; otherwise it has
numbers. -/
lemma polygon?_eq_some {c : Coordinates} {p : Polygon} (h : polygon? c = some p) :
    (∃ n, c = .group (List.replicate (n + 1) (.group [])) ∧ p = ⟨[]⟩) ∨
      (c.isHollow = false ∧ p.rings ≠ []) := by
  obtain ⟨cs, hcs, h⟩ := Option.bind_eq_some_iff.mp h
  obtain ⟨rings, hmap, h⟩ := Option.bind_eq_some_iff.mp h
  cases c with
  | value x => cases hcs
  | group items =>
    obtain rfl := Option.some.inj hcs
    have hrings := mapM_eq_some_iff.mp hmap
    cases rings with
    | nil => cases h
    | cons shell holes =>
      cases hshell : shell.isEmpty with
      | true =>
        left
        simp only [hshell, if_true, Option.ite_none_right_eq_some, Option.some.injEq] at h
        obtain ⟨hholes, rfl⟩ := h
        refine ⟨holes.length, ?_, rfl⟩
        rw [← List.length_cons (a := shell), ← hrings.length_eq]
        congr 1
        refine List.eq_replicate_of_mem fun d hd => ?_
        obtain ⟨r, hr, hdr⟩ := exists_right_of_forall₂ hrings hd
        have hempty : r = [] := by
          rcases List.mem_cons.mp hr with rfl | hr
          · exact List.isEmpty_iff.mp hshell
          · exact List.isEmpty_iff.mp (List.all_eq_true.mp hholes r hr)
        exact ((ring?_eq_some hdr).resolve_right fun hne => hne.2 hempty).1
      | false =>
        right
        simp only [hshell, Bool.false_eq_true, if_false, Option.some.injEq] at h
        subst h
        refine ⟨?_, List.cons_ne_nil _ _⟩
        obtain ⟨d, hd, hdr⟩ := exists_left_of_forall₂ hrings List.mem_cons_self
        refine isHollow_group_of_mem hd ((ring?_eq_some hdr).resolve_left fun he => ?_).1
        rw [he.2] at hshell
        cases hshell

/-! ## Polygons on their own and together -/

variable {handler : Handler} {room : Room} {ds : List Document} {ps : List Polygon}

/-- The description of a geometry: its type and its coordinates. -/
def described (kind : String) (coordinates : Document) : Document :=
  .object [("type", .text kind), ("coordinates", coordinates)]

/-- Converts coordinates as those of a polygon on its own. -/
def convertPolygon (handler : Handler) (room : Room) (coordinates : Document) :
    Except Failure (List Polygon) :=
  ofDocument handler room (described "Polygon" coordinates)

/-- Converts coordinates as those of a collection of polygons with these members. -/
def convertPolygons (handler : Handler) (room : Room) (members : List Document) :
    Except Failure (List Polygon) :=
  ofDocument handler room (described "MultiPolygon" (.array members))

/-- Whether coordinates are those of an empty polygon: empty arrays, one at least. -/
def IsEmptyPolygon (coordinates : Document) : Prop :=
  ∃ n, coordinates = .array (List.replicate (n + 1) (.array []))

/-- The levels of arrays that the numbers of a collection of polygons take. -/
def leastRoom : Nat := 5

@[simp] lemma field?_type_described (name : String) (d : Document) :
    (described name d).field? "type" = some (.text name) := rfl

@[simp] lemma field?_coordinates_described (name : String) (d : Document) :
    (described name d).field? "coordinates" = some d := rfl

lemma ofDocument_described {name : String} {kind : GeometryKind} {d : Document}
    (hk : GeometryKind.ofName? name = some kind) :
    ofDocument handler room (described name d) = .ok ps ↔
      ∃ c, Coordinates.ofDocument room.areas d = .ok c ∧ interpret kind c = .areas ps := by
  simp only [ofDocument, field?_type_described, field?_coordinates_described, Option.bind_some,
    Document.text?]
  cases hd : Coordinates.ofDocument room.areas d with
  | error e => cases e <;> simp [breakDown, unreadable, Handler.reject]
  | ok c => cases hc : interpret kind c <;> simp [hk, hc, unreadable, Handler.reject]

/-- A polygon on its own has to have numbers. -/
lemma convertPolygon_eq_ok_iff {d : Document} :
    convertPolygon handler room d = .ok ps ↔
      ∃ c p, Coordinates.ofDocument room.areas d = .ok c ∧ c.isHollow = false ∧
        polygon? c = some p ∧
        ps = [p] := by
  have hkind : GeometryKind.ofName? "Polygon" = some .polygon := by decide
  rw [convertPolygon, ofDocument_described hkind]
  refine exists_congr fun c => ?_
  cases hhollow : c.isHollow <;> cases hp : polygon? c <;> simp [interpret, hhollow, hp, eq_comm]

/-- A collection of polygons has to have numbers, and all of its members have to be polygons. -/
lemma convertPolygons_iff_coordinates {levels : Nat} (hroom : room.areas = levels + 1) :
    convertPolygons handler room ds = .ok ps ↔
      ∃ cs, List.Forall₂ (fun d c => Coordinates.ofDocument levels d = .ok c) ds cs ∧
        allHollow cs = false ∧ List.Forall₂ (fun c p => polygon? c = some p) cs ps := by
  have hinterpret (cs : List Coordinates) : interpret .multiPolygon (.group cs) = .areas ps ↔
      allHollow cs = false ∧ cs.mapM polygon? = some ps := by
    have hpolygons : polygons? (.group cs) = cs.mapM polygon? := rfl
    cases hhollow : allHollow cs <;> cases hps : cs.mapM polygon? <;>
      simp [interpret, isHollow, hhollow, hpolygons, hps]
  have hkind : GeometryKind.ofName? "MultiPolygon" = some .multiPolygon := by decide
  rw [convertPolygons, ofDocument_described hkind, hroom]
  simp only [ofDocument_array_eq_ok_iff, ← ofItems_eq_ok_iff, ← mapM_eq_some_iff]
  constructor
  · rintro ⟨c, ⟨cs, hcs, rfl⟩, hi⟩
    exact ⟨cs, hcs, (hinterpret cs).mp hi⟩
  · rintro ⟨cs, hcs, hi⟩
    exact ⟨.group cs, ⟨cs, hcs, rfl⟩, (hinterpret cs).mpr hi⟩

/-! ## Empty polygons -/

/-- An empty polygon is read as one. -/
lemma polygon?_replicate (n : Nat) :
    polygon? (.group (List.replicate (n + 1) (.group []))) = some ⟨[]⟩ := by
  have hrings : (List.replicate (n + 1) (Coordinates.group [])).mapM ring? =
      some (List.replicate (n + 1) []) := by
    refine mapM_eq_some_iff.mpr (forall₂_replicate ?_ _)
    rfl
  refine Option.bind_eq_some_iff.mpr ⟨_, hrings, ?_⟩
  simp [List.replicate_succ]

/-- The coordinates of an empty polygon are read wherever there is room for two levels. -/
lemma ofDocument_of_isEmptyPolygon {levels : Nat} (hlevels : 2 ≤ levels) {d : Document}
    (h : IsEmptyPolygon d) :
    ∃ n, Coordinates.ofDocument levels d = .ok (.group (List.replicate (n + 1) (.group []))) := by
  obtain ⟨n, rfl⟩ := h
  obtain ⟨k, rfl⟩ : ∃ k, levels = k + 2 := Nat.exists_eq_add_of_le' hlevels
  refine ⟨n, ofDocument_array_eq_ok_iff.mpr ⟨_, ofItems_eq_ok_iff.mpr ?_, rfl⟩⟩
  refine forall₂_replicate ?_ _
  rfl

/-- Nothing else is read so. -/
lemma isEmptyPolygon_of_ofDocument {levels n : Nat} {d : Document}
    (h : Coordinates.ofDocument levels d = .ok (.group (List.replicate (n + 1) (.group [])))) :
    IsEmptyPolygon d := by
  obtain ⟨r, ds, -, rfl, hds⟩ := exists_array_of_group h
  have hitems := ofItems_eq_ok_iff.mp hds
  refine ⟨n, ?_⟩
  rw [← List.length_replicate (n := n + 1) (a := Coordinates.group []), ← hitems.length_eq]
  congr 1
  refine List.eq_replicate_of_mem fun d hd => ?_
  obtain ⟨c, hc, hdc⟩ := exists_right_of_forall₂ hitems hd
  rw [List.eq_of_mem_replicate hc] at hdc
  obtain ⟨_, es, -, rfl, hes⟩ := exists_array_of_group hdc
  rw [List.forall₂_nil_right_iff.mp (ofItems_eq_ok_iff.mp hes)]

/-! ## Collections -/

/-- A member of a collection is read as a polygon when it is one on its own, or the empty one. -/
lemma exists_polygon?_iff {levels : Nat} (hroom : room.areas = levels + 1) (hlevels : 4 ≤ levels)
    {d : Document} {p : Polygon} :
    (∃ c, Coordinates.ofDocument levels d = .ok c ∧ polygon? c = some p) ↔
      convertPolygon handler room d = .ok [p] ∨ (IsEmptyPolygon d ∧ p = ⟨[]⟩) := by
  constructor
  · rintro ⟨c, hd, hp⟩
    rcases polygon?_eq_some hp with ⟨n, rfl, rfl⟩ | ⟨hhollow, -⟩
    · exact Or.inr ⟨isEmptyPolygon_of_ofDocument hd, rfl⟩
    · have hpolygon := levels_le_of_polygon? hp
      exact Or.inl (convertPolygon_eq_ok_iff.mpr
        ⟨c, p, ofDocument_of_levels_le levels d hd (by omega), hhollow, hp, rfl⟩)
  · rintro (h | ⟨hd, rfl⟩)
    · obtain ⟨c, q, hd, -, hq, hpq⟩ := convertPolygon_eq_ok_iff.mp h
      obtain rfl := List.singleton_inj.mp hpq
      have hpolygon := levels_le_of_polygon? hq
      exact ⟨c, ofDocument_of_levels_le _ d hd (by omega), hq⟩
    · obtain ⟨n, hn⟩ := ofDocument_of_isEmptyPolygon (Nat.le_of_add_left_le hlevels) hd
      exact ⟨_, hn, polygon?_replicate n⟩

/-- Coordinates of polygons have numbers when one of the polygons is not empty. -/
lemma allHollow_eq_false_iff {cs : List Coordinates} {ps : List Polygon}
    (h : List.Forall₂ (fun c p => polygon? c = some p) cs ps) :
    allHollow cs = false ↔ ∃ p ∈ ps, p.rings ≠ [] := by
  induction h with
  | nil => simp [allHollow]
  | @cons c p cs ps hp _ ih =>
    rw [allHollow, Bool.and_eq_false_iff, ih, List.exists_mem_cons_iff]
    refine or_congr_left ?_
    rcases polygon?_eq_some hp with ⟨n, rfl, rfl⟩ | ⟨hhollow, hne⟩
    · have hhollow : (group (List.replicate (n + 1) (group []))).isHollow = true := by
        simp [isHollow, allHollow_eq_true_iff, allHollow]
      simp [hhollow]
    · simp [hhollow, hne]

/-- A collection is converted member by member, unless all its members are empty. -/
lemma convertPolygons_iff_forall₂ (hroom : leastRoom ≤ room.areas) :
    convertPolygons handler room ds = .ok ps ↔
      List.Forall₂ (fun d p =>
        convertPolygon handler room d = .ok [p] ∨ (IsEmptyPolygon d ∧ p = ⟨[]⟩)) ds ps ∧
        ∃ p ∈ ps, p.rings ≠ [] := by
  -- the members are read with one level less than the collection
  obtain ⟨k, hk⟩ : ∃ k, room.areas = k + 4 + 1 := Nat.exists_eq_add_of_le' hroom
  have hmember : ∀ d p, (∃ c, Coordinates.ofDocument (k + 4) d = .ok c ∧ polygon? c = some p) ↔
      convertPolygon handler room d = .ok [p] ∨ (IsEmptyPolygon d ∧ p = ⟨[]⟩) :=
    fun d p => exists_polygon?_iff hk (Nat.le_add_left 4 k)
  simp only [← hmember, ← exists_forall₂_and_forall₂_iff]
  rw [convertPolygons_iff_coordinates hk]
  constructor
  · rintro ⟨cs, hcs, hhollow, hps⟩
    exact ⟨⟨cs, hcs, hps⟩, (allHollow_eq_false_iff hps).mp hhollow⟩
  · rintro ⟨⟨cs, hcs, hps⟩, hne⟩
    exact ⟨cs, hcs, (allHollow_eq_false_iff hps).mpr hne, hps⟩

/-- A polygon on its own gives one polygon, and not the empty one. -/
lemma convertPolygon_eq_ok {d : Document} (h : convertPolygon handler room d = .ok ps) :
    ∃ p, ps = [p] ∧ p.rings ≠ [] := by
  obtain ⟨c, p, -, hhollow, hp, rfl⟩ := convertPolygon_eq_ok_iff.mp h
  refine ⟨p, rfl, fun hrings => ?_⟩
  have hone : allHollow [c] = false := by simp [allHollow, hhollow]
  obtain ⟨q, hq, hne⟩ := (allHollow_eq_false_iff (.cons hp .nil)).mp hone
  rw [List.eq_of_mem_singleton hq] at hne
  exact hne hrings

/-- An empty polygon on its own is rejected. -/
lemma convertPolygon_of_isEmptyPolygon (hroom : 2 ≤ room.areas) {d : Document}
    (h : IsEmptyPolygon d) : convertPolygon handler room d = unreadable handler := by
  obtain ⟨n, hn⟩ := ofDocument_of_isEmptyPolygon hroom h
  have hhollow : (group (List.replicate (n + 1) (group []))).isHollow = true := by
    simp [isHollow, allHollow_eq_true_iff, allHollow]
  have hkind : GeometryKind.ofName? "Polygon" = some .polygon := by decide
  simp [convertPolygon, ofDocument, Document.text?, hn, hkind, interpret, hhollow]

/-- Members that are not empty are converted as on their own. -/
lemma forall₂_convertPolygon (hroom : leastRoom ≤ room.areas) (hne : ∀ d ∈ ds, ¬IsEmptyPolygon d)
    (h : convertPolygons handler room ds = .ok ps) :
    List.Forall₂ (fun d p => convertPolygon handler room d = .ok [p]) ds ps := by
  have hboth := (List.forall₂_and_left ds ps).mpr
    ⟨hne, ((convertPolygons_iff_forall₂ hroom).mp h).1⟩
  exact hboth.imp fun d p hd => hd.2.resolve_right fun hempty => hd.1 hempty.1

/-- Members that are not empty make a collection exactly when there are some and each is a polygon
on its own. -/
lemma exists_convertPolygons_iff (hroom : leastRoom ≤ room.areas)
    (hne : ∀ d ∈ ds, ¬IsEmptyPolygon d) :
    (∃ ps, convertPolygons handler room ds = .ok ps) ↔
      ds ≠ [] ∧ ∀ d ∈ ds, ∃ qs, convertPolygon handler room d = .ok qs := by
  constructor
  · rintro ⟨ps, hps⟩
    have hmembers := forall₂_convertPolygon hroom hne hps
    refine ⟨?_, fun d hd => ?_⟩
    · rintro rfl
      obtain ⟨p, hp, -⟩ := ((convertPolygons_iff_forall₂ hroom).mp hps).2
      rw [List.forall₂_nil_left_iff.mp hmembers] at hp
      cases hp
    · obtain ⟨p, -, hp⟩ := exists_right_of_forall₂ hmembers hd
      exact ⟨_, hp⟩
  · rintro ⟨hds, hall⟩
    have hone : ∀ d ∈ ds, ∃ p, convertPolygon handler room d = .ok [p] := by
      intro d hd
      obtain ⟨qs, hqs⟩ := hall d hd
      obtain ⟨p, rfl, -⟩ := convertPolygon_eq_ok hqs
      exact ⟨p, hqs⟩
    obtain ⟨ps, hps⟩ := exists_forall₂ hone
    -- any of the members is a polygon that is not empty
    obtain ⟨d, hd⟩ := List.exists_mem_of_ne_nil ds hds
    obtain ⟨p, hp, hdp⟩ := exists_right_of_forall₂ hps hd
    obtain ⟨q, hq, hrings⟩ := convertPolygon_eq_ok hdp
    obtain rfl := List.singleton_inj.mp hq
    exact ⟨ps, (convertPolygons_iff_forall₂ hroom).mpr
      ⟨hps.imp fun _ _ => Or.inl, p, hp, hrings⟩⟩

/-- **A collection of polygons and its members.**  A collection is converted to one polygon for each
of its members, in order, unless all of them are empty.  A member is converted as on its own, with
one difference: coordinates of an empty polygon, which are rejected on their own, give an empty
polygon here.  So when no member is empty, a collection is converted exactly when it has members and
each of them is converted on its own, and what it gives is what they give one after the other. -/
theorem convertPolygons_eq_ok_iff (handler : Handler) {room : Room}
    (hroom : leastRoom ≤ room.areas) (ds : List Document) :
    (∀ ps, convertPolygons handler room ds = .ok ps ↔
        List.Forall₂ (fun d p =>
          convertPolygon handler room d = .ok [p] ∨ (IsEmptyPolygon d ∧ p = ⟨[]⟩)) ds ps ∧
          ∃ p ∈ ps, p.rings ≠ []) ∧
      (∀ d ps, convertPolygon handler room d = .ok ps → ∃ p, ps = [p] ∧ p.rings ≠ []) ∧
      (∀ d, IsEmptyPolygon d → convertPolygon handler room d = unreadable handler) ∧
      ((∀ d ∈ ds, ¬IsEmptyPolygon d) →
        ((∃ ps, convertPolygons handler room ds = .ok ps) ↔
          ds ≠ [] ∧ ∀ d ∈ ds, ∃ qs, convertPolygon handler room d = .ok qs) ∧
        ∀ ps, convertPolygons handler room ds = .ok ps →
          ps.length = ds.length ∧ (∀ p ∈ ps, p.rings ≠ []) ∧
          ∃ qss, List.Forall₂ (fun d qs => convertPolygon handler room d = .ok qs) ds qss ∧
            ps = qss.flatten) := by
  refine ⟨fun ps => convertPolygons_iff_forall₂ hroom, fun d ps => convertPolygon_eq_ok,
    fun d hd => ?_, fun hne => ⟨exists_convertPolygons_iff hroom hne, fun ps hps => ?_⟩⟩
  · exact convertPolygon_of_isEmptyPolygon (Nat.le_trans (by decide) hroom) hd
  · have hmembers := forall₂_convertPolygon hroom hne hps
    refine ⟨hmembers.length_eq.symm, fun p hp => ?_, ps.map fun p => [p],
      List.forall₂_map_right_iff.mpr hmembers, (List.flatMap_singleton' ps).symm⟩
    obtain ⟨d, -, hdp⟩ := exists_left_of_forall₂ hmembers hp
    obtain ⟨q, hq, hrings⟩ := convertPolygon_eq_ok hdp
    rwa [List.singleton_inj.mp hq]

/-- The coordinates of a triangle. -/
def triangle : Document :=
  .array [.array [.array [.integer 0, .integer 0], .array [.integer 1, .integer 0],
    .array [.integer 1, .integer 1]]]

/-- A triangle and an empty polygon make a collection of two, although the empty polygon is rejected
on its own. -/
theorem convertPolygons_triangle_empty :
    (∃ p : Polygon, p.rings ≠ [] ∧
      convertPolygons (.standard .route) .hundred [triangle, .array [.array []]] =
        .ok [p, ⟨[]⟩]) ∧
    convertPolygon (.standard .route) .hundred (.array [.array []]) =
      unreadable (.standard .route) := by
  have hroom : leastRoom ≤ Room.hundred.areas := by decide
  obtain ⟨hall, hown, hempty, -⟩ :=
    convertPolygons_eq_ok_iff (.standard .route) hroom [triangle, .array [.array []]]
  have hbare : IsEmptyPolygon (.array [.array []]) := ⟨0, rfl⟩
  refine ⟨?_, hempty _ hbare⟩
  cases htriangle : convertPolygon (.standard .route) .hundred triangle with
  | error e =>
    have hfine : (convertPolygon (.standard .route) .hundred triangle).isOk = true := by
      decide +kernel
    rw [htriangle] at hfine
    cases hfine
  | ok ps =>
    obtain ⟨p, rfl, hp⟩ := hown _ _ htriangle
    exact ⟨p, hp, (hall _).mpr
      ⟨.cons (Or.inl htriangle) (.cons (Or.inr ⟨hbare, rfl⟩) .nil), p, by simp, hp⟩⟩

end Area

end RouteIntake
