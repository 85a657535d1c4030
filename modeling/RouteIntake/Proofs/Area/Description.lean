import RouteIntake.Proofs.Area.Collection
import RouteIntake.Proofs.Numeral.Range

/-!
# What describes an area

Areas are described by nested arrays of numbers.  `DescribesPoint`, `DescribesRing`,
`DescribesPolygon` and `DescribesPolygons` relate an array to what it describes, item by item: every
number is the one that stands there, and rings are closed; nothing else changes.

The main statement of this file, `Area.ofDocument_described_eq_ok_iff`, says that areas are read
from what describes them and from nothing else, wherever there is room for a collection of polygons.
-/

namespace RouteIntake

open Numeral

/-- The number that a value stands for, be it finite or not. -/
def Document.number? : Document → Option Binary64
  | .integer n => Binary64.ofInt? n
  | .number x => some x
  | .text s => Binary64.ofAnyScript? s
  | _ => none

namespace Area

open Coordinates

/-! ## What describes an area -/

/-- An array is read item by item. -/
def ItemByItem {α : Type} (R : Document → α → Prop) (d : Document) (as : List α) : Prop :=
  ∃ ds, d = .array ds ∧ List.Forall₂ R ds as

/-- A value describes the number that it stands for, if that is finite. -/
def DescribesNumber (d : Document) (x : Binary64) : Prop := d.number? = some x ∧ x.isFinite = true

/-- An array of numbers describes a point. -/
def DescribesPoint : Document → Point → Prop := ItemByItem DescribesNumber

/-- Points that have all two numbers, or all three. -/
def OfOneSize (ps : List Point) : Prop := ∃ size, (size = 2 ∨ size = 3) ∧ ∀ p ∈ ps, p.length = size

/-- The last point of a row equals the first, number by number. -/
def IsClosed (ps : List Point) : Prop :=
  ∃ first last, ps.head? = some first ∧ ps.getLast? = some last ∧
    List.Forall₂ (fun x y => x.numEq y = true) last first

/-- A row of points as a ring. -/
structure Closes (ps : List Point) (r : Ring) : Prop where
  /-- One point or two make no ring. -/
  length : ps.length ≠ 1 ∧ ps.length ≠ 2
  /-- Three points, and a row that is not closed, are followed by a copy of the first point. -/
  extended : ps.length = 3 ∨ ¬IsClosed ps → r = ps ++ ps.take 1
  /-- Any other row is the ring. -/
  kept : ps.length ≠ 3 → IsClosed ps → r = ps

/-- An array of points of one size describes the ring that they are closed to. -/
def DescribesRing (d : Document) (r : Ring) : Prop :=
  ∃ ps, ItemByItem DescribesPoint d ps ∧ OfOneSize ps ∧ Closes ps r

/-- An array of rings, the first of them not empty, describes a polygon. -/
def DescribesPolygon (d : Document) (p : Polygon) : Prop :=
  ItemByItem DescribesRing d p.rings ∧ ∃ shell holes, p.rings = shell :: holes ∧ shell ≠ []

/-- An array of polygons describes several polygons.  They may be empty, but not all of them. -/
def DescribesPolygons (d : Document) (ps : List Polygon) : Prop :=
  ItemByItem (fun d p => DescribesPolygon d p ∨ (IsEmptyPolygon d ∧ p = ⟨[]⟩)) d ps ∧
    ∃ p ∈ ps, p.rings ≠ []

lemma ItemByItem.imp {α : Type} {R S : Document → α → Prop} {d : Document} {as : List α}
    (h : ItemByItem R d as) (hRS : ∀ d a, R d a → S d a) : ItemByItem S d as := by
  obtain ⟨ds, rfl, hds⟩ := h
  exact ⟨ds, rfl, hds.imp hRS⟩

/-- Everything that an array describes comes from one of its items. -/
lemma ItemByItem.exists_of_mem {α : Type} {R : Document → α → Prop} {d : Document} {as : List α}
    (h : ItemByItem R d as) {a : α} (ha : a ∈ as) : ∃ d', R d' a := by
  obtain ⟨ds, -, hds⟩ := h
  obtain ⟨d', -, hd⟩ := exists_left_of_forall₂ hds ha
  exact ⟨d', hd⟩

lemma itemByItem_congr {α : Type} {R S : Document → α → Prop} (h : ∀ d a, R d a ↔ S d a)
    {d : Document} {as : List α} : ItemByItem R d as ↔ ItemByItem S d as :=
  ⟨fun hR => hR.imp fun d a => (h d a).mp, fun hS => hS.imp fun d a => (h d a).mpr⟩

/-! ## Readings and descriptions -/

/-- An array is read as the items of an array are. -/
lemma exists_mapM_iff {α : Type} {f : Coordinates → Option α} {room : Nat} {d : Document}
    {as : List α} :
    (∃ c, Coordinates.ofDocument (room + 1) d = .ok c ∧
        (c.group? >>= fun cs => cs.mapM f) = some as) ↔
      ItemByItem (fun d a => ∃ c, Coordinates.ofDocument room d = .ok c ∧ f c = some a) d as := by
  constructor
  · rintro ⟨c, hd, hc⟩
    obtain ⟨cs, hcs, has⟩ := Option.bind_eq_some_iff.mp hc
    cases c with
    | value x => cases hcs
    | group items =>
      obtain rfl := Option.some.inj hcs
      obtain ⟨_, ds, hroom, rfl, hds⟩ := exists_array_of_group hd
      obtain rfl := Nat.succ.inj hroom
      exact ⟨ds, rfl, exists_forall₂_and_forall₂_iff.mp
        ⟨items, ofItems_eq_ok_iff.mp hds, mapM_eq_some_iff.mp has⟩⟩
  · rintro ⟨ds, rfl, hds⟩
    obtain ⟨cs, hcs, has⟩ := exists_forall₂_and_forall₂_iff.mpr hds
    exact ⟨.group cs, ofDocument_array_eq_ok_iff.mpr ⟨cs, ofItems_eq_ok_iff.mpr hcs, rfl⟩,
      mapM_eq_some_iff.mpr has⟩

lemma exists_finiteOnly_iff {x y : Binary64} :
    (∃ c, finiteOnly x = .ok c ∧ c.value? = some y) ↔ x = y ∧ y.isFinite = true := by
  unfold finiteOnly
  constructor
  · rintro ⟨c, hc, hy⟩
    split at hc
    · obtain rfl := Except.ok.inj hc
      obtain rfl := Option.some.inj hy
      exact ⟨rfl, ‹_›⟩
    · cases hc
  · rintro ⟨rfl, hfinite⟩
    exact ⟨.value x, by rw [if_pos hfinite], rfl⟩

/-- A number is read from what describes it. -/
lemma exists_value?_iff {room : Nat} {d : Document} {x : Binary64} :
    (∃ c, Coordinates.ofDocument (room + 1) d = .ok c ∧ c.value? = some x) ↔
      DescribesNumber d x := by
  cases d with
  | array ds =>
    simp only [ofDocument_array_eq_ok_iff, DescribesNumber, Document.number?, reduceCtorEq,
      false_and, iff_false]
    rintro ⟨c, ⟨cs, -, rfl⟩, hx⟩
    cases hx
  | integer n =>
    cases hn : Binary64.ofInt? n with
    | none => simp [Coordinates.ofDocument, ofLeaf, DescribesNumber, Document.number?, hn]
    | some y =>
      have hfinite : y.isFinite = true := Binary64.isFinite_of_ofInt? hn
      simp only [Coordinates.ofDocument, ofLeaf, hn, Except.ok.injEq, exists_eq_left', value?,
        DescribesNumber, Document.number?, Option.some.injEq]
      exact ⟨fun h => ⟨h, h ▸ hfinite⟩, fun h => h.1⟩
  | number y =>
    rw [DescribesNumber, Document.number?, Option.some.injEq]
    exact exists_finiteOnly_iff
  | text s =>
    cases hs : Binary64.ofAnyScript? s with
    | none => simp [Coordinates.ofDocument, ofLeaf, DescribesNumber, Document.number?, hs]
    | some y =>
      simp only [Coordinates.ofDocument, ofLeaf, hs, DescribesNumber, Document.number?,
        Option.some.injEq]
      exact exists_finiteOnly_iff
  | _ => simp [Coordinates.ofDocument, ofLeaf, DescribesNumber, Document.number?]

lemma exists_point?_iff {room : Nat} {d : Document} {p : Point} :
    (∃ c, Coordinates.ofDocument (room + 2) d = .ok c ∧ point? c = some p) ↔ DescribesPoint d p :=
  exists_mapM_iff.trans (itemByItem_congr fun _ _ => exists_value?_iff)

/-- Points are read together when they are of one size. -/
lemma points?_eq_some_iff {c : Coordinates} {ps : List Point} :
    points? c = some ps ↔ (c.group? >>= fun cs => cs.mapM point?) = some ps ∧ OfOneSize ps := by
  have hsize : ∀ n, isPointSize n = true ↔ n = 2 ∨ n = 3 := by
    intro n
    simp [isPointSize]
  constructor
  · intro h
    refine ⟨(points?_eq_some h).1, ?_⟩
    obtain ⟨cs, -, h⟩ := Option.bind_eq_some_iff.mp h
    obtain ⟨qs, -, h⟩ := Option.bind_eq_some_iff.mp h
    cases qs with
    | nil =>
      obtain rfl := Option.some.inj h
      exact ⟨2, Or.inl rfl, by simp⟩
    | cons p rest =>
      obtain ⟨hall, hps⟩ := Option.ite_none_right_eq_some.mp h
      obtain rfl := Option.some.inj hps
      obtain ⟨hp, hrest⟩ := Bool.and_eq_true_iff.mp hall
      refine ⟨p.length, (hsize _).mp hp, List.forall_mem_cons.mpr ⟨rfl, fun q hq => ?_⟩⟩
      exact beq_iff_eq.mp (List.all_eq_true.mp hrest q hq)
  · rintro ⟨hmap, size, hs, hall⟩
    obtain ⟨cs, hcs, hps⟩ := Option.bind_eq_some_iff.mp hmap
    refine Option.bind_eq_some_iff.mpr ⟨cs, hcs, Option.bind_eq_some_iff.mpr ⟨ps, hps, ?_⟩⟩
    cases ps with
    | nil => rfl
    | cons p rest =>
      obtain ⟨hp, hrest⟩ := List.forall_mem_cons.mp hall
      refine if_pos (Bool.and_eq_true_iff.mpr ⟨?_, List.all_eq_true.mpr fun q hq => ?_⟩)
      · rw [hp]
        exact (hsize size).mpr hs
      · rw [hp, hrest q hq]
        exact beq_self_eq_true size

lemma samePoint_iff {p q : Point} :
    samePoint p q = true ↔ List.Forall₂ (fun x y => x.numEq y = true) p q := by
  induction p generalizing q with
  | nil => cases q <;> simp [samePoint]
  | cons x p ih => cases q <;> simp [samePoint, ih]

/-- The closing of a row is what it should be. -/
lemma close?_eq_some_iff {ps : List Point} {r : Ring} : close? ps = some r ↔ Closes ps r := by
  match ps with
  | [] =>
    have hopen : ¬IsClosed [] := by
      rintro ⟨first, last, hfirst, -⟩
      cases hfirst
    constructor
    · intro h
      obtain rfl := Option.some.inj h
      exact ⟨by simp, fun _ => rfl, fun _ hclosed => absurd hclosed hopen⟩
    · intro h
      rw [h.extended (Or.inr hopen)]
      rfl
  | [_] =>
    constructor
    · intro h
      cases h
    · intro h
      exact absurd rfl h.length.1
  | [_, _] =>
    constructor
    · intro h
      cases h
    · intro h
      exact absurd rfl h.length.2
  | [p, q, s] =>
    constructor
    · intro h
      obtain rfl := Option.some.inj h
      exact ⟨by simp, fun _ => rfl, fun hthree => absurd rfl hthree⟩
    · intro h
      rw [h.extended (Or.inl rfl)]
      rfl
  | p :: q :: s :: t :: rest =>
    obtain ⟨last, hlast⟩ : ∃ last, (q :: s :: t :: rest).getLast? = some last :=
      ⟨_, List.getLast?_eq_some_getLast (List.cons_ne_nil _ _)⟩
    have hend : (p :: q :: s :: t :: rest).getLast? = some last := by
      rw [List.getLast?_cons_cons, hlast]
    have hclosed : IsClosed (p :: q :: s :: t :: rest) ↔ samePoint last p = true := by
      rw [samePoint_iff]
      constructor
      · rintro ⟨_, _, hp, hl, hsame⟩
        obtain rfl := Option.some.inj hp
        obtain rfl := Option.some.inj (hend.symm.trans hl)
        exact hsame
      · exact fun hsame => ⟨p, last, rfl, hend, hsame⟩
    have hlength : (p :: q :: s :: t :: rest).length ≠ 3 := by simp
    have hclose : close? (p :: q :: s :: t :: rest) =
        if samePoint last p then some (p :: q :: s :: t :: rest)
        else some ((p :: q :: s :: t :: rest) ++ [p]) := by
      have hlong : Nat.blt (p :: q :: s :: t :: rest).length 3 = false := by
        rw [← Bool.not_eq_true, Nat.blt_eq]
        simp
      simp only [close?, hlong, Bool.false_eq_true, if_false, beq_iff_eq, hlength, hlast]
    rw [hclose]
    constructor
    · intro h
      refine ⟨by simp, ?_, ?_⟩
      · intro hopen
        rw [if_neg fun hsame => hopen.elim hlength fun hnot => hnot (hclosed.mpr hsame)] at h
        exact (Option.some.inj h).symm
      · intro _ hsame
        rw [if_pos (hclosed.mp hsame)] at h
        exact (Option.some.inj h).symm
    · intro h
      split
      · rw [h.kept hlength (hclosed.mpr ‹_›)]
      · rw [h.extended (Or.inr fun hsame => absurd (hclosed.mp hsame) ‹_›)]
        rfl

/-- A ring is read from what describes it. -/
lemma exists_ring?_iff {room : Nat} {d : Document} {r : Ring} :
    (∃ c, Coordinates.ofDocument (room + 3) d = .ok c ∧ ring? c = some r) ↔ DescribesRing d r := by
  have hrow (ps : List Point) : (∃ c, Coordinates.ofDocument (room + 3) d = .ok c ∧
      (c.group? >>= fun cs => cs.mapM point?) = some ps) ↔ ItemByItem DescribesPoint d ps :=
    exists_mapM_iff.trans (itemByItem_congr fun _ _ => exists_point?_iff)
  constructor
  · rintro ⟨c, hc, hr⟩
    obtain ⟨ps, hps, hclose⟩ := Option.bind_eq_some_iff.mp hr
    obtain ⟨hmap, hsize⟩ := points?_eq_some_iff.mp hps
    exact ⟨ps, (hrow ps).mp ⟨c, hc, hmap⟩, hsize, close?_eq_some_iff.mp hclose⟩
  · rintro ⟨ps, hps, hsize, hclose⟩
    obtain ⟨c, hc, hmap⟩ := (hrow ps).mpr hps
    exact ⟨c, hc, Option.bind_eq_some_iff.mpr
      ⟨ps, points?_eq_some_iff.mpr ⟨hmap, hsize⟩, close?_eq_some_iff.mpr hclose⟩⟩

/-- Coordinates with numbers are a polygon when they are rings and the first is not empty. -/
lemma polygon?_eq_some_iff {c : Coordinates} {p : Polygon} :
    (c.isHollow = false ∧ polygon? c = some p) ↔
      (c.group? >>= fun cs => cs.mapM ring?) = some p.rings ∧
        ∃ shell holes, p.rings = shell :: holes ∧ shell ≠ [] := by
  constructor
  · rintro ⟨hhollow, hp⟩
    have hne : p.rings ≠ [] := by
      rcases polygon?_eq_some hp with ⟨n, rfl, -⟩ | ⟨-, hne⟩
      · have : (group (List.replicate (n + 1) (group []))).isHollow = true := by
          simp [isHollow, allHollow_eq_true_iff, allHollow]
        rw [this] at hhollow
        cases hhollow
      · exact hne
    obtain ⟨cs, hcs, h⟩ := Option.bind_eq_some_iff.mp hp
    obtain ⟨rings, hrings, h⟩ := Option.bind_eq_some_iff.mp h
    cases rings with
    | nil => cases h
    | cons shell holes =>
      cases hshell : shell.isEmpty with
      | true =>
        simp only [hshell, if_true, Option.ite_none_right_eq_some, Option.some.injEq] at h
        exact absurd (by rw [← h.2]) hne
      | false =>
        simp only [hshell, Bool.false_eq_true, if_false, Option.some.injEq] at h
        subst h
        refine ⟨Option.bind_eq_some_iff.mpr ⟨cs, hcs, hrings⟩, shell, holes, rfl, ?_⟩
        rintro rfl
        cases hshell
  · rintro ⟨hrings, shell, holes, hp, hshell⟩
    obtain ⟨cs, hcs, hmap⟩ := Option.bind_eq_some_iff.mp hrings
    have hpolygon : polygon? c = some p := by
      refine Option.bind_eq_some_iff.mpr ⟨cs, hcs, Option.bind_eq_some_iff.mpr ⟨_, hmap, ?_⟩⟩
      rw [hp]
      simp only [List.isEmpty_eq_false_iff.mpr hshell, Bool.false_eq_true, if_false, ← hp]
    refine ⟨?_, hpolygon⟩
    rcases polygon?_eq_some hpolygon with ⟨-, -, rfl⟩ | ⟨hhollow, -⟩
    · cases hp
    · exact hhollow

variable {handler : Handler} {room : Room} {ps : List Polygon}

/-- A polygon on its own is read from what describes it. -/
lemma convertPolygon_eq_ok_iff_describes (hroom : 4 ≤ room.areas) {d : Document} :
    convertPolygon handler room d = .ok ps ↔ ∃ p, ps = [p] ∧ DescribesPolygon d p := by
  obtain ⟨k, hk⟩ : ∃ k, room.areas = k + 3 + 1 := Nat.exists_eq_add_of_le' hroom
  have hrings (p : Polygon) : (∃ c, Coordinates.ofDocument (k + 3 + 1) d = .ok c ∧
      (c.group? >>= fun cs => cs.mapM ring?) = some p.rings) ↔ ItemByItem DescribesRing d p.rings :=
    exists_mapM_iff.trans (itemByItem_congr fun _ _ => exists_ring?_iff)
  rw [convertPolygon_eq_ok_iff, hk]
  constructor
  · rintro ⟨c, p, hc, hhollow, hp, rfl⟩
    obtain ⟨hmap, hshell⟩ := polygon?_eq_some_iff.mp ⟨hhollow, hp⟩
    exact ⟨p, rfl, (hrings p).mp ⟨c, hc, hmap⟩, hshell⟩
  · rintro ⟨p, rfl, hitems, hshell⟩
    obtain ⟨c, hc, hmap⟩ := (hrings p).mpr hitems
    obtain ⟨hhollow, hp⟩ := polygon?_eq_some_iff.mpr ⟨hmap, hshell⟩
    exact ⟨c, p, hc, hhollow, hp, rfl⟩

/-- Several polygons are read from what describes them. -/
lemma ofDocument_multiPolygon_iff (hroom : leastRoom ≤ room.areas) {d : Document} :
    ofDocument handler room (described "MultiPolygon" d) = .ok ps ↔ DescribesPolygons d ps := by
  have hmember (d : Document) (p : Polygon) :
      convertPolygon handler room d = .ok [p] ↔ DescribesPolygon d p := by
    rw [convertPolygon_eq_ok_iff_describes (Nat.le_of_succ_le hroom)]
    simp
  cases d with
  | array ds =>
    show convertPolygons handler room ds = .ok ps ↔ _
    rw [convertPolygons_iff_forall₂ hroom, DescribesPolygons]
    simp only [hmember]
    exact and_congr_left' ⟨fun h => ⟨ds, rfl, h⟩, fun ⟨_, he, h⟩ => Document.array.inj he ▸ h⟩
  | _ =>
    -- nothing but an array is read as polygons
    have hkind : GeometryKind.ofName? "MultiPolygon" = some .multiPolygon := by decide
    rw [ofDocument_described hkind]
    constructor
    · rintro ⟨c, hc, hi⟩
      cases c with
      | group cs =>
        obtain ⟨_, _, -, he, -⟩ := exists_array_of_group hc
        cases he
      | value x => cases hi
    · rintro ⟨⟨ds, he, -⟩, -⟩
      cases he

/-- Only polygons and collections of polygons are areas. -/
lemma kind_of_interpret_eq_areas {kind : GeometryKind} {c : Coordinates}
    (h : interpret kind c = .areas ps) :
    (kind = .polygon ∧ ∃ p, polygon? c = some p) ∨
      (kind = .multiPolygon ∧ polygons? c = some ps) := by
  have hno : ∀ ok, noAreaIf ok ≠ .areas ps := by
    intro ok
    cases ok <;> simp [noAreaIf]
  unfold interpret at h
  split at h
  · cases h
  · cases kind with
    | polygon =>
      cases hp : polygon? c with
      | none => simp [hp] at h
      | some p => exact Or.inl ⟨rfl, p, rfl⟩
    | multiPolygon =>
      cases hps : polygons? c with
      | none => simp [hps] at h
      | some qs => exact Or.inr ⟨rfl, by simpa [hps] using h⟩
    | collection => cases h
    | _ => exact absurd h (hno _)

/-- Areas are of a kind, and their coordinates are read. -/
lemma exists_kind_of_ofDocument {kind : String} {c : Document}
    (h : ofDocument handler room (described kind c) = .ok ps) :
    ∃ k cs, GeometryKind.ofName? kind = some k ∧ Coordinates.ofDocument room.areas c = .ok cs ∧
      interpret k cs = .areas ps := by
  cases hkind : GeometryKind.ofName? kind with
  | none =>
    simp only [ofDocument, field?_type_described, field?_coordinates_described, Option.bind_some,
      Document.text?, hkind] at h
    repeat' split at h
    all_goals cases h
  | some k =>
    obtain ⟨cs, hcs, hi⟩ := (ofDocument_described hkind).mp h
    exact ⟨k, cs, rfl, hcs, hi⟩

/-- Areas that are read anywhere are read wherever there is room for a collection of polygons. -/
lemma ofDocument_of_leastRoom_le {handler' : Handler} {room' : Room}
    (hroom : leastRoom ≤ room'.areas) {kind : String} {c : Document}
    (h : ofDocument handler room (described kind c) = .ok ps) :
    ofDocument handler' room' (described kind c) = .ok ps := by
  obtain ⟨k, cs, hkind, hcs, hi⟩ := exists_kind_of_ofDocument h
  have hlevels : cs.levels ≤ leastRoom := by
    rcases kind_of_interpret_eq_areas hi with ⟨-, p, hp⟩ | ⟨-, hps⟩
    · exact (levels_le_of_polygon? hp).trans (Nat.le_succ 4)
    · exact levels_le_of_mapM (fun _ _ => levels_le_of_polygon?) hps
  exact (ofDocument_described hkind).mpr
    ⟨cs, Coordinates.ofDocument_of_levels_le room.areas c hcs (hlevels.trans hroom), hi⟩

/-- A name of a kind and coordinates describe areas: as a polygon, or as several. -/
def DescribesAreas (kind : String) (c : Document) (ps : List Polygon) : Prop :=
  (GeometryKind.ofName? kind = some .polygon ∧ ∃ p, ps = [p] ∧ DescribesPolygon c p) ∨
    (GeometryKind.ofName? kind = some .multiPolygon ∧ DescribesPolygons c ps)

/-- Areas are read from what describes them, under one of the two kinds that are areas. -/
lemma ofDocument_described_eq_ok_iff (hroom : leastRoom ≤ room.areas) {kind : String}
    {c : Document} :
    ofDocument handler room (described kind c) = .ok ps ↔ DescribesAreas kind c ps := by
  -- the name is only asked for the kind, so that either kind has one name for all
  have hsame {k : GeometryKind} {name : String} (hkind : GeometryKind.ofName? kind = some k)
      (hname : GeometryKind.ofName? name = some k) :
      ofDocument handler room (described kind c) = .ok ps ↔
        ofDocument handler room (described name c) = .ok ps :=
    (ofDocument_described hkind).trans (ofDocument_described hname).symm
  have hpolygon : GeometryKind.ofName? "Polygon" = some .polygon := by decide
  have hmulti : GeometryKind.ofName? "MultiPolygon" = some .multiPolygon := by decide
  have hone : ofDocument handler room (described "Polygon" c) = .ok ps ↔
      ∃ p, ps = [p] ∧ DescribesPolygon c p :=
    convertPolygon_eq_ok_iff_describes (Nat.le_of_succ_le hroom)
  constructor
  · intro h
    obtain ⟨k, cs, hkind, -, hi⟩ := exists_kind_of_ofDocument h
    rcases kind_of_interpret_eq_areas hi with ⟨rfl, -⟩ | ⟨rfl, -⟩
    · exact Or.inl ⟨hkind, hone.mp ((hsame hkind hpolygon).mp h)⟩
    · exact Or.inr ⟨hkind, (ofDocument_multiPolygon_iff hroom).mp ((hsame hkind hmulti).mp h)⟩
  · rintro (⟨hkind, hp⟩ | ⟨hkind, hps⟩)
    · exact (hsame hkind hpolygon).mpr (hone.mpr hp)
    · exact (hsame hkind hmulti).mpr ((ofDocument_multiPolygon_iff hroom).mpr hps)

/-- What is read as areas describes them. -/
lemma describesAreas_of_ofDocument {kind : String} {c : Document}
    (h : ofDocument handler room (described kind c) = .ok ps) : DescribesAreas kind c ps :=
  have hroom : leastRoom ≤ Room.hundred.areas := by decide
  have hread : ofDocument handler .hundred (described kind c) = .ok ps :=
    ofDocument_of_leastRoom_le hroom h
  (ofDocument_described_eq_ok_iff hroom).mp hread

/-! ## The numbers of areas -/

/-- The points of a ring are those of the row that it closes. -/
lemma Closes.mem {ps : List Point} {r : Ring} (h : Closes ps r) {p : Point} (hp : p ∈ r) :
    p ∈ ps := by
  by_cases hopen : ps.length = 3 ∨ ¬IsClosed ps
  · rw [h.extended hopen, List.mem_append] at hp
    exact hp.elim id List.mem_of_mem_take
  · obtain ⟨hlength, hclosed⟩ := not_or.mp hopen
    rwa [h.kept hlength (not_not.mp hclosed)] at hp

/-- A polygon whose numbers are all finite. -/
def IsFinite (p : Polygon) : Prop := ∀ r ∈ p.rings, ∀ q ∈ r, ∀ x ∈ q, x.isFinite = true

lemma isFinite_of_describesPoints {d : Document} {ps : List Point}
    (h : ItemByItem DescribesPoint d ps) : ∀ q ∈ ps, ∀ x ∈ q, x.isFinite = true := by
  intro q hq x hx
  obtain ⟨_, hpoint⟩ := h.exists_of_mem hq
  obtain ⟨_, hnumber⟩ := hpoint.exists_of_mem hx
  exact hnumber.2

lemma isFinite_of_describesRing {d : Document} {r : Ring} (h : DescribesRing d r) :
    ∀ q ∈ r, ∀ x ∈ q, x.isFinite = true := by
  obtain ⟨ps, hps, -, hcloses⟩ := h
  exact fun q hq => isFinite_of_describesPoints hps q (hcloses.mem hq)

lemma isFinite_of_describesPolygon {d : Document} {p : Polygon} (h : DescribesPolygon d p) :
    IsFinite p := by
  intro r hr
  obtain ⟨_, hring⟩ := h.1.exists_of_mem hr
  exact isFinite_of_describesRing hring

lemma isFinite_of_describesAreas {kind : String} {c : Document} {ps : List Polygon}
    (h : DescribesAreas kind c ps) : ∀ p ∈ ps, IsFinite p := by
  intro p hp
  rcases h with ⟨-, q, rfl, hq⟩ | ⟨-, hps, -⟩
  · rw [List.mem_singleton.mp hp]
    exact isFinite_of_describesPolygon hq
  · obtain ⟨_, hmember | ⟨-, rfl⟩⟩ := hps.exists_of_mem hp
    · exact isFinite_of_describesPolygon hmember
    · intro r hr
      cases hr

end Area

end RouteIntake
