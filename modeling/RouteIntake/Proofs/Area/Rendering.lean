import RouteIntake.Answer
import RouteIntake.Proofs.Area.Description
import RouteIntake.Proofs.Schema.Normal

/-!
# Areas that are given back

An answer renders the areas of a search as polygons, each with its type and its coordinates.  The
first reading may change what it was given: integers and texts become numbers, rings are closed, and
a collection is split into polygons.  Nothing of this is left to do afterwards: a rendered polygon
describes the polygon that it was rendered from (`Area.describesPolygon_coordinates`).

The main statement, `Area.ofDocument_rendered`, says that rendered areas are a fixed point: each of
them is read as itself, all of them together as the same list, and they are rendered the same again.
-/

namespace RouteIntake

open Numeral Schema

/-- A polygon is rendered in the shape that polygons have in answers. -/
lemma polygonShape_check_toDocument (p : Polygon) :
    polygonShape.check p.toDocument = .ok p.toDocument := by
  have hpoint (q : Point) : (Shape.list 0 (.number [])).check (.array (q.map .number)) =
      .ok (.array (q.map .number)) := Shape.check_list_map fun _ _ => rfl
  have hring (r : Ring) : (Shape.list 0 (.list 0 (.number []))).check (Polygon.ringDocument r) =
      .ok (Polygon.ringDocument r) := Shape.check_list_map fun q _ => hpoint q
  have hcoordinates : (Shape.list 0 (.list 0 (.list 0 (.number [])))).check p.coordinates =
      .ok p.coordinates := Shape.check_list_map fun r _ => hring r
  have hfield : fieldValue "coordinates" .required
      (Shape.list 0 (.list 0 (.list 0 (.number [])))).check
      [("type", .text "Polygon"), ("coordinates", p.coordinates)] = .ok p.coordinates := by
    show under (.field "coordinates") ((Shape.list 0 _).check p.coordinates) = _
    rw [hcoordinates]
    rfl
  rw [polygonShape, Polygon.toDocument, Shape.check, defaultField, requiredField, checkFields,
    checkFields, hfield]
  rfl

namespace Area

/-! ## What a reading leaves -/

/-- A row that is closed is left alone when it is closed again, if its numbers are finite. -/
lemma Closes.closes {ps : List Point} {r : Ring} (h : Closes ps r)
    (hfinite : ∀ q ∈ ps, ∀ x ∈ q, x.isFinite = true) : Closes r r := by
  have hsame : ∀ q ∈ ps, List.Forall₂ (fun x y => Binary64.numEq x y = true) q q := by
    intro q hq
    exact List.forall₂_same.mpr fun x hx => Binary64.numEq_self_of_isFinite (hfinite q hq x hx)
  cases ps with
  | nil =>
    have hopen : ¬IsClosed [] := by
      rintro ⟨first, last, hfirst, -⟩
      cases hfirst
    obtain rfl := h.extended (Or.inr hopen)
    exact ⟨by simp, fun _ => rfl, fun _ _ => rfl⟩
  | cons first rest =>
    have hlong : 3 ≤ (first :: rest).length := by
      obtain ⟨hone, htwo⟩ := h.length
      simp only [List.length_cons] at hone htwo ⊢
      omega
    -- the ring is closed, and it is longer than three points
    have hring : IsClosed r ∧ 3 < r.length := by
      by_cases hopen : (first :: rest).length = 3 ∨ ¬IsClosed (first :: rest)
      · obtain rfl := h.extended hopen
        refine ⟨⟨first, first, rfl, ?_, hsame first List.mem_cons_self⟩, ?_⟩
        · exact List.getLast?_concat
        · simp only [List.length_append, List.take_succ_cons, List.take_zero, List.length_singleton]
          omega
      · obtain ⟨hlength, hclosed⟩ := not_or.mp hopen
        obtain rfl := h.kept hlength (not_not.mp hclosed)
        exact ⟨not_not.mp hclosed, lt_of_le_of_ne hlong (Ne.symm hlength)⟩
    obtain ⟨hclosed, hlength⟩ := hring
    refine ⟨⟨by omega, by omega⟩, ?_, fun _ _ => rfl⟩
    rintro (hthree | hopen)
    · omega
    · exact absurd hclosed hopen

/-- A rendered ring describes the ring. -/
lemma describesRing_ringDocument {d : Document} {r : Ring} (h : DescribesRing d r) :
    DescribesRing (Polygon.ringDocument r) r := by
  obtain ⟨ps, hps, ⟨size, hsize, hall⟩, hcloses⟩ := h
  have hfinite := isFinite_of_describesPoints hps
  refine ⟨r, ⟨_, rfl, ?_⟩, ⟨size, hsize, fun q hq => hall q (hcloses.mem hq)⟩,
    hcloses.closes hfinite⟩
  refine List.forall₂_map_left_iff.mpr (List.forall₂_same.mpr fun q hq => ⟨_, rfl, ?_⟩)
  exact List.forall₂_map_left_iff.mpr
    (List.forall₂_same.mpr fun x hx => ⟨rfl, hfinite q (hcloses.mem hq) x hx⟩)

/-- Rendered coordinates describe the polygon. -/
lemma describesPolygon_coordinates {d : Document} {p : Polygon} (h : DescribesPolygon d p) :
    DescribesPolygon p.coordinates p := by
  obtain ⟨hrings, hshell⟩ := h
  refine ⟨⟨_, rfl, ?_⟩, hshell⟩
  refine List.forall₂_map_left_iff.mpr (List.forall₂_same.mpr fun r hr => ?_)
  obtain ⟨_, hring⟩ := hrings.exists_of_mem hr
  exact describesRing_ringDocument hring

/-- Areas that are not empty are described by their own coordinates. -/
lemma describesPolygon_of_describesAreas {kind : String} {c : Document} {ps : List Polygon}
    (h : DescribesAreas kind c ps) {p : Polygon} (hp : p ∈ ps) (hne : p.rings ≠ []) :
    DescribesPolygon p.coordinates p := by
  rcases h with ⟨-, q, rfl, hq⟩ | ⟨-, hps, -⟩
  · rw [List.mem_singleton.mp hp]
    exact describesPolygon_coordinates hq
  · obtain ⟨_, hmember | ⟨-, rfl⟩⟩ := hps.exists_of_mem hp
    · exact describesPolygon_coordinates hmember
    · exact absurd rfl hne

/-- There are areas where areas are described. -/
lemma exists_rings_ne_nil_of_describesAreas {kind : String} {c : Document} {ps : List Polygon}
    (h : DescribesAreas kind c ps) : ∃ p ∈ ps, p.rings ≠ [] := by
  rcases h with ⟨-, p, rfl, -, shell, holes, hrings, -⟩ | ⟨-, -, hsome⟩
  · exact ⟨p, List.mem_singleton_self p, by simp [hrings]⟩
  · exact hsome

/-! ## Rendering and reading again -/

/-- What is read as areas has a type and coordinates, and nothing else is looked at. -/
lemma exists_described_of_ofDocument {handler : Handler} {room : Room} {d : Document}
    {ps : List Polygon} (h : ofDocument handler room d = .ok ps) :
    ∃ kind c, ofDocument handler room (described kind c) = .ok ps := by
  cases hkind : (d.field? "type").bind Document.text? with
  | none => simp [ofDocument, hkind, unreadable, Handler.reject] at h
  | some kind =>
    cases hc : d.field? "coordinates" with
    | none => simp [ofDocument, hkind, hc, unreadable, Handler.reject] at h
    | some c =>
      refine ⟨kind, c, ?_⟩
      rw [← h]
      simp only [ofDocument, hkind, hc, field?_type_described, field?_coordinates_described,
        Option.bind_some, Document.text?]

/-- **Rendered areas are a fixed point.**  When areas are read from a document, by whatever handler
in whatever room, and none of them is empty, an answer renders them as polygons in the shape that
polygons have in answers.  Wherever there is room for a collection of polygons, each rendered
polygon is read as the one polygon that it was rendered from, and a collection of all their
coordinates is read as the same areas in the same order.  So a search with the areas of that second
reading is rendered the same. -/
theorem ofDocument_rendered {handler : Handler} {room : Room} (handler' : Handler) {room' : Room}
    (hroom : leastRoom ≤ room'.areas) {d : Document} {s : Search}
    (h : ofDocument handler room d = .ok s.avoidAreas)
    (hne : ∀ p ∈ s.avoidAreas, p.rings ≠ []) (profile : String) :
    ∃ rendered coordinates,
      (s.answer profile).field? "avoid_polygons" = some (.array rendered) ∧
        List.Forall₂
          (fun r p => polygonShape.check r = .ok r ∧ ofDocument handler' room' r = .ok [p])
          rendered s.avoidAreas ∧
        List.Forall₂ (fun r c => r.field? "coordinates" = some c) rendered coordinates ∧
        ofDocument handler' room' (described "MultiPolygon" (.array coordinates)) =
          .ok s.avoidAreas ∧
        ∀ s' : Search,
          ofDocument handler' room' (described "MultiPolygon" (.array coordinates)) =
              .ok s'.avoidAreas →
            (s'.answer profile).field? "avoid_polygons" = some (.array rendered) := by
  obtain ⟨kind, c, hdescribed⟩ := exists_described_of_ofDocument h
  have hareas := describesAreas_of_ofDocument hdescribed
  have hown : ∀ p ∈ s.avoidAreas, DescribesPolygon p.coordinates p := fun p hp =>
    describesPolygon_of_describesAreas hareas hp (hne p hp)
  have hagain : ofDocument handler' room'
      (described "MultiPolygon" (.array (s.avoidAreas.map Polygon.coordinates))) =
        .ok s.avoidAreas := by
    refine (ofDocument_multiPolygon_iff hroom).mpr
      ⟨⟨_, rfl, ?_⟩, exists_rings_ne_nil_of_describesAreas hareas⟩
    exact List.forall₂_map_left_iff.mpr (List.forall₂_same.mpr fun p hp => Or.inl (hown p hp))
  refine ⟨s.avoidAreas.map Polygon.toDocument, s.avoidAreas.map Polygon.coordinates, rfl, ?_, ?_,
    hagain, fun s' hs' => ?_⟩
  · refine List.forall₂_map_left_iff.mpr (List.forall₂_same.mpr fun p hp =>
      ⟨polygonShape_check_toDocument p, ?_⟩)
    exact (convertPolygon_eq_ok_iff_describes (Nat.le_of_succ_le hroom)).mpr ⟨p, rfl, hown p hp⟩
  · exact List.forall₂_map_left_iff.mpr
      (List.forall₂_map_right_iff.mpr (List.forall₂_same.mpr fun p _ => rfl))
  · rw [hagain, Except.ok.injEq] at hs'
    rw [Search.answer, ← hs']
    rfl

/-- A triangle of three points, with a text for a number, and a square with heights that is not
closed. -/
def looseAreas : Document :=
  described "multipolygon" (.array
    [.array [.array [.array [.integer 0, .integer 0], .array [.integer 1, .text " 0 "],
      .array [.integer 1, .integer 1]]],
    .array [.array [.array [.integer 0, .integer 0, .integer 1],
      .array [.integer 1, .integer 0, .integer 1], .array [.integer 1, .integer 1, .integer 1],
      .array [.integer 0, .integer 1, .integer 1]]]])

/-- The search with these areas, closed and in numbers. -/
def looseSearch : Search :=
  let zero := Binary64.ofInt 0
  let one := Binary64.ofInt 1
  { Search.empty with
    avoidAreas :=
      [⟨[[[zero, zero], [one, zero], [one, one], [zero, zero]]]⟩,
        ⟨[[[zero, zero, one], [one, zero, one], [one, one, one], [zero, one, one],
          [zero, zero, one]]]⟩] }

/-- The collection of the two areas, as it is rendered, is read as the same two. -/
theorem ofDocument_rendered_loose :
    ofDocument (.standard .route) .hundred looseAreas = .ok looseSearch.avoidAreas ∧
      ∃ rendered coordinates, (looseSearch.answer "driving-car").field? "avoid_polygons" =
          some (.array rendered) ∧
        List.Forall₂ (fun r c => r.field? "coordinates" = some c) rendered coordinates ∧
        ofDocument (.standard .generic) .hundred (described "MultiPolygon" (.array coordinates)) =
          .ok looseSearch.avoidAreas := by
  have hread : ofDocument (.standard .route) .hundred looseAreas = .ok looseSearch.avoidAreas := by
    -- failures cannot be compared, so only the areas are
    rw [← toOption_eq_some_iff]
    decide +kernel
  have hne : ∀ p ∈ looseSearch.avoidAreas, p.rings ≠ [] := by decide +kernel
  obtain ⟨rendered, coordinates, hanswer, -, hcoordinates, hagain, -⟩ :=
    ofDocument_rendered (.standard .generic) (by decide : leastRoom ≤ Room.hundred.areas) hread hne
      "driving-car"
  exact ⟨hread, rendered, coordinates, hanswer, hcoordinates, hagain⟩

end Area

end RouteIntake
