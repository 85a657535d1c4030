import RouteIntake.Session.Records

/-!
# The state of a session

A session is a series of steps on named things: sources of error codes, registries, handlers,
profile parameters, weightings and searches.  A `Step` is what such a step comes to: a document or a
refusal, and the session after it.  What a step did before it was refused stays done.

A named weighting can be added to profile parameters, and then a change of the weighting shows in
the parameters too.  So named weightings live in cells of the session, and parameters refer to the
cells; a name that is bound anew gets a new cell, and what refers to the old one keeps it.

It is not checked whether a step fits the kind of the thing it is for.  Records, whose fields
`fields?` lists, stand in for a table where records may.
-/

namespace RouteIntake

/-- What a name of a session stands for. -/
inductive Entity
  /-- A source of error codes, which can change. -/
  | source (members : List (String × Document))
  /-- A registry of error codes. -/
  | registry (codes : ErrorCodes)
  /-- A handler. -/
  | handler (h : Handler)
  /-- Profile parameters. -/
  | parameters (p : SharedParameters)
  /-- A weighting in a cell. -/
  | weighting (cell : Nat)
  /-- A search. -/
  | search (q : NamedSearch)

namespace Entity

/-- The word for the kind of entity. -/
def kindName : Entity → String
  | .source _ => "dict"
  | .registry _ => "ErrorCodeRegistry"
  | .handler h => h.kind.name
  | .parameters p => p.variant.recordName
  | .weighting _ => "ProfileWeighting"
  | .search _ => "RouteSearchParameters"

/-- The codes that a source or a registry has. -/
def codes? : Entity → Option ErrorCodes
  | .source ms => some ⟨ms⟩
  | .registry codes => some codes
  | _ => none

/-- An entity as a weighting of parameters. -/
def asWeighting : Entity → WeightingRef
  | .weighting cell => .shared cell
  | e => .stray e.kindName

end Entity

/-- The state of a session. -/
structure Session where
  /-- The names with what they stand for, the latest binding first. -/
  entities : List (String × Entity)
  /-- The weightings that have names, or had them. -/
  cells : List NamedWeighting

/-! ## Steps -/

/-- What a step comes to. -/
structure Session.Step where
  /-- The session after the step. -/
  session : Session
  /-- The lines logged. -/
  log : List LogLine
  /-- The document that the step gives, or why it gives none. -/
  outcome : Except Refusal Document

namespace Session.Step

/-- A step that leaves a session and gives a document. -/
def giving (s : Session) (d : Document) : Step := ⟨s, [], .ok d⟩

/-- A step that changes nothing and gives a document, or is refused. -/
def telling (s : Session) (x : Except Refusal Document) : Step := ⟨s, [], x⟩

/-- A step that leaves a session and reports on it. -/
def reporting (s : Session) (x : Except Breakdown Document) : Step := ⟨s, [], orBrokenDown x⟩

/-- A step that first needs something, and is refused with nothing changed if it does not get it. -/
def needing {α : Type} (s : Session) (x : Except Refusal α) (f : α → Step) : Step :=
  match x with
  | .ok a => f a
  | .error r => ⟨s, [], .error r⟩

@[simp] theorem needing_ok {α : Type} (s : Session) (a : α) (f : α → Step) :
    needing s (.ok a) f = f a := rfl

/-- A step that does not get what it needs changes nothing. -/
@[simp] theorem session_needing_error {α : Type} (s : Session) (r : Refusal) (f : α → Step) :
    (needing s (.error r) f).session = s := rfl

end Session.Step

namespace Session

/-! ## Names -/

/-- A session before its first step. -/
def empty : Session := ⟨[], []⟩

/-- The session with a name bound. -/
def bindName (s : Session) (name : String) (e : Entity) : Session :=
  { s with entities := (name, e) :: s.entities }

/-- What a name stands for. -/
def entity (s : Session) (name : String) : Except Refusal Entity :=
  match s.entities.lookup name with
  | some e => .ok e
  | none => .error (.absent (.text name))

/-- A step that is cut short. -/
def cut {α : Type} (b : Breakdown) : Except Refusal α := .error (.brokenDown b)

/-- The refusal of an entity that has no such property. -/
def lacking {α : Type} (e : Entity) (property : String) : Except Refusal α :=
  cut (.noProperty e.kindName property)

/-! ## Records -/

/-- What was added to parameters as a weighting, as a document: null for what is no weighting. -/
def weightingDocument (s : Session) : WeightingRef → Document
  | .own w => w.toDocument
  | .shared cell => .ofOption (s.cells[cell]?.map fun w => .object w.fields)
  | .stray _ => .null

/-- The fields of a record with their values; a table or a handler is no record. -/
def fields? (s : Session) : Entity → Option (List (String × Document))
  | .parameters p =>
    some ([("weightings", p.weightings.toDocument s.weightingDocument),
      ("weighting_errors", p.notes.toDocument .text)] ++
      p.variant.limits.map fun l => (l.name, p.limits l))
  | .weighting cell => s.cells[cell]?.map NamedWeighting.fields
  | .search q => some q.fields
  | _ => none

/-- The report of a weighting of parameters. -/
def weightingReport (s : Session) : Held WeightingRef → Except Breakdown Document
  | .document d => .error (.noProperty d.kindName "name")
  | .proper (.stray kind) => .error (.noProperty kind "name")
  | .proper (.own w) => .ok w.toDocument
  | .proper (.shared cell) =>
    match s.cells[cell]? with
    | some w => w.report
    | none => .ok .null

/-- The report of a note. -/
def noteReport : Held String → Document
  | .proper note => .text note
  | .document d => d

/-- The report of parameters. -/
def report (s : Session) (p : SharedParameters) : Except Breakdown Document := do
  let weightings ← (← p.weightings.items).mapM s.weightingReport
  let notes ← p.notes.items
  .ok (.object
    [("variant", .text p.variant.name),
     ("restrictions", p.limitsDocument),
     ("weightings", .array weightings),
     ("weighting_errors", .array (notes.map noteReport)),
     ("has_weightings", .boolean (!weightings.isEmpty))])

theorem entity_bindName (s : Session) (name : String) (e : Entity) :
    (s.bindName name e).entity name = .ok e := by
  simp [entity, bindName]

end Session

end RouteIntake
