import RouteIntake.Session.Basic

/-!
# Tables of codes in a session

A source is a table that can change, a registry a copy of one that cannot.  Both are looked at by
keys.  A key that is no text is in no table, and a key that is a list or an object cannot even be
looked up.  What is no table may be looked at as well: records may stand in for tables where only
their fields matter.
-/

namespace RouteIntake

/-! ## Registries -/

/-- The registry that a document makes.  Null makes the standard one, the word `routing` that of
routing, and what counts as false an empty one. -/
def ErrorCodes.ofDocument (standard : ErrorCodes) (d : Document) : Except Breakdown ErrorCodes :=
  match d with
  | .null => .ok standard
  | .text "routing" => .ok .routing
  | d => if d.isTruthy then (entriesOf d).map ErrorCodes.mk else .ok .empty

/-- The code under a key, if the key is a name that is registered. -/
def ErrorCodes.at? (codes : ErrorCodes) (key : Document) : Except Breakdown (Option Document) :=
  (hashable key).map fun key => key.text?.bind codes.get?

/-- The code under a key, that of an unregistered name if there is none. -/
def ErrorCodes.codeAt (codes : ErrorCodes) (key : Document) : Except Breakdown Document :=
  (codes.at? key).map fun code => code.getD unregistered

/-- The code that a handler reports under a key. -/
def CodeStore.codeAt (store : CodeStore) (key : Document) : Except Breakdown Document :=
  match store with
  | .registry codes => codes.codeAt key
  | .other kind => .error (noCodes kind)

namespace Session

/-! ## Looking at tables -/

/-- A named table, or the breakdown of what is none. -/
def tableOr (s : Session) (name : String) (other : String → Breakdown) :
    Except Refusal ErrorCodes := do
  let e ← s.entity name
  match e.codes? with
  | some codes => .ok codes
  | none => cut (other e.kindName)

/-- The code that a registry has for a key. -/
def codeOf (s : Session) (name : String) (key : Document) : Except Refusal Document := do
  match ← s.entity name with
  | .registry codes => orBrokenDown (codes.codeAt key)
  | e => lacking e "get_code"

/-- What a table has under a key that has to be there. -/
def itemOf (s : Session) (name : String) (key : Document) : Except Refusal Document := do
  let codes ← s.tableOr name .notSubscriptable
  match ← orBrokenDown (codes.at? key) with
  | some code => .ok code
  | none => .error (.absent key)

/-- What a table has under a key, or else something given. -/
def itemOrElse (s : Session) (name : String) (key other : Document) :
    Except Refusal Document := do
  let codes ← s.tableOr name fun kind => .noProperty kind "get"
  .ok ((← orBrokenDown (codes.at? key)).getD other)

/-- A pair as a document. -/
def pairDocument (entry : String × Document) : Document := .array [.text entry.1, entry.2]

/-- What one comes across in a table, its keys, or in a record, its fields with their values. -/
def keysOf (s : Session) (name : String) : Except Refusal Document := do
  let e ← s.entity name
  match e.codes?, s.fields? e with
  | some codes, _ => .ok (.array (codes.toDocument.names.map .text))
  | none, some fields => .ok (.array (fields.map pairDocument))
  | none, none => cut (.notIterable e.kindName)

/-- The number of entries of a table. -/
def sizeOf (s : Session) (name : String) : Except Refusal Document := do
  .ok (.integer (← s.tableOr name .noLength).entries.length)

/-- Whether a table has a key.  A record has none. -/
def hasKey (s : Session) (name : String) (key : Document) : Except Refusal Document := do
  let e ← s.entity name
  match e.codes?, s.fields? e with
  | some codes, _ => do .ok (.boolean (← orBrokenDown (codes.at? key)).isSome)
  | none, some _ => .ok (.boolean false)
  | none, none => cut (.notContainer e.kindName)

/-- Whether two names stand for equal things: for the same thing, for two tables that give the same
codes to the same names, in any order, or for two records of one kind with the same fields. -/
def sameEntities (s : Session) (name other : String) : Except Refusal Document := do
  let a ← s.entity name
  let b ← s.entity other
  match a.codes?, b.codes?, s.fields? a, s.fields? b with
  | some codes, some others, _, _ =>
    .ok (.boolean (name == other || codes.toDocument.same others.toDocument))
  | none, none, some fields, some others =>
    .ok (.boolean (name == other ||
      (a.kindName == b.kindName && (Document.object fields).same (.object others))))
  | _, _, _, _ => .ok (.boolean (name == other))

/-! ## Making and changing tables -/

/-- Makes a source. -/
def defineSource (s : Session) (name : String) (d : Document) : Step :=
  .needing s (orBrokenDown (entriesOf d)) fun ms =>
  .giving (s.bindName name (.source ms)) (.object ms)

/-- The table that a step may change: only a source can change. -/
def sourceNamed (s : Session) (name : String) : Except Refusal (List (String × Document)) := do
  match ← s.entity name with
  | .source ms => .ok ms
  | e => cut (.notAssignable e.kindName)

/-- Sets an entry of a table. -/
def setEntry (s : Session) (name : String) (key value : Document) : Step :=
  .needing s (s.sourceNamed name) fun ms =>
  .needing s (orBrokenDown (hashable key)) fun key =>
  let ms := Document.insertMember (keyName key) value ms
  .giving (s.bindName name (.source ms)) (.object ms)

/-- Makes a registry. -/
def defineRegistry (s : Session) (name : String) (codes : ErrorCodes) : Step :=
  .giving (s.bindName name (.registry codes)) codes.toDocument

/-- The table that an entity makes. -/
def tableOf (s : Session) (e : Entity) : Except Refusal (List (String × Document)) :=
  match e.codes?, s.fields? e with
  | some codes, _ => .ok codes.entries
  | none, some fields => .ok fields
  | none, none => cut (.notIterable e.kindName)

/-- Makes a registry of what a table has now, or a record in its place. -/
def copyTable (s : Session) (name source : String) : Step :=
  .needing s (s.entity source) fun e =>
  .needing s (s.tableOf e) fun ms =>
  s.defineRegistry name ⟨ms⟩

/-! ## Handlers -/

/-- The store that an entity is for a handler. -/
def storeOf : Entity → CodeStore
  | .registry codes => .registry codes
  | e => .other e.kindName

/-- Makes a handler, with a named thing in the place of its registry or without.  The handler is
made also where that thing has no codes to report. -/
def defineHandler (s : Session) (name : String) (kind : HandlerKind) (registry : Option String) :
    Step :=
  match registry with
  | none => .giving (s.bindName name (.handler (.standard kind))) kind.standardCodes.toDocument
  | some r =>
    .needing s (s.entity r) fun e =>
    .telling (s.bindName name (.handler ⟨kind, storeOf e⟩)) ((s.tableOf e).map .object)

/-- The code that a handler reports under a key. -/
def reportedCode (s : Session) (name : String) (key : Document) : Except Refusal Document := do
  match ← s.entity name with
  | .handler h => orBrokenDown (h.store.codeAt key)
  | e => lacking e "get_error_code"

/-- The handler that a document describes: its class, and its codes, which have to be there. -/
def handlerDescribed (d : Document) : Except Refusal Handler :=
  let kind := if (d.fieldOrNull "class").isText "generic" then HandlerKind.generic else .route
  match d.field? "codes" with
  | none => .error (.absent (.text "codes"))
  | some codes => do
    .ok (.withCodes kind (← orBrokenDown (ErrorCodes.ofDocument kind.standardCodes codes)))

/-- The handler that a name stands for.  A table may describe one. -/
def handlerNamed (s : Session) (name : String) : Except Refusal Handler := do
  match ← s.entity name with
  | .handler h => .ok h
  | e =>
    match e.codes? with
    | some codes => handlerDescribed codes.toDocument
    | none => lacking e "get"

/-- A change of a source does not reach what has another name, be it a registry made of it. -/
theorem entity_setEntry_of_ne {s : Session} {name other : String} (key value : Document)
    (hne : other ≠ name) : (s.setEntry name key value).session.entity other = s.entity other := by
  have hb : (other == name) = false := beq_eq_false_iff_ne.mpr hne
  unfold setEntry
  cases s.sourceNamed name with
  | error r => rfl
  | ok ms =>
    cases hk : orBrokenDown (hashable key) with
    | error r => simp [Step.needing]
    | ok key => simp [Step.needing, Step.giving, entity, bindName, List.lookup_cons, hb]

end Session

end RouteIntake
