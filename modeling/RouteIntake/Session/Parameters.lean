import RouteIntake.Session.Basic

/-!
# Parameters and weightings in a session

Parameters are made for a category, changed field by field, and extended by weightings: by named
ones, which are shared with the session, or by those that a request asks for.  A change is made
before it is reported, so it stays also where the report is cut short, and of several weightings
those stay that were added before one could not be.  Steps that are meant for parameters are cut
short by anything else, each where it first misses what parameters have.
-/

namespace RouteIntake

open Schema Text

namespace Session

/-! ## Parameters -/

/-- Binds a name to parameters and reports them. -/
def putParameters (s : Session) (name : String) (p : SharedParameters) : Step :=
  let s := s.bindName name (.parameters p)
  .reporting s (s.report p)

/-- The category that a document names. -/
def categoryGiven (d : Document) : Except Refusal Category :=
  match d.text?.bind Category.ofName? with
  | some c => .ok c
  | none => .error (.forbidden "ValueError" (d.shown ++ " is not a valid ProfileCategory"))

/-- Makes parameters for a category. -/
def defineParameters (s : Session) (name : String) (category fields : Document) : Step :=
  .needing s (categoryGiven category) fun c =>
  .needing s (c.variant.shape.checked fields) fun d =>
  s.putParameters name (.ofParameters (Parameters.ofDocument c.variant d))

/-- Reports parameters. -/
def showParameters (s : Session) (name : String) : Step :=
  .needing s (s.entity name) fun e =>
  match e with
  | .parameters p => .reporting s (s.report p)
  | e => .telling s (lacking e "variant")

/-! ## Setting fields -/

/-- The names that belong to a kind of parameters and not to single ones. -/
def kindFields : List String := ["variant", "valid_restrictions"]

/-- The refusal of a name that belongs to a kind of parameters. -/
def kindFieldMessage (record field : String) : String :=
  quoted field ++ " is a ClassVar of `" ++ record ++ "` and cannot be set on an instance. " ++
    "If you want to set a value on the class, use `" ++ record ++ "." ++ field ++ " = value`."

/-- The refusal of a name that a record does not declare. -/
def undeclaredField {α : Type} (record field : String) : Except Refusal α :=
  .error (.forbidden "ValueError" ("\"" ++ record ++ "\" object has no field \"" ++ field ++ "\""))

/-- Whether a name starts with an underscore. -/
def isHidden (field : String) : Bool := field.toList.head? == some '_'

/-- Parameters with a field set to a value, whatever it is.  A name that starts with an underscore
is taken note of and never shown. -/
def withField (p : SharedParameters) (field : String) (value : Document) :
    Except Refusal SharedParameters :=
  let record := p.variant.recordName
  if kindFields.contains field then
    .error (.forbidden "AttributeError" (kindFieldMessage record field))
  else if isHidden field then .ok p
  else
    match p.variant.limits.find? fun l => l.name == field with
    | some l => .ok { p with limits := p.limits.set l value }
    | none =>
      if field == "weighting_errors" then .ok { p with notes := .ofDocument value }
      else if field == "weightings" then .ok { p with weightings := .ofDocument value }
      else undeclaredField record field

/-- The session with a field of the weighting in a cell set. -/
def setWeightingField (s : Session) (cell : Nat) (field : String) (value : Document) : Session :=
  let set (w : NamedWeighting) : NamedWeighting :=
    match field with
    | "name" => { w with name := value }
    | "parameters" => { w with parameters := value }
    | _ => w
  { s with cells := s.cells.modify cell set }

/-- Sets a field of a record and reports it like parameters.  Nothing but parameters can be reported
so: the report misses the first thing that only they have and that is not set now. -/
def setField (s : Session) (name field : String) (value : Document) : Step :=
  .needing s (s.entity name) fun e =>
  match e with
  | .source _ => .telling s (lacking e field)
  | .registry _ | .handler _ =>
    .telling s (lacking e (if field == "variant" then "restriction_values" else "variant"))
  | .parameters p => .needing s (withField p field value) (s.putParameters name)
  | .weighting cell =>
    if isHidden field || ["name", "parameters"].contains field then
      .telling (s.setWeightingField cell field value) (lacking e "variant")
    else .telling s (undeclaredField e.kindName field)
  | .search q =>
    if isHidden field || NamedSearch.fieldNames.contains field then
      .telling (s.bindName name (.search (q.withField field value))) (lacking e "variant")
    else .telling s (undeclaredField e.kindName field)

/-! ## Weightings -/

/-- Makes a weighting. -/
def defineWeighting (s : Session) (name : String) (d : Document) : Step :=
  .needing s ((weightingShape "ProfileWeighting").checked d) fun d =>
  let w := NamedWeighting.mk (d.fieldOrNull "name") (d.fieldOrNull "parameters")
  let cell := s.cells.length
  .reporting ((Session.mk s.entities (s.cells ++ [w])).bindName name (.weighting cell)) w.report

/-- The weighting with a name: its cell, and what is there. -/
def weightingNamed (s : Session) (name : String) : Except Refusal (Nat × NamedWeighting) := do
  match ← s.entity name with
  | .weighting cell =>
    match s.cells[cell]? with
    | some w => .ok (cell, w)
    | none => .error (.absent (.text name))
  | e => lacking e "add_parameter"

/-- Binds a parameter of a weighting. -/
def changeWeighting (s : Session) (name : String) (key value : Document) : Step :=
  .needing s (s.weightingNamed name) fun (cell, w) =>
  .needing s (orBrokenDown (withEntry w.parameters key value)) fun parameters =>
  let w := { w with parameters := parameters }
  .reporting { s with cells := s.cells.set cell w } w.report

/-- The parameters with a name, for the sake of adding to them. -/
def parametersNamed (s : Session) (name : String) : Except Refusal SharedParameters := do
  match ← s.entity name with
  | .parameters p => .ok p
  | e => lacking e "add"

/-- Adds a weighting to parameters, or whatever else the other name stands for. -/
def addWeighting (s : Session) (name weighting : String) : Step :=
  .needing s (s.parametersNamed name) fun p =>
  .needing s (s.entity weighting) fun e =>
  .needing s (orBrokenDown (p.weightings.extend "append" [e.asWeighting])) fun ws =>
  s.putParameters name { p with weightings := ws }

/-! ## Applying weightings -/

/-- Items added at the end of a list, one after another: none at all may be added to anything. -/
def appended {α : Type} (slot : Slot α) (more : List α) : Except Breakdown (Slot α) :=
  if more.isEmpty then .ok slot else slot.extend "append" more

/-- Parameters with what applying weightings adds. -/
def extended (p : SharedParameters) (applied : Weighting.Applied) :
    Except Breakdown SharedParameters := do
  let weightings ← appended p.weightings (applied.weightings.map .own)
  let notes ← appended p.notes applied.notes
  .ok { p with weightings := weightings, notes := notes }

/-- Applies the values of several measures to parameters, in order: the parameters as far as it
went, and what ended it, if something did. -/
def applyEach (room : Room) (ws : Weightings) :
    List Measure → SharedParameters → SharedParameters × Traced Failure Unit
  | [], p => (p, pure ())
  | m :: ms, p =>
    let x := Weighting.applyOne room m (ws m)
    match x.outcome with
    | .error e => (p, ⟨x.log, .error e⟩)
    | .ok applied =>
      match extended p applied with
      | .error b => (p, ⟨x.log, breakDown b⟩)
      | .ok p =>
        let (p, rest) := applyEach room ws ms p
        (p, ⟨x.log ++ rest.log, rest.outcome⟩)

/-- What applying weightings to something else than parameters comes to: the first weighting cannot
be added, or not be noted where it has a flaw; without any weighting there is nothing to report. -/
def applyElsewhere (room : Room) (e : Entity) (ws : Weightings) :
    List Measure → Traced Failure Unit
  | [] => .ofOutcome (breakDown (.noProperty e.kindName "variant"))
  | m :: ms => do
    let applied ← Weighting.applyOne room m (ws m)
    match applied.weightings, applied.notes with
    | [], [] => applyElsewhere room e ws ms
    | [], _ :: _ => .ofOutcome (breakDown (.noProperty e.kindName "weighting_errors"))
    | _ :: _, _ => .ofOutcome (breakDown (.noProperty e.kindName "add"))

/-- The step that applying weightings comes to: a report, unless something ended it before. -/
def afterApplying (x : Traced Failure Unit) (reported : Step) : Step :=
  match x.outcome with
  | .ok () => { reported with log := x.log }
  | .error e => ⟨reported.session, x.log, .error (.ofFailure e)⟩

/-- Applies weightings to a named thing. -/
def applyTo (s : Session) (room : Room) (name : String) (ws : Weightings) : Step :=
  .needing s (s.entity name) fun e =>
  match e with
  | .parameters p =>
    let (p, x) := applyEach room ws Measure.all p
    afterApplying x (s.putParameters name p)
  | e => afterApplying (applyElsewhere room e ws Measure.all) (.telling s (lacking e "variant"))

end Session

end RouteIntake
