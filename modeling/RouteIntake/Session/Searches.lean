import RouteIntake.Session.Basic

/-!
# Searches in a session

A search is made of its fields, may get more areas, and is answered for a profile.  Its fields may
have been set to anything; what cannot be reported or answered then is told as it is come to.
-/

namespace RouteIntake

open Schema

namespace Session

/-- The search with a name, for the sake of a property that only searches have. -/
def searchNamed (s : Session) (name property : String) : Except Refusal NamedSearch := do
  match ← s.entity name with
  | .search q => .ok q
  | e => lacking e property

/-- Binds a name to a search and reports it. -/
def putSearch (s : Session) (name : String) (q : NamedSearch) : Step :=
  .reporting (s.bindName name (.search q)) q.summary

/-- Makes a search. -/
def defineSearch (s : Session) (name : String) (fields : Document) : Step :=
  .needing s (searchShape.checked fields) fun d =>
  s.putSearch name (.ofSearch (Search.ofDocument d))

/-- The areas of a document, or the refusal of what is none. -/
def areasGiven (room : Room) (d : Document) : Except Refusal (List Polygon) :=
  (Area.ofDocument (.standard .route) room d).mapError .ofFailure

/-- Adds areas to a search.  Whether its areas can grow is seen first. -/
def addAreas (s : Session) (room : Room) (name : String) (d : Document) : Step :=
  .needing s (s.searchNamed name "avoid_areas") fun q =>
  .needing s (orBrokenDown (q.avoidAreas.extend "extend" [])) fun _ =>
  .needing s (areasGiven room d) fun areas =>
  .needing s (orBrokenDown (q.avoidAreas.extend "extend" areas)) fun areas =>
  s.putSearch name { q with avoidAreas := areas }

/-- The profile that a document names. -/
def profileGiven (d : Document) : Except Refusal String :=
  let refused := .error (.forbidden "ValueError" (d.shown ++ " is not a valid RoutingProfile"))
  match d.text? with
  | some word => if Profile.requestable.contains word then .ok word else refused
  | none => refused

/-- Answers with a search for a profile. -/
def answerSearch (s : Session) (name : String) (profile : Document) : Except Refusal Document := do
  let profile ← profileGiven profile
  let q ← s.searchNamed name "profile_parameters"
  answerShape.checked (← orBrokenDown (q.answer profile))

end Session

end RouteIntake
