import SampleData.Failure

/-!
# Dependency order

Models in an order that puts the targets of required links before the models that link to
them.  Every place of the list has a counter of the places that must come before it and have
not been taken.  A place whose counter is zero is ready; each turn takes the first ready place
in order of discovery and then lowers the counters of the places that wait for it.  When
nothing is ready any more, the places whose counters are above zero block each other.
-/

namespace SampleData

namespace Order

/-- The place of the model that a table belongs to: of several with one table, the last. -/
def placeOf? (models : List Model) (table : String) : Option Nat :=
  (models.zipIdx.reverse.find? fun entry => entry.1.table == table).map Prod.snd

/-- The places of the models that must come before the model at a place, each once. -/
def before (models : List Model) (place : Nat) : List Nat :=
  match models[place]? with
  | none => []
  | some model => (model.requiredTargets.filterMap (placeOf? models)).eraseDups

/-- The places of the models that a place must come before, in order of discovery. -/
def after (models : List Model) (place : Nat) : List Nat :=
  (List.range models.length).filter fun later => (before models later).contains place

def enter (place : Nat) : List Nat → List Nat
  | [] => [place]
  | first :: rest =>
      if place < first then place :: first :: rest
      else if first < place then first :: enter place rest
      else first :: rest

/-- How far the search for an order has come. -/
structure Search where
  /-- For each place, how many of the places before it are still to be taken. -/
  counters : List Nat
  /-- The places not taken whose counters are zero, in order of discovery. -/
  ready : List Nat
  taken : List Nat := []
  /-- The places that wait for the latest one taken and whose counters are still to be lowered. -/
  pending : List Nat := []
  deriving DecidableEq, Repr, Inhabited

namespace Search

def start (models : List Model) : Search :=
  let places := List.range models.length
  { counters := places.map fun place => (before models place).length,
    ready := places.filter fun place => (before models place).isEmpty }

def lower (search : Search) (place : Nat) (pending : List Nat) : Search :=
  let counters := search.counters.modify place Nat.pred
  { search with
    counters, pending,
    ready := if counters[place]? = some 0 then enter place search.ready else search.ready }

def take (models : List Model) (search : Search) (place : Nat) (ready : List Nat) : Search :=
  { search with ready, taken := place :: search.taken, pending := after models place }

/-- One step: lower the next pending counter, or else take the first ready place. -/
def step (models : List Model) (search : Search) : Option Search :=
  match search.pending with
  | place :: pending => some (search.lower place pending)
  | [] =>
      match search.ready with
      | place :: ready => some (search.take models place ready)
      | [] => none

def run (models : List Model) : Nat → Search → Search
  | 0, search => search
  | fuel + 1, search =>
      match search.step models with
      | none => search
      | some next => run models fuel next

def blocked (search : Search) : List Nat :=
  (List.range search.counters.length).filter fun place => search.counters[place]? != some 0

end Search

/--
How many steps a search takes at most: each place is taken once, and then lowers no more
counters than there are.
-/
def stepBound (models : List Model) : Nat :=
  models.length * (models.length + 1)

def search (models : List Model) : Search :=
  (Search.start models).run models (stepBound models)

def modelsAt (models : List Model) (places : List Nat) : List Model :=
  places.filterMap fun place => models[place]?

/-- The dependency order of a list of models, or the labels of the models that block each other. -/
def dependencyOrder (models : List Model) : Except Failure (List Model) :=
  let result := search models
  if result.taken.length = models.length then
    .ok (modelsAt models result.taken.reverse)
  else
    .error (.circular ((modelsAt models result.blocked).map Model.label))

end Order

end SampleData
