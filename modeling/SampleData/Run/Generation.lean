import SampleData.Ledger
import SampleData.Naming
import SampleData.Order
import SampleData.Registry
import SampleData.Run.Bootstrap
import SampleData.Summary
import SampleData.Synthesis

/-!
# Generation

Filling a store: the models in dependency order, each with a number of instances, and then
the links to many records.  A field, an instance or a model that fails is left out and
logged; only a circle of required links stops the whole run.  The state of a run holds its
journal, so that facts about a run are facts about what stands in the journal.
-/

namespace SampleData

structure Settings where
  count : Nat
  exclude : List String
  /-- The app whose models are always left out. -/
  authApp : String
  bootstrap : Bootstrap
  admin : Account
  deriving DecidableEq, Repr, Inhabited

/-- The state of a run over a store. -/
structure Run (σ : Type) where
  store : σ
  draws : Draws
  ledger : Ledger := {}
  journal : List Event := []

namespace Run

variable {σ : Type}

def events (run : Run σ) : List Event :=
  run.journal.reverse

def lines (run : Run σ) : List String :=
  run.events.filterMap Event.line?

def log (run : Run σ) : List LogEntry :=
  run.events.filterMap Event.entry?

/-! ## Steps -/

def note (event : Event) : StateM (Run σ) Unit := fun run =>
  ((), { run with journal := event :: run.journal })

def logEntry (level : Level) (message : String) (details : List (String × String)) :
    StateM (Run σ) Unit :=
  note (.log { level, message, details })

def draw {α : Type} (sampler : Sampler α) : StateM (Run σ) α := fun run =>
  let (result, draws) := sampler run.draws
  (result, { run with draws })

def save (store : Store σ) (record : Record) (model : Model) (values : Values) :
    StateM (Run σ) (Except Failure Unit) := fun run =>
  let (answer, state) := store.save record model values run.store
  (answer, { run with
    store := state, journal := .saved record model values answer :: run.journal })

def pick (store : Store σ) (table : String) :
    StateM (Run σ) (Except Failure (Option Record)) := fun run =>
  let (answer, draws, state) := store.pick table run.draws run.store
  (answer, { run with store := state, draws, journal := .picked table answer :: run.journal })

def relate (store : Store σ) (record : Record) (field : String) (targets : List Record) :
    StateM (Run σ) (Except Failure Unit) := fun run =>
  let (answer, state) := store.relate record field targets run.store
  (answer, { run with
    store := state, journal := .related record field targets answer :: run.journal })

def enter (record : Record) : StateM (Run σ) Unit := fun run =>
  ((), { run with ledger := run.ledger.add record })

end Run

namespace Generation

variable {σ : Type}

/-! ## Instances -/

/-- A record for a link: one created in this run if there is any, or else any that is stored. -/
def resolveTarget (store : Store σ) (table : String) : StateM (Run σ) (Option Record) := do
  let run ← get
  match ← Run.draw (run.ledger.choose table) with
  | some record => pure (some record)
  | none =>
      match ← Run.pick store table with
      | .ok record => pure record
      | .error failure => do
          Run.logEntry .warn ("error looking up existing record: " ++ failure.message)
            [("target", table)]
          pure none

def resolveLink (store : Store σ) (field : Field) : StateM (Run σ) (Option Record) :=
  match field.target with
  | none => pure none
  | some table => resolveTarget store table

/-- A made-up value for a field that is no link; a failure is logged. -/
def plainValue (now : Instant) (field : Field) : StateM (Run σ) (Option Value) := do
  match ← Run.draw (Synthesis.value now field) with
  | .ok value => pure value
  | .error failure => do
      Run.logEntry .warn ("error generating value: " ++ failure.message) [("field", field.name)]
      pure none

def fieldValue (store : Store σ) (now : Instant) (field : Field) :
    StateM (Run σ) (Option Value) :=
  if field.kind = .foreignKey then do
    let record ← resolveLink store field
    pure (record.map Value.record)
  else
    plainValue now field

/-- The name of the field that the record's key stands for. -/
def keyField : String :=
  "id"

/-- The values of fields in order, without the key and the fields that get no value. -/
def fieldValues (store : Store σ) (now : Instant) : List Field → StateM (Run σ) Values
  | [] => pure []
  | field :: rest =>
      if field.name = keyField then
        fieldValues store now rest
      else do
        let value ← fieldValue store now field
        let values ← fieldValues store now rest
        pure ((value.map fun value => (field.name, value)).toList ++ values)

def instanceValues (store : Store σ) (now : Instant) (model : Model) : StateM (Run σ) Values :=
  fieldValues store now model.fields

/-- Make the instance with a number; whether it was created. -/
def makeInstance (store : Store σ) (now : Instant) (model : Model) (number : Nat) :
    StateM (Run σ) Bool := do
  let values ← instanceValues store now model
  let key ← Run.draw Fake.recordKey
  let record : Record := ⟨model.table, key⟩
  match ← Run.save store record model values with
  | .ok _ => do
      Run.enter record
      pure true
  | .error failure => do
      Run.logEntry .error ("error creating instance: " ++ failure.message)
        [("model", model.label), ("instance", toString number)]
      pure false

def makeInstances (store : Store σ) (now : Instant) (model : Model) :
    Nat → Nat → StateM (Run σ) Nat
  | 0, _ => pure 0
  | left + 1, number => do
      let created ← makeInstance store now model number
      let others ← makeInstances store now model left (number + 1)
      pure ((if created then 1 else 0) + others)

/-! ## Models -/

def checkField (field : Field) : Except Failure Unit := do
  Identifier.require "field" field.name
  match field.target with
  | some target => Identifier.require "table" target
  | none => .ok ()

def checkFields : List Field → Except Failure Unit
  | [] => .ok ()
  | field :: rest => do
      checkField field
      checkFields rest

/-- All names of a model that stand in statements must be identifiers. -/
def checkModel (model : Model) : Except Failure Unit := do
  Identifier.require "table" model.table
  checkFields model.allFields

inductive Treatment where
  /-- Its instances were made, so many of them with success. -/
  | filled (model : Model) (created : Nat)
  | leftOut (model : Model)
  deriving DecidableEq, Repr, Inhabited

/-- Fill a model, or leave it out when a name of it cannot stand in a statement. -/
def treatModel (store : Store σ) (now : Instant) (count : Nat) (model : Model) :
    StateM (Run σ) Treatment := do
  Run.note (.line ("Generating data for " ++ model.label ++ "..."))
  match checkModel model with
  | .error failure => do
      Run.logEntry .error ("error generating data: " ++ failure.message)
        [("model", model.label)]
      pure (.leftOut model)
  | .ok _ => do
      let created ← makeInstances store now model count 0
      Run.note (.line ("  created " ++ toString created ++ " of " ++ toString count))
      pure (.filled model created)

def treatModels (store : Store σ) (now : Instant) (count : Nat) :
    List Model → StateM (Run σ) (List Treatment)
  | [] => pure []
  | model :: rest => do
      let treatment ← treatModel store now count model
      let others ← treatModels store now count rest
      pure (treatment :: others)

namespace Treatment

def model? : Treatment → Option Model
  | filled model _ => some model
  | leftOut _ => none

def outcome? (attempted : Nat) : Treatment → Option Outcome
  | filled model created => some { label := model.label, attempted, created }
  | leftOut _ => none

def skipped? : Treatment → Option String
  | filled _ _ => none
  | leftOut model => some model.label

end Treatment

/-! ## Links to many records -/

/-- Link one instance through a field to some records of a table; whether that succeeded. -/
def linkInstance (store : Store σ) (field : Field) (table : String) (record : Record) :
    StateM (Run σ) Bool := do
  let run ← get
  let targets ← Run.draw (run.ledger.sample table)
  match ← Run.relate store record field.name targets with
  | .ok _ => pure true
  | .error failure => do
      Run.logEntry .warn ("error linking records: " ++ failure.message)
        [("instance", record.text), ("field", field.name)]
      pure false

def linkInstances (store : Store σ) (field : Field) (table : String) :
    List Record → StateM (Run σ) Nat
  | [] => pure 0
  | record :: rest => do
      let linked ← linkInstance store field table record
      let others ← linkInstances store field table rest
      pure ((if linked then 1 else 0) + others)

/-- Link the instances of a model through a field, unless the run created nothing to link to. -/
def linkField (store : Store σ) (model : Model) (field : Field) : StateM (Run σ) Nat := do
  match field.target with
  | none => pure 0
  | some table => do
      let run ← get
      if run.ledger.count table = 0 then do
        Run.logEntry .debug
          ("no " ++ table ++ " records created in this run, leaving field unset")
          [("model", model.label), ("field", field.name)]
        pure 0
      else
        linkInstances store field table (run.ledger.created model.table)

def linkFields (store : Store σ) (model : Model) : List Field → StateM (Run σ) Nat
  | [] => pure 0
  | field :: rest => do
      let linked ← linkField store model field
      let others ← linkFields store model rest
      pure (linked + others)

def linkModels (store : Store σ) : List Model → StateM (Run σ) Nat
  | [] => pure 0
  | model :: rest => do
      let linked ← linkFields store model model.manyToMany
      let others ← linkModels store rest
      pure (linked + others)

/-! ## Runs -/

def summarize (count : Nat) (treatments : List Treatment) (linksSet : Nat) : Summary :=
  { processed := treatments.filterMap (Treatment.outcome? count),
    skipped := treatments.filterMap Treatment.skipped?,
    linksSet }

def fillOrdered (store : Store σ) (now : Instant) (count : Nat) (models : List Model) :
    StateM (Run σ) Summary := do
  let treatments ← treatModels store now count models
  let linked ← linkModels store (treatments.filterMap Treatment.model?)
  pure (summarize count treatments linked)

/-- Fill models; only a circle of required links is a failure. -/
def fill (store : Store σ) (now : Instant) (count : Nat) (models : List Model) :
    StateM (Run σ) (Except Failure Summary) :=
  match Order.dependencyOrder models with
  | .error failure => pure (.error failure)
  | .ok ordered => do
      let summary ← fillOrdered store now count ordered
      pure (.ok summary)

def bootstrap (store : Store σ) (settings : Settings) : StateM (Run σ) Unit := fun run =>
  let (events, state) := Bootstrap.run store settings.bootstrap settings.admin run.store
  ((), { run with store := state, journal := events.reverse ++ run.journal })

/-- A whole run over a registry: first the bootstrap, then the selected models. -/
def runRegistry (store : Store σ) (now : Instant) (registry : Registry) (settings : Settings) :
    StateM (Run σ) (Except Failure Summary) := do
  bootstrap store settings
  fill store now settings.count (registry.select settings.exclude settings.authApp)

end Generation

end SampleData
