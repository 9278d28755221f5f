import SampleData.Proofs.Draws
import SampleData.Run.Generation

/-!
# What a run keeps

A run is put together from a few steps: noting, drawing, entering in the ledger, and calls of
the store.  A property of runs that each step keeps is kept by the whole run.  Where a property
is kept only by whole instances or whole link sets, it is enough that these keep it.
-/

namespace SampleData

def Event.IsNote : Event → Prop
  | .line _ => True
  | .log _ => True
  | _ => False

namespace Run

variable {σ α β : Type} {property : Run σ → Prop}

/-- A program keeps a property that holds after it whenever it held before. -/
def Keeps (property : Run σ → Prop) (program : StateM (Run σ) α) : Prop :=
  ∀ run, property run → property (program run).2

theorem Keeps.pure (result : α) : Keeps property (pure result : StateM (Run σ) α) :=
  fun _ h => h

theorem Keeps.bind {program : StateM (Run σ) α} {next : α → StateM (Run σ) β}
    (hprogram : Keeps property program) (hnext : ∀ result, Keeps property (next result)) :
    Keeps property (program >>= next) :=
  fun run h => hnext _ _ (hprogram run h)

theorem Keeps.get : Keeps property (get : StateM (Run σ) (Run σ)) :=
  fun _ h => h

structure KeepsNotes (property : Run σ → Prop) : Prop where
  line : ∀ text, Keeps property (note (.line text))
  log : ∀ level message details, Keeps property (logEntry level message details)

theorem KeepsNotes.of (h : ∀ event : Event, event.IsNote → Keeps property (note event)) :
    KeepsNotes property :=
  ⟨fun text => h (.line text) trivial, fun _ _ _ => h (.log _) trivial⟩

end Run

namespace Generation

open Run

variable {σ : Type} {store : Store σ} {now : Instant} {property : Run σ → Prop}

/-! ## From instances to models -/

/--
The end of making an instance: it is saved and entered in the ledger, or its failure is logged.
-/
def keepInstance (store : Store σ) (record : Record) (model : Model) (values : Values)
    (number : Nat) : StateM (Run σ) Bool := do
  match ← Run.save store record model values with
  | .ok _ => do
      Run.enter record
      pure true
  | .error failure => do
      Run.logEntry .error ("error creating instance: " ++ failure.message)
        [("model", model.label), ("instance", toString number)]
      pure false

theorem keepInstance_of_ok {record : Record} {model : Model} {values : Values} {run : Run σ}
    {state : σ} (h : store.save record model values run.store = (.ok (), state)) (number : Nat) :
    keepInstance store record model values number run =
      (true, { run with
        store := state, ledger := run.ledger.add record,
        journal := .saved record model values (.ok ()) :: run.journal }) := by
  simp only [keepInstance, bind_apply, Run.save, h]
  rfl

theorem keepInstance_of_error {record : Record} {model : Model} {values : Values} {run : Run σ}
    {failure : Failure} {state : σ}
    (h : store.save record model values run.store = (.error failure, state)) (number : Nat) :
    keepInstance store record model values number run =
      (false, { run with
        store := state,
        journal := .log ⟨.error, "error creating instance: " ++ failure.message,
            [("model", model.label), ("instance", toString number)]⟩ ::
          .saved record model values (.error failure) :: run.journal }) := by
  simp only [keepInstance, bind_apply, Run.save, h]
  rfl

theorem keepInstance_store (store : Store σ) (record : Record) (model : Model) (values : Values)
    (number : Nat) (run : Run σ) :
    (keepInstance store record model values number run).2.store =
      (store.save record model values run.store).2 := by
  rcases h : store.save record model values run.store with ⟨failure | _, state⟩
  · rw [keepInstance_of_error h]
  · rw [keepInstance_of_ok h]

theorem keepInstance_journal (store : Store σ) (record : Record) (model : Model) (values : Values)
    (number : Nat) (run : Run σ) :
    .saved record model values (store.save record model values run.store).1 :: run.journal <:+
      (keepInstance store record model values number run).2.journal := by
  rcases h : store.save record model values run.store with ⟨failure | _, state⟩
  · rw [keepInstance_of_error h]
    exact List.suffix_cons _ _
  · simp only [keepInstance_of_ok h, List.suffix_refl]

theorem makeInstance_eq (store : Store σ) (now : Instant) (model : Model) (number : Nat) :
    makeInstance store now model number =
      (fieldValues store now model.fields >>= fun values =>
        Run.draw Fake.recordKey >>= fun key =>
          keepInstance store ⟨model.table, key⟩ model values number) := rfl

theorem makeInstances_keeps {model : Model}
    (hmake : ∀ number, Keeps property (makeInstance store now model number))
    (left number : Nat) : Keeps property (makeInstances store now model left number) := by
  induction left generalizing number with
  | zero => exact Keeps.pure 0
  | succ left ih =>
      exact (hmake number).bind fun _ => (ih (number + 1)).bind fun _ => Keeps.pure _

theorem treatModel_keeps {count : Nat} {model : Model}
    (hnotes : KeepsNotes property)
    (hmake : ∀ number, Keeps property (makeInstance store now model number)) :
    Keeps property (treatModel store now count model) := by
  refine (hnotes.line _).bind fun _ => ?_
  cases checkModel model with
  | error failure => exact (hnotes.log _ _ _).bind fun _ => Keeps.pure _
  | ok _ =>
      exact (makeInstances_keeps hmake count 0).bind fun _ =>
        (hnotes.line _).bind fun _ => Keeps.pure _

theorem treatModels_keeps {count : Nat} {models : List Model}
    (hnotes : KeepsNotes property)
    (hmake : ∀ model ∈ models, ∀ number, Keeps property (makeInstance store now model number)) :
    Keeps property (treatModels store now count models) := by
  induction models with
  | nil => exact Keeps.pure []
  | cons model rest ih =>
      refine (treatModel_keeps hnotes (hmake model (by simp))).bind fun _ => ?_
      exact (ih fun other hother => hmake other (by simp [hother])).bind fun _ => Keeps.pure _

/-! ## From link sets to models -/

theorem linkInstances_keeps {field : Field} {table : String} {records : List Record}
    (hlink : ∀ record ∈ records, Keeps property (linkInstance store field table record)) :
    Keeps property (linkInstances store field table records) := by
  induction records with
  | nil => exact Keeps.pure 0
  | cons record rest ih =>
      refine (hlink record (by simp)).bind fun _ => ?_
      exact (ih fun other hother => hlink other (by simp [hother])).bind fun _ => Keeps.pure _

theorem linkField_of_target (store : Store σ) {model : Model} {field : Field} {table : String}
    (htarget : field.target = some table) (run : Run σ) :
    linkField store model field run =
      if run.ledger.count table = 0 then
        (0, (note (.log ⟨.debug,
          "no " ++ table ++ " records created in this run, leaving field unset",
          [("model", model.label), ("field", field.name)]⟩) run).2)
      else linkInstances store field table (run.ledger.created model.table) run := by
  unfold linkField
  rw [htarget]
  change (if run.ledger.count table = 0 then _ else _ : StateM (Run σ) Nat) run = _
  split <;> rfl

/-- The records that are linked are those of the ledger when the field's turn comes. -/
theorem linkField_keeps {model : Model} {field : Field}
    (hlog : ∀ level message details, Keeps property (logEntry level message details))
    (hlink : ∀ run, property run → ∀ table, field.target = some table →
      ∀ record ∈ run.ledger.created model.table,
        Keeps property (linkInstance store field table record)) :
    Keeps property (linkField store model field) := by
  unfold linkField
  cases htarget : field.target with
  | none => exact Keeps.pure 0
  | some table =>
      intro run h
      change property ((if run.ledger.count table = 0 then _ else _ : StateM (Run σ) Nat) run).2
      split
      · exact ((hlog _ _ _).bind fun _ => Keeps.pure 0) run h
      · exact linkInstances_keeps (hlink run h table htarget) run h

theorem linkFields_keeps {model : Model} {fields : List Field}
    (hlog : ∀ level message details, Keeps property (logEntry level message details))
    (hlink : ∀ run, property run → ∀ field ∈ fields, ∀ table, field.target = some table →
      ∀ record ∈ run.ledger.created model.table,
        Keeps property (linkInstance store field table record)) :
    Keeps property (linkFields store model fields) := by
  induction fields with
  | nil => exact Keeps.pure 0
  | cons field rest ih =>
      refine (linkField_keeps hlog fun run h => hlink run h field (by simp)).bind fun _ => ?_
      exact (ih fun run h other hother => hlink run h other (by simp [hother])).bind fun _ =>
        Keeps.pure _

theorem linkModels_keeps {models : List Model}
    (hlog : ∀ level message details, Keeps property (logEntry level message details))
    (hlink : ∀ run, property run → ∀ model ∈ models, ∀ field ∈ model.manyToMany,
      ∀ table, field.target = some table → ∀ record ∈ run.ledger.created model.table,
        Keeps property (linkInstance store field table record)) :
    Keeps property (linkModels store models) := by
  induction models with
  | nil => exact Keeps.pure 0
  | cons model rest ih =>
      refine (linkFields_keeps hlog fun run h => hlink run h model (by simp)).bind fun _ => ?_
      exact (ih fun run h other hother => hlink run h other (by simp [hother])).bind fun _ =>
        Keeps.pure _

end Generation

/-! ## From steps to runs -/

/-- Whatever a run does but print keeps a property of it. -/
structure KeptBySteps {σ : Type} (store : Store σ) (property : Run σ → Prop) : Prop where
  log : ∀ level message details, Run.Keeps property (Run.logEntry level message details)
  draw : ∀ {α : Type} (sampler : Sampler α), Run.Keeps property (Run.draw sampler)
  enter : ∀ record, Run.Keeps property (Run.enter record)
  save : ∀ record model values, Run.Keeps property (Run.save store record model values)
  pick : ∀ table, Run.Keeps property (Run.pick store table)
  relate : ∀ record field targets, Run.Keeps property (Run.relate store record field targets)

namespace KeptBySteps

open Run Generation

variable {σ : Type} {store : Store σ} {property : Run σ → Prop} {now : Instant}

theorem fieldValue (kept : KeptBySteps store property) (field : Field) :
    Keeps property (fieldValue store now field) := by
  unfold Generation.fieldValue
  split
  · refine Keeps.bind ?_ fun _ => Keeps.pure _
    unfold resolveLink
    cases field.target with
    | none => exact Keeps.pure none
    | some table =>
        refine Keeps.get.bind fun _ => (kept.draw _).bind fun chosen => ?_
        cases chosen with
        | some record => exact Keeps.pure _
        | none =>
            refine (kept.pick table).bind fun answer => ?_
            cases answer with
            | ok record => exact Keeps.pure _
            | error failure => exact (kept.log _ _ _).bind fun _ => Keeps.pure _
  · refine (kept.draw _).bind fun result => ?_
    cases result with
    | ok value => exact Keeps.pure _
    | error failure => exact (kept.log _ _ _).bind fun _ => Keeps.pure _

theorem fieldValues (kept : KeptBySteps store property) (fields : List Field) :
    Keeps property (fieldValues store now fields) := by
  induction fields with
  | nil => exact Keeps.pure []
  | cons field rest ih =>
      unfold Generation.fieldValues
      split
      · exact ih
      · exact (kept.fieldValue field).bind fun _ => ih.bind fun _ => Keeps.pure _

theorem keepInstance (kept : KeptBySteps store property) (record : Record) (model : Model)
    (values : Values) (number : Nat) :
    Keeps property (keepInstance store record model values number) := by
  refine (kept.save record model values).bind fun answer => ?_
  cases answer with
  | ok _ => exact (kept.enter _).bind fun _ => Keeps.pure _
  | error failure => exact (kept.log _ _ _).bind fun _ => Keeps.pure _

theorem makeInstance (kept : KeptBySteps store property) (model : Model) (number : Nat) :
    Keeps property (makeInstance store now model number) :=
  (kept.fieldValues model.fields).bind fun values => (kept.draw _).bind fun key =>
    kept.keepInstance ⟨model.table, key⟩ model values number

theorem linkInstance (kept : KeptBySteps store property) (field : Field) (table : String)
    (record : Record) : Keeps property (linkInstance store field table record) := by
  refine Keeps.get.bind fun _ => (kept.draw _).bind fun targets => ?_
  refine (kept.relate record field.name targets).bind fun answer => ?_
  cases answer with
  | ok _ => exact Keeps.pure _
  | error failure => exact (kept.log _ _ _).bind fun _ => Keeps.pure _

theorem linkModels (kept : KeptBySteps store property) (models : List Model) :
    Keeps property (linkModels store models) :=
  linkModels_keeps kept.log fun _ _ _ _ field _ table _ record _ =>
    kept.linkInstance field table record

end KeptBySteps

/-! ## From calls to runs -/

structure KeptByBootstrap {σ : Type} (store : Store σ) (property : σ → List Event → Prop) :
    Prop where
  note : ∀ {state journal} (event : Event), event.IsNote → property state journal →
    property state (event :: journal)
  group : ∀ {state journal} table name, property state journal →
    property (store.ensureGroup table name state).2
      (.groupEnsured table name (store.ensureGroup table name state).1 :: journal)
  admin : ∀ {state journal} account, property state journal →
    property (store.ensureAdmin account state).2
      (.adminEnsured account (store.ensureAdmin account state).1 :: journal)

structure KeptByCalls {σ : Type} (store : Store σ) (property : σ → List Event → Prop) : Prop
    extends KeptByBootstrap store property where
  save : ∀ {state journal} record model values, property state journal →
    property (store.save record model values state).2
      (.saved record model values (store.save record model values state).1 :: journal)
  pick : ∀ {state journal} table draws, property state journal →
    property (store.pick table draws state).2.2
      (.picked table (store.pick table draws state).1 :: journal)
  relate : ∀ {state journal} record field targets, property state journal →
    property (store.relate record field targets state).2
      (.related record field targets (store.relate record field targets state).1 :: journal)

namespace KeptByBootstrap

open Run

variable {σ : Type} {store : Store σ} {property : σ → List Event → Prop}

theorem ensureGroups_cons (table name : String) (rest : List String) (state : σ) :
    Bootstrap.ensureGroups store table (name :: rest) state =
      let called := store.ensureGroup table name state
      let later := Bootstrap.ensureGroups store table rest called.2
      (.groupEnsured table name called.1 :: .log (Bootstrap.groupEntry name called.1) :: later.1,
        later.2) := rfl

theorem ensureGroups (kept : KeptByBootstrap store property) (table : String)
    (names : List String) {state : σ} {journal : List Event} (h : property state journal) :
    property (Bootstrap.ensureGroups store table names state).2
      ((Bootstrap.ensureGroups store table names state).1.reverse ++ journal) := by
  induction names generalizing state journal with
  | nil => exact h
  | cons name rest ih =>
      have hcalled := kept.group table name h
      have hnoted := kept.note
        (.log (Bootstrap.groupEntry name (store.ensureGroup table name state).1)) trivial hcalled
      rw [ensureGroups_cons]
      simpa using ih hnoted

theorem bootstrap_eq (settings : Settings) (run : Run σ) :
    (Generation.bootstrap store settings run).2 =
      let ensured := Bootstrap.ensureGroups store settings.bootstrap.groupTable
        settings.bootstrap.groups run.store
      let called := store.ensureAdmin settings.admin ensured.2
      { run with
        store := called.2,
        journal := (ensured.1 ++ [Event.adminEnsured settings.admin called.1,
          Event.log (Bootstrap.adminEntry settings.admin called.1)]).reverse ++ run.journal } := rfl

theorem bootstrap (kept : KeptByBootstrap store property) (settings : Settings) :
    Keeps (fun run => property run.store run.journal) (Generation.bootstrap store settings) := by
  intro run h
  rw [bootstrap_eq]
  simp only [List.reverse_append, List.append_assoc]
  exact kept.note _ trivial (kept.admin settings.admin
    (kept.ensureGroups settings.bootstrap.groupTable settings.bootstrap.groups h))

end KeptByBootstrap

namespace KeptByCalls

open Run Generation

variable {σ : Type} {store : Store σ} {property : σ → List Event → Prop} {now : Instant}

def ofRun (property : σ → List Event → Prop) (run : Run σ) : Prop :=
  property run.store run.journal

theorem notes (kept : KeptByCalls store property) : KeepsNotes (ofRun property) :=
  KeepsNotes.of fun _ hnote _ h => kept.note _ hnote h

theorem steps (kept : KeptByCalls store property) : KeptBySteps store (ofRun property) where
  log := kept.notes.log
  draw := fun _ _ h => h
  enter := fun _ _ h => h
  save := fun record model values _ h => kept.save record model values h
  pick := fun table run h => kept.pick table run.draws h
  relate := fun record field targets _ h => kept.relate record field targets h

theorem fieldValue (kept : KeptByCalls store property) (field : Field) :
    Keeps (ofRun property) (fieldValue store now field) :=
  kept.steps.fieldValue field

theorem keepInstance (kept : KeptByCalls store property) (record : Record) (model : Model)
    (values : Values) (number : Nat) :
    Keeps (ofRun property) (keepInstance store record model values number) :=
  kept.steps.keepInstance record model values number

theorem makeInstance (kept : KeptByCalls store property) (model : Model) (number : Nat) :
    Keeps (ofRun property) (makeInstance store now model number) :=
  kept.steps.makeInstance model number

theorem linkInstance (kept : KeptByCalls store property) (field : Field) (table : String)
    (record : Record) : Keeps (ofRun property) (linkInstance store field table record) :=
  kept.steps.linkInstance field table record

theorem fill (kept : KeptByCalls store property) (count : Nat) (models : List Model) :
    Keeps (ofRun property) (fill store now count models) := by
  unfold Generation.fill
  cases Order.dependencyOrder models with
  | error failure => exact Keeps.pure _
  | ok ordered =>
      refine Keeps.bind ?_ fun _ => Keeps.pure _
      refine (treatModels_keeps kept.notes fun model _ => kept.makeInstance model).bind fun _ => ?_
      exact (kept.steps.linkModels _).bind fun _ => Keeps.pure _

/-- What every call of a store keeps holds after a run if it held before. -/
theorem runRegistry (kept : KeptByCalls store property) (registry : Registry)
    (settings : Settings) : Keeps (ofRun property) (runRegistry store now registry settings) :=
  (kept.toKeptByBootstrap.bootstrap settings).bind fun _ => kept.fill _ _

/-- Nothing that stands in a journal is ever taken out of it. -/
theorem journal (store : Store σ) (start : List Event) :
    KeptByCalls store fun _ journal => start <:+ journal where
  note := fun _ _ h => h.trans (List.suffix_cons _ _)
  group := fun _ _ h => h.trans (List.suffix_cons _ _)
  admin := fun _ h => h.trans (List.suffix_cons _ _)
  save := fun _ _ _ h => h.trans (List.suffix_cons _ _)
  pick := fun _ _ h => h.trans (List.suffix_cons _ _)
  relate := fun _ _ _ h => h.trans (List.suffix_cons _ _)

end KeptByCalls

end SampleData
