import SampleData.Proofs.Run.Journal

/-!
# Runs told anew

A model can be replaced by another without anybody noticing when the two have the same names and
links to many records, when values are made for them alike, and when the store takes these values
for the one as for the other.  The runs are then the same but for the models that the journal
says instances were saved for.
-/

namespace SampleData

/-- An event told with other models in place of those that instances were saved for. -/
def Event.retold (other : Model → Model) : Event → Event
  | .saved record model values answer => .saved record (other model) values answer
  | event => event

theorem Event.IsFree.retold_eq {event : Event} (h : event.IsFree) (other : Model → Model) :
    event.retold other = event := by
  cases event <;> first | rfl | cases h

@[simp] theorem Event.line?_retold (other : Model → Model) (event : Event) :
    (event.retold other).line? = event.line? := by
  cases event <;> rfl

@[simp] theorem Event.entry?_retold (other : Model → Model) (event : Event) :
    Event.entry? (event.retold other) = Event.entry? event := by
  cases event <;> rfl

namespace Run

variable {σ α β γ δ : Type} {other : Model → Model}

def retold (other : Model → Model) (run : Run σ) : Run σ :=
  { run with journal := run.journal.map (Event.retold other) }

theorem lines_retold (other : Model → Model) (run : Run σ) :
    (run.retold other).lines = run.lines := by
  simp [lines, events, retold, List.filterMap_map, ← List.map_reverse]

theorem log_retold (other : Model → Model) (run : Run σ) : (run.retold other).log = run.log := by
  simp [log, events, retold, List.filterMap_map, ← List.map_reverse]

/-- A program does what another does, told with other models; what they give is told by a map. -/
def Retells (other : Model → Model) (tell : α → β) (program : StateM (Run σ) α)
    (twin : StateM (Run σ) β) : Prop :=
  ∀ run, twin (run.retold other) = (tell (program run).1, (program run).2.retold other)

namespace Retells

theorem pure (tell : α → β) (result : α) :
    Retells other tell (pure result : StateM (Run σ) α) (pure (tell result)) :=
  fun _ => rfl

theorem bind_of {tell : α → β} {retell : γ → δ} {good : α → Prop} {program : StateM (Run σ) α}
    {twin : StateM (Run σ) β} {next : α → StateM (Run σ) γ} {after : β → StateM (Run σ) δ}
    (h : Retells other tell program twin) (hgood : ∀ run, good (program run).1)
    (hnext : ∀ result, good result → Retells other retell (next result) (after (tell result))) :
    Retells other retell (program >>= next) (twin >>= after) := by
  intro run
  rw [bind_apply, bind_apply, h run]
  exact hnext _ (hgood run) _

theorem bind {tell : α → β} {retell : γ → δ} {program : StateM (Run σ) α} {twin : StateM (Run σ) β}
    {next : α → StateM (Run σ) γ} {after : β → StateM (Run σ) δ} (h : Retells other tell program twin)
    (hnext : ∀ result, Retells other retell (next result) (after (tell result))) :
    Retells other retell (program >>= next) (twin >>= after) := by
  have hall : ∀ result, True → Retells other retell (next result) (after (tell result)) :=
    fun result _ => hnext result
  exact h.bind_of (fun _ => trivial) hall

theorem get : Retells other (retold other) (get : StateM (Run σ) (Run σ)) get :=
  fun _ => rfl

theorem line (text : String) :
    Retells other id (note (.line text) : StateM (Run σ) Unit) (note (.line text)) :=
  fun _ => rfl

theorem logEntry (level : Level) (message : String) (details : List (String × String)) :
    Retells other id (logEntry level message details : StateM (Run σ) Unit)
      (logEntry level message details) :=
  fun _ => rfl

theorem draw (sampler : Sampler α) :
    Retells other id (draw sampler : StateM (Run σ) α) (draw sampler) :=
  fun _ => rfl

theorem pick (store : Store σ) (table : String) :
    Retells other id (pick store table) (pick store table) :=
  fun _ => rfl

theorem relate (store : Store σ) (record : Record) (field : String) (targets : List Record) :
    Retells other id (relate store record field targets) (relate store record field targets) :=
  fun _ => rfl

end Retells

end Run

namespace Generation

open Run

variable {σ : Type} (store : Store σ) (now : Instant)

/-- A model that may stand in the place of another. -/
structure PassesFor (other model : Model) : Prop where
  app : other.app = model.app
  label : other.label = model.label
  table : other.table = model.table
  manyToMany : other.manyToMany = model.manyToMany
  required : other.requiredTargets = model.requiredTargets
  check : checkModel other = checkModel model
  values : fieldValues store now other.fields = fieldValues store now model.fields
  save : ∀ record run state, store.save record other (fieldValues store now model.fields run).1 state =
    store.save record model (fieldValues store now model.fields run).1 state

def Treatment.retold (other : Model → Model) : Treatment → Treatment
  | filled model created => .filled (other model) created
  | leftOut model => .leftOut (other model)

variable {store now} {other : Model → Model}

/-! ## Values -/

theorem resolveTarget_retells (table : String) :
    Retells other id (resolveTarget store table) (resolveTarget store table) := by
  refine Retells.get.bind fun run => (Retells.draw _).bind fun chosen => ?_
  cases chosen with
  | some record => exact Retells.pure id _
  | none =>
      refine (Retells.pick store table).bind fun answer => ?_
      cases answer with
      | ok record => exact Retells.pure id _
      | error failure => exact (Retells.logEntry _ _ _).bind fun _ => Retells.pure id _

theorem fieldValue_retells (field : Field) :
    Retells other id (fieldValue store now field) (fieldValue store now field) := by
  unfold fieldValue
  split
  · refine Retells.bind ?_ fun _ => Retells.pure id _
    unfold resolveLink
    cases field.target with
    | none => exact Retells.pure id _
    | some table => exact resolveTarget_retells table
  · refine (Retells.draw _).bind fun result => ?_
    cases result with
    | ok value => exact Retells.pure id _
    | error failure => exact (Retells.logEntry _ _ _).bind fun _ => Retells.pure id _

theorem fieldValues_retells (fields : List Field) :
    Retells other id (fieldValues store now fields) (fieldValues store now fields) := by
  induction fields with
  | nil => exact Retells.pure id _
  | cons field rest ih =>
      unfold fieldValues
      split
      · exact ih
      · exact (fieldValue_retells field).bind fun _ => ih.bind fun _ => Retells.pure id _

/-! ## Instances -/

theorem keepInstance_retells {model : Model} (hlabel : (other model).label = model.label)
    {record : Record} {values : Values}
    (hsave : ∀ state, store.save record (other model) values state = store.save record model values state)
    (number : Nat) :
    Retells other id (keepInstance store record model values number)
      (keepInstance store record (other model) values number) := by
  intro run
  rcases hanswer : store.save record model values run.store with ⟨failure | _, state⟩
  · have hother : store.save record (other model) values (run.retold other).store =
        (.error failure, state) := (hsave run.store).trans hanswer
    rw [keepInstance_of_error hanswer, keepInstance_of_error hother, hlabel]
    rfl
  · have hother : store.save record (other model) values (run.retold other).store =
        (.ok (), state) := (hsave run.store).trans hanswer
    rw [keepInstance_of_ok hanswer, keepInstance_of_ok hother]
    rfl

theorem makeInstance_retells {model : Model} (h : PassesFor store now (other model) model)
    (number : Nat) :
    Retells other id (makeInstance store now model number)
      (makeInstance store now (other model) number) := by
  let good : Values → Prop := fun values => ∀ record state,
    store.save record (other model) values state = store.save record model values state
  have hgood : ∀ run, good (fieldValues store now model.fields run).1 :=
    fun run record state => h.save record run state
  rw [makeInstance_eq, makeInstance_eq, h.values, h.table]
  refine (fieldValues_retells model.fields).bind_of hgood fun values hvalues => ?_
  exact (Retells.draw Fake.recordKey).bind fun key =>
    keepInstance_retells h.label (hvalues ⟨model.table, key⟩) number

theorem makeInstances_retells {model : Model} (h : PassesFor store now (other model) model)
    (left number : Nat) :
    Retells other id (makeInstances store now model left number)
      (makeInstances store now (other model) left number) := by
  induction left generalizing number with
  | zero => exact Retells.pure id _
  | succ left ih =>
      exact (makeInstance_retells h number).bind fun _ => (ih (number + 1)).bind fun _ =>
        Retells.pure id _

/-! ## Models -/

theorem treatModel_retells {model : Model} (h : PassesFor store now (other model) model)
    (count : Nat) :
    Retells other (Treatment.retold other) (treatModel store now count model)
      (treatModel store now count (other model)) := by
  unfold treatModel
  rw [h.check, h.label]
  refine (Retells.line _).bind fun _ => ?_
  cases checkModel model with
  | error failure => exact (Retells.logEntry _ _ _).bind fun _ => Retells.pure (Treatment.retold other) (.leftOut model)
  | ok _ =>
      exact (makeInstances_retells h count 0).bind fun created => (Retells.line _).bind fun _ =>
        Retells.pure (Treatment.retold other) (.filled model created)

theorem treatModels_retells {models : List Model}
    (h : ∀ model ∈ models, PassesFor store now (other model) model) (count : Nat) :
    Retells other (List.map (Treatment.retold other)) (treatModels store now count models)
      (treatModels store now count (models.map other)) := by
  induction models with
  | nil => exact Retells.pure (List.map (Treatment.retold other)) []
  | cons model rest ih =>
      rw [List.forall_mem_cons] at h
      exact (treatModel_retells h.1 count).bind fun treatment => (ih h.2).bind fun others =>
        Retells.pure (List.map (Treatment.retold other)) (treatment :: others)

/-! ## Links -/

theorem linkInstance_retells (field : Field) (table : String) (record : Record) :
    Retells other id (linkInstance store field table record) (linkInstance store field table record) := by
  refine Retells.get.bind fun run => (Retells.draw _).bind fun targets => ?_
  refine (Retells.relate store record field.name targets).bind fun answer => ?_
  cases answer with
  | ok _ => exact Retells.pure id _
  | error failure => exact (Retells.logEntry _ _ _).bind fun _ => Retells.pure id _

theorem linkInstances_retells (field : Field) (table : String) (records : List Record) :
    Retells other id (linkInstances store field table records)
      (linkInstances store field table records) := by
  induction records with
  | nil => exact Retells.pure id _
  | cons record rest ih =>
      exact (linkInstance_retells field table record).bind fun _ => ih.bind fun _ => Retells.pure id _

theorem linkField_retells {model : Model} (h : PassesFor store now (other model) model)
    (field : Field) :
    Retells other id (linkField store model field) (linkField store (other model) field) := by
  intro run
  cases htarget : field.target with
  | none =>
      simp only [linkField, htarget]
      rfl
  | some table =>
      rw [linkField_of_target store htarget, linkField_of_target store htarget, h.label, h.table]
      change (if run.ledger.count table = 0 then _ else _) = _
      split
      · rfl
      · exact linkInstances_retells field table (run.ledger.created model.table) run

theorem linkFields_retells {model : Model} (h : PassesFor store now (other model) model)
    (fields : List Field) :
    Retells other id (linkFields store model fields) (linkFields store (other model) fields) := by
  induction fields with
  | nil => exact Retells.pure id _
  | cons field rest ih =>
      exact (linkField_retells h field).bind fun _ => ih.bind fun _ => Retells.pure id _

theorem linkModels_retells {models : List Model}
    (h : ∀ model ∈ models, PassesFor store now (other model) model) :
    Retells other id (linkModels store models) (linkModels store (models.map other)) := by
  induction models with
  | nil => exact Retells.pure id _
  | cons model rest ih =>
      rw [List.forall_mem_cons] at h
      rw [List.map_cons]
      unfold linkModels
      rw [h.1.manyToMany]
      exact (linkFields_retells h.1 model.manyToMany).bind fun _ => (ih h.2).bind fun _ =>
        Retells.pure id _

/-! ## Runs -/

theorem models_retold (other : Model → Model) (treatments : List Treatment) :
    (treatments.map (Treatment.retold other)).filterMap Treatment.model? =
      (treatments.filterMap Treatment.model?).map other := by
  rw [List.filterMap_map, List.map_filterMap]
  exact List.filterMap_congr fun treatment _ => by cases treatment <;> rfl

theorem summarize_retold (hlabel : ∀ model, (other model).label = model.label) (count : Nat)
    (treatments : List Treatment) (linked : Nat) :
    summarize count (treatments.map (Treatment.retold other)) linked =
      summarize count treatments linked := by
  have houtcome : ∀ treatment : Treatment,
      (treatment.retold other).outcome? count = treatment.outcome? count := by
    intro treatment
    cases treatment <;> simp [Treatment.retold, Treatment.outcome?, hlabel]
  have hskipped : ∀ treatment : Treatment,
      (treatment.retold other).skipped? = treatment.skipped? := by
    intro treatment
    cases treatment <;> simp [Treatment.retold, Treatment.skipped?, hlabel]
  simp only [summarize, List.filterMap_map, Function.comp_def, houtcome, hskipped]

theorem fillOrdered_retells (h : ∀ model, PassesFor store now (other model) model) (count : Nat)
    (models : List Model) :
    Retells other id (fillOrdered store now count models)
      (fillOrdered store now count (models.map other)) := by
  refine (treatModels_retells (fun model _ => h model) count).bind fun treatments => ?_
  rw [models_retold]
  refine (linkModels_retells fun model _ => h model).bind fun linked => ?_
  rw [id, summarize_retold fun model => (h model).label]
  exact Retells.pure id _

theorem fill_retells (h : ∀ model, PassesFor store now (other model) model) (count : Nat)
    (models : List Model) :
    Retells other id (fill store now count models) (fill store now count (models.map other)) := by
  have horder : Order.dependencyOrder (models.map other) =
      (Order.dependencyOrder models).map (List.map other) :=
    Order.dependencyOrder_map (fun model => (h model).table) (fun model => (h model).label)
      fun model _ => by rw [(h model).required]
  unfold fill
  rw [horder]
  cases Order.dependencyOrder models with
  | error failure => exact Retells.pure id _
  | ok ordered => exact (fillOrdered_retells h count ordered).bind fun _ => Retells.pure id _

theorem bootstrap_retells (settings : Settings) :
    Retells other id (bootstrap store settings) (bootstrap store settings) := by
  intro run
  obtain ⟨events, hextends, hfree⟩ := bootstrap_free store settings run
  let made := Bootstrap.run store settings.bootstrap settings.admin run.store
  have hmade : made.1.reverse = events := List.append_cancel_right hextends.journal
  have hsame : made.1.reverse.map (Event.retold other) = made.1.reverse := by
    rw [hmade]
    exact (List.map_congr_left fun event hmem => (hfree event hmem).retold_eq other).trans (List.map_id events)
  have hjournal : made.1.reverse ++ run.journal.map (Event.retold other) =
      (made.1.reverse ++ run.journal).map (Event.retold other) := by
    rw [List.map_append, hsame]
  exact congrArg (fun journal => ((), { run with store := made.2, journal })) hjournal

/-- A run over models that pass for others is the run over the others, told with them. -/
theorem runRegistry_retells (h : ∀ model, PassesFor store now (other model) model)
    (registry : Registry) (settings : Settings) :
    Retells other id (runRegistry store now registry settings)
      (runRegistry store now ⟨registry.models.map other⟩ settings) := by
  have hselect : Registry.select ⟨registry.models.map other⟩ settings.exclude settings.authApp =
      (registry.select settings.exclude settings.authApp).map other := by
    simp only [Registry.select, List.filter_map, Function.comp_def, (h _).app, (h _).label]
  refine (bootstrap_retells settings).bind fun _ => ?_
  rw [hselect]
  exact fill_retells h settings.count _

end Generation

end SampleData
