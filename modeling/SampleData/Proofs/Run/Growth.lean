import SampleData.Proofs.Run.Accounting
import SampleData.Proofs.Run.Replay
import SampleData.Proofs.Run.Sequence
import SampleData.Proofs.Store.Constraints
import SampleData.Proofs.Synthesis.Fillable

/-!
# Repeated runs

What runs over one store in memory, one after another, add to the table of a model that asks for
nothing that cannot be made up: one row for each attempt, unless its record is there already.
Whatever the other models are, no row is ever lost or changed.
-/

namespace SampleData

/-- A model each of whose instances can be saved as long as its record is new. -/
structure Model.Undemanding (model : Model) : Prop where
  named : model.WellNamed
  keyless : ∀ field ∈ model.fields, field.name ≠ Generation.keyField
  common : ∀ field ∈ model.fields, field.unique = false
  fillable : ∀ field ∈ model.fields, field.required = true → field.Fillable

/--
How many attempts at a model came upon their record among those that were there before or
created since.
-/
def occupied (present : List Record) (model : Model) : List Event → Nat
  | [] => 0
  | .saved record other _ _ :: past =>
      (if other = model ∧ (record ∈ present ∨ record ∈ (Ledger.ofJournal past).records) then 1 else 0) +
        occupied present model past
  | _ :: past => occupied present model past

theorem occupied_append {present : List Record} {model : Model} {events : List Event}
    (h : ∀ event ∈ events, event.model? = none) (journal : List Event) :
    occupied present model (events ++ journal) = occupied present model journal := by
  induction events with
  | nil => rfl
  | cons event rest ih =>
      rw [List.forall_mem_cons] at h
      cases event with
      | saved record other values answer => cases h.1
      | _ => exact ih h.2

theorem Event.created?_of_model?_eq_none {event : Event} (h : event.model? = none) :
    event.created? = none := by
  cases event <;> first | rfl | cases h

theorem Ledger.ofJournal_append_unsaved {events : List Event}
    (h : ∀ event ∈ events, event.model? = none) (journal : List Event) :
    Ledger.ofJournal (events ++ journal) = Ledger.ofJournal journal := by
  have hnone : events.filterMap Event.created? = [] := List.filterMap_eq_nil_iff.2
    fun event hmem => Event.created?_of_model?_eq_none (h event hmem)
  rw [ofJournal, List.filterMap_append, hnone]
  rfl

namespace Generation

open Run

variable {σ : Type} (store : Store σ) {now : Instant}

theorem plainValue_fills {field : Field} (h : field.Fillable) (hlow : -9990 ≤ now.date.year)
    (hhigh : now.date.year ≤ 9999) (run : Run σ) :
    ∃ made, (plainValue now field run).1 = some made := by
  obtain ⟨made, hmade⟩ := Synthesis.fills_value h hlow hhigh run.draws
  refine ⟨made, ?_⟩
  simp only [plainValue, bind_apply, draw_apply, hmade, pure_apply]

theorem fieldValues_fills (hlow : -9990 ≤ now.date.year) (hhigh : now.date.year ≤ 9999)
    {fields : List Field} {field : Field} (hfield : field ∈ fields) (hname : field.name ≠ keyField)
    (h : field.Fillable) (run : Run σ) :
    ∃ made, (field.name, made) ∈ (fieldValues store now fields run).1 := by
  induction fields generalizing run with
  | nil => cases hfield
  | cons first rest ih =>
      unfold fieldValues
      split
      · next hkey =>
        rcases List.mem_cons.1 hfield with rfl | hfield
        · exact absurd hkey hname
        · exact ih hfield run
      · simp only [bind_apply, pure_apply]
        rcases List.mem_cons.1 hfield with rfl | hfield
        · have hscalar : field.kind ≠ .foreignKey := fun hkind => by
            have hlink := h.scalar
            rw [hkind] at hlink
            cases hlink
          obtain ⟨made, hmade⟩ := plainValue_fills h hlow hhigh run
          have hvalue : (fieldValue store now field run).1 = some made := by
            rw [fieldValue, if_neg hscalar]
            exact hmade
          rw [hvalue]
          exact ⟨made, List.mem_append_left _ (List.mem_singleton_self _)⟩
        · obtain ⟨made, hmade⟩ := ih hfield (fieldValue store now first run).2
          exact ⟨made, List.mem_append_right _ hmade⟩

end Generation

namespace MemoryStore

open Run Generation

variable {now : Instant}

/-! ## What stands against an instance -/

theorem resolveTarget_saved (table : String) {run : Run MemoryStore}
    (hledger : run.ledger.records ⊆ run.store.records) :
    (resolveTarget store table run).2.store = run.store ∧
      ∀ target, (resolveTarget store table run).1 = some target → target ∈ run.store.records := by
  by_cases hempty : run.ledger.created table = []
  · have hpick : store.pick table run.draws run.store =
        ((pick table run.draws run.store).1, (pick table run.draws run.store).2.1, run.store) := rfl
    have hsaved := @mem_records_of_pick run.store table run.draws
    simp only [resolveTarget, bind_apply, get_apply, draw_apply, pick_apply,
      Ledger.choose_of_created_eq_nil hempty, hpick]
    generalize pick table run.draws run.store = picked at hsaved ⊢
    rcases picked with ⟨failure | found, draws, state⟩
    · refine ⟨rfl, fun target hfound => ?_⟩
      cases hfound
    · exact ⟨rfl, fun target hfound => hsaved (congrArg Except.ok hfound)⟩
  · obtain ⟨found, hfound, draws, hresult⟩ := resolveTarget_of_created store hempty
    rw [hresult]
    refine ⟨rfl, fun target htarget => ?_⟩
    cases htarget
    exact hledger (Ledger.mem_created_iff.1 hfound).1

theorem fieldValue_saved (now : Instant) (field : Field) {run : Run MemoryStore}
    (hledger : run.ledger.records ⊆ run.store.records) :
    (fieldValue store now field run).2.store = run.store ∧
      ∀ target, (fieldValue store now field run).1 = some (.record target) →
        target ∈ run.store.records := by
  unfold fieldValue
  split
  · unfold resolveLink
    cases field.target with
    | none =>
        refine ⟨rfl, fun target htarget => ?_⟩
        cases htarget
    | some table =>
        obtain ⟨hstore, hsaved⟩ := resolveTarget_saved table hledger
        refine ⟨hstore, fun target htarget => ?_⟩
        change (resolveTarget store table run).1.map Value.record = _ at htarget
        obtain ⟨found, hfound, hvalue⟩ := Option.map_eq_some_iff.1 htarget
        cases hvalue
        exact hsaved target hfound
  · have hne := Synthesis.value_ne_record now field run.draws
    simp only [plainValue, bind_apply, draw_apply]
    generalize Synthesis.value now field run.draws = sampled at hne ⊢
    rcases sampled with ⟨failure | value, draws⟩
    · refine ⟨rfl, fun target htarget => ?_⟩
      cases htarget
    · exact ⟨rfl, fun target htarget => absurd (congrArg Except.ok htarget) (hne target)⟩

theorem fieldValues_saved (now : Instant) (fields : List Field) {run : Run MemoryStore}
    (hledger : run.ledger.records ⊆ run.store.records) :
    (fieldValues store now fields run).2.store = run.store ∧
      ∀ name target, (name, Value.record target) ∈ (fieldValues store now fields run).1 →
        target ∈ run.store.records := by
  induction fields generalizing run with
  | nil =>
      refine ⟨rfl, fun name target hentry => ?_⟩
      cases hentry
  | cons field rest ih =>
      unfold fieldValues
      split
      · exact ih hledger
      · obtain ⟨made, hextends, -⟩ := fieldValue_made store now field run
        obtain ⟨hstore, hsaved⟩ := fieldValue_saved now field hledger
        rw [← hextends.ledger, ← hstore] at hledger
        obtain ⟨hlater, hothers⟩ := ih hledger
        simp only [bind_apply, pure_apply]
        refine ⟨hlater.trans hstore, fun name target hentry => ?_⟩
        rcases List.mem_append.1 hentry with hown | hother
        · rw [Option.mem_toList] at hown
          obtain ⟨value, hvalue, hpair⟩ := Option.map_eq_some_iff.1 hown
          cases hpair
          exact hsaved target hvalue
        · rw [← hstore]
          exact hothers name target hother

/-- Nothing but its own record stands against an instance of an undemanding model. -/
theorem taken_of_saveFault? {model : Model} (hmodel : model.Undemanding)
    (hlow : -9990 ≤ now.date.year) (hhigh : now.date.year ≤ 9999) {run : Run MemoryStore}
    (hledger : run.ledger.records ⊆ run.store.records) {key : String} {failure : Failure}
    (h : run.store.saveFault? ⟨model.table, key⟩ model (fieldValues store now model.fields run).1 =
      some failure) : (⟨model.table, key⟩ : Record) ∈ run.store.records := by
  by_contra hnew
  obtain ⟨-, hsaved⟩ := fieldValues_saved now model.fields hledger
  have hnone : run.store.saveFault? ⟨model.table, key⟩ model
      (fieldValues store now model.fields run).1 = none := by
    refine saveFault?_eq_none_iff.2 ⟨rfl, hnew, fun field hfield => ?_⟩
    refine fieldFault?_eq_none_iff.2 ⟨fun hrequired => ?_, fun target hvalue => ?_, fun hunique => ?_⟩
    · obtain ⟨made, hmade⟩ := fieldValues_fills store hlow hhigh hfield
        (hmodel.keyless field hfield) (hmodel.fillable field hfield hrequired) run
      refine Option.ne_none_iff_exists'.1 fun hmissing => ?_
      exact Values.get?_eq_none_iff.1 hmissing _ hmade rfl
    · exact hsaved field.name target (Values.mem_of_get?_eq_some hvalue)
    · rw [hmodel.common field hfield] at hunique
      cases hunique
  rw [hnone] at h
  cases h

/-! ## What is added -/

structure Grown (start : MemoryStore) (model : Model) (state : MemoryStore) (journal : List Event) :
    Prop where
  /-- The rows that were there are there still, below those of the records created since. -/
  rows : ∃ new, state.rows = new ++ start.rows ∧
    new.map Prod.fst = (Ledger.ofJournal journal).records
  /-- Every attempt either created its record or came upon it. -/
  balance : (Ledger.ofJournal journal).count model.table + occupied start.records model journal =
    (savedModels journal).count model

namespace Grown

variable {start state later : MemoryStore} {model : Model} {journal : List Event}

theorem refl (start : MemoryStore) (model : Model) : Grown start model start [] :=
  ⟨⟨[], rfl, rfl⟩, rfl⟩

theorem mem_records_iff (h : Grown start model state journal) {record : Record} :
    record ∈ state.records ↔
      record ∈ start.records ∨ record ∈ (Ledger.ofJournal journal).records := by
  obtain ⟨new, hrows, hnew⟩ := h.rows
  rw [records, hrows, List.map_append, hnew, List.mem_append, or_comm]
  rfl

theorem unsaved (h : Grown start model state journal) (hrows : later.rows = state.rows)
    {events : List Event} (hevents : ∀ event ∈ events, event.model? = none) :
    Grown start model later (events ++ journal) := by
  have hledger := Ledger.ofJournal_append_unsaved hevents journal
  have hsaved : savedModels (events ++ journal) = savedModels journal := by
    rw [savedModels, List.filterMap_append, List.filterMap_eq_nil_iff.2 hevents]
    rfl
  constructor
  · rw [hrows, hledger]
    exact h.rows
  · rw [hledger, hsaved, occupied_append hevents]
    exact h.balance

theorem event (h : Grown start model state journal) {event : Event} (hevent : event.model? = none)
    (hrows : later.rows = state.rows) : Grown start model later (event :: journal) :=
  h.unsaved hrows (List.forall_mem_singleton.2 hevent)

/--
An instance of any model is to be saved; that of the model at hand can fail for its record
alone.
-/
theorem saved (h : Grown start model state journal) {other : Model}
    (hother : other ≠ model → other.table ≠ model.table) {record : Record}
    (htable : record.table = other.table) {values : Values}
    (htaken : other = model → ∀ failure, state.saveFault? record other values = some failure →
      record ∈ state.records) :
    Grown start model (save record other values state).2
      (.saved record other values (save record other values state).1 :: journal) := by
  obtain ⟨new, hrows, hnew⟩ := h.rows
  have hmem := @h.mem_records_iff _ _ _ _ record
  have hbalance := h.balance
  rcases save_cases state record other values with ⟨hfault, hsave⟩ | ⟨failure, hfault, hsave⟩
  · have hfree : ¬ (record ∈ start.records ∨ record ∈ (Ledger.ofJournal journal).records) :=
      fun hin => not_mem_records_of_saveFault?_eq_none hfault (hmem.2 hin)
    rw [hsave]
    refine ⟨⟨(record, values) :: new, congrArg ((record, values) :: ·) hrows,
      congrArg (record :: ·) hnew⟩, ?_⟩
    change ((Ledger.ofJournal journal).add record).count model.table + _ = (other :: savedModels journal).count model
    rw [occupied, if_neg fun hsame => hfree hsame.2, Ledger.count, Ledger.created_add, htable]
    by_cases hsame : other = model
    · rw [if_pos (congrArg Model.table hsame), hsame, List.count_cons_self, List.length_append,
        ← hbalance, Ledger.count, List.length_singleton]
      omega
    · rw [if_neg (hother hsame), List.count_cons_of_ne hsame, ← hbalance, Ledger.count, Nat.zero_add]
  · rw [hsave]
    refine ⟨⟨new, hrows, hnew⟩, ?_⟩
    change (Ledger.ofJournal journal).count model.table + _ = (other :: savedModels journal).count model
    rw [occupied]
    by_cases hsame : other = model
    · rw [if_pos ⟨hsame, hmem.1 (htaken hsame failure hfault)⟩, hsame, List.count_cons_self, ← hbalance]
      omega
    · rw [if_neg fun hboth => hsame hboth.1, List.count_cons_of_ne hsame, Nat.zero_add]
      exact hbalance

end Grown

/-! ## What a run keeps up -/

section

variable {start : MemoryStore} {model : Model}

/-- A run whose ledger tells what its journal does, and whose store has grown by that. -/
def Growing (start : MemoryStore) (model : Model) (run : Run MemoryStore) : Prop :=
  run.ledger = .ofJournal run.journal ∧ Grown start model run.store run.journal

theorem growing_extend {events : List Event} {run later : Run MemoryStore} (h : Growing start model run)
    (hextends : Extends events run later) (hevents : ∀ event ∈ events, event.model? = none)
    (hrows : later.store.rows = run.store.rows) : Growing start model later := by
  constructor
  · rw [hextends.ledger, hextends.journal, h.1, Ledger.ofJournal_append_unsaved hevents]
  · rw [hextends.journal]
    exact h.2.unsaved hrows hevents

theorem growing_notes : KeepsNotes (Growing start model) :=
  KeepsNotes.of fun _ hnote _ h =>
    growing_extend h ⟨rfl, rfl⟩ (List.forall_mem_singleton.2 hnote.isAside.model?_eq_none) rfl

theorem growing_bootstrap (settings : Settings) :
    Keeps (Growing start model) (bootstrap store settings) := by
  have kept : KeptByBootstrap store (Grown start model) :=
    { note := fun event hnote h => h.event hnote.isAside.model?_eq_none rfl
      group := fun table name h => h.event rfl (ensureGroup_rows table name _)
      admin := fun account h => h.event rfl (ensureAdmin_rows account _) }
  rintro run ⟨hledger, hgrown⟩
  obtain ⟨events, hextends, hfree⟩ := bootstrap_free store settings run
  refine ⟨?_, kept.bootstrap settings run hgrown⟩
  rw [hextends.ledger, hextends.journal, hledger,
    Ledger.ofJournal_append fun event hmem => (hfree event hmem).isAside]

theorem growing_makeInstance (hmodel : model.Undemanding) (hlow : -9990 ≤ now.date.year)
    (hhigh : now.date.year ≤ 9999) {other : Model}
    (hother : other ≠ model → other.table ≠ model.table) (number : Nat) :
    Keeps (Growing start model) (makeInstance store now other number) := by
  rintro run ⟨hledger, hgrown⟩
  have hsubset : run.ledger.records ⊆ run.store.records := fun record hrecord =>
    hgrown.mem_records_iff.2 (.inr (hledger ▸ hrecord))
  obtain ⟨made, hextends, hmade⟩ := fieldValues_made store now other.fields run
  have hstore : (fieldValues store now other.fields run).2.store = run.store :=
    (fieldValues_saved now other.fields hsubset).1
  have htaken : other = model → ∀ key failure, run.store.saveFault? ⟨other.table, key⟩ other
      (fieldValues store now other.fields run).1 = some failure →
        (⟨other.table, key⟩ : Record) ∈ run.store.records := by
    rintro rfl key failure
    exact taken_of_saveFault? hmodel hlow hhigh hsubset
  have hready := growing_extend ⟨hledger, hgrown⟩ hextends
    (fun event hmem => (hmade.isAside event hmem).model?_eq_none) (congrArg MemoryStore.rows hstore)
  rw [← hstore] at htaken
  rw [makeInstance_eq]
  simp only [bind_apply, draw_apply]
  generalize fieldValues store now other.fields run = valued at htaken hready ⊢
  generalize Fake.recordKey valued.2.draws = drawn
  have hsaved := hready.2.saved hother rfl fun hsame failure => htaken hsame drawn.1 failure
  rcases hsave : save ⟨other.table, drawn.1⟩ other valued.1 valued.2.store with ⟨failure | _, state⟩
  · rw [hsave] at hsaved
    rw [keepInstance_of_error hsave]
    exact ⟨hready.1, hsaved.event rfl rfl⟩
  · rw [hsave] at hsaved
    rw [keepInstance_of_ok hsave]
    exact ⟨congrArg (Ledger.add · ⟨other.table, drawn.1⟩) hready.1, hsaved⟩

theorem growing_linkInstance (field : Field) (table : String) (record : Record) :
    Keeps (Growing start model) (linkInstance store field table record) := by
  intro run h
  obtain ⟨targets, answer, notes, -, hnotes, hextends, -⟩ :=
    linkInstance_made store field table record run
  refine growing_extend h hextends ?_ ?_
  · refine List.forall_mem_append.2 ⟨fun event hmem => (hnotes event hmem).isAside.model?_eq_none, ?_⟩
    simp [Event.model?]
  · rw [linkInstance_store]
    exact relate_rows record field.name _ run.store

/-- A run keeps the balance of every undemanding model that it selects. -/
theorem runRegistry_growing (hmodel : model.Undemanding) (hlow : -9990 ≤ now.date.year)
    (hhigh : now.date.year ≤ 9999) {registry : Registry} {settings : Settings}
    (hdistinct : ((registry.select settings.exclude settings.authApp).map Model.table).Nodup)
    (hselected : model ∈ registry.select settings.exclude settings.authApp) :
    Keeps (Growing start model) (runRegistry store now registry settings) := by
  refine (growing_bootstrap settings).bind fun _ => ?_
  intro run h
  cases horder : Order.dependencyOrder (registry.select settings.exclude settings.authApp) with
  | error failure =>
      rw [fill_of_error store now horder]
      exact h
  | ok ordered =>
      rw [fill_of_ok store now horder]
      have hmake : ∀ other ∈ ordered, ∀ number,
          Keeps (Growing start model) (makeInstance store now other number) := by
        intro other hother
        have hin := (Order.dependencyOrder_perm horder).mem_iff.1 hother
        exact growing_makeInstance hmodel hlow hhigh fun hne htable =>
          hne (Registry.eq_of_table_eq hdistinct hin hselected htable)
      have htreat : Keeps (Growing start model) (treatModels store now settings.count ordered) :=
        treatModels_keeps growing_notes hmake
      exact linkModels_keeps growing_notes.log (fun _ _ _ _ field _ table _ record _ =>
        growing_linkInstance field table record) _ (htreat run h)

end

/-! ## One run after another -/

structure Task where
  now : Instant
  registry : Registry
  settings : Settings
  draws : Draws

namespace Task

def selected (task : Task) : List Model :=
  task.registry.select task.settings.exclude task.settings.authApp

def run (task : Task) (state : MemoryStore) : Except Failure Summary × Run MemoryStore :=
  runRegistry store task.now task.registry task.settings { store := state, draws := task.draws }

structure Fills (task : Task) (model : Model) : Prop where
  accepted : ∃ models, Registry.ofModels models = .ok task.registry
  acyclic : ¬ Order.Cyclic task.selected
  selects : model ∈ task.selected
  year : -9990 ≤ task.now.date.year ∧ task.now.date.year ≤ 9999

end Task

def afterTasks (state : MemoryStore) (tasks : List Task) : MemoryStore :=
  tasks.foldl (fun state task => (task.run state).2.store) state

def FreshKeys (model : Model) : MemoryStore → List Task → Prop
  | _, [] => True
  | state, task :: rest =>
      occupied state.records model (task.run state).2.journal = 0 ∧
        FreshKeys model (task.run state).2.store rest

def rowsIn (table : String) (rows : List (Record × Values)) : List (Record × Values) :=
  rows.filter fun row => row.1.table == table

theorem rowsOf_append {state later : MemoryStore} {new : List (Record × Values)}
    (h : later.rows = new ++ state.rows) (table : String) :
    later.rowsOf table = rowsIn table new ++ state.rowsOf table := by
  rw [rowsOf, h, List.filter_append]
  rfl

theorem length_rowsIn {new : List (Record × Values)} {ledger : Ledger}
    (h : new.map Prod.fst = ledger.records) (table : String) :
    (rowsIn table new).length = ledger.count table := by
  rw [Ledger.count, Ledger.created, List.length_reverse, ← h, List.filter_map, List.length_map]
  rfl

/-- What a run over a store adds for an undemanding model that it selects. -/
structure Adds (task : Task) (model : Model) (state : MemoryStore) (new : List (Record × Values)) :
    Prop where
  /-- No row that was there is changed. -/
  rows : (task.run state).2.store.rows = new ++ state.rows
  /-- There is a new row for each attempt that did not come upon its record. -/
  count : (rowsIn model.table new).length +
    occupied state.records model (task.run state).2.journal = task.settings.count
  reported : ∃ summary, (task.run state).1 = .ok summary ∧
    ⟨model.label, task.settings.count, (rowsIn model.table new).length⟩ ∈ summary.processed
  others : ∀ other ∈ task.registry.models, other ∉ task.selected → rowsIn other.table new = []

theorem Task.Fills.exists_adds {task : Task} {model : Model} (h : task.Fills model)
    (hmodel : model.Undemanding) (state : MemoryStore) : ∃ new, Adds task model state new := by
  obtain ⟨models, hregistry⟩ := h.accepted
  have hdistinct : (task.selected.map Model.table).Nodup := Registry.select_nodup hregistry _ _
  have hgrowing : Growing state model (task.run state).2 :=
    runRegistry_growing hmodel h.year.1 h.year.2 hdistinct h.selects _ ⟨rfl, .refl state model⟩
  obtain ⟨hledger, ⟨new, hrows, hnew⟩, hbalance⟩ := hgrowing
  rw [← hledger] at hnew hbalance
  have hwritten := (runRegistry_written store task.now task.registry task.settings state task.draws).2
  have hattempts :=
    savedModels_runRegistry store task.now task.registry task.settings state task.draws
  obtain ⟨ordered, horder⟩ : ∃ ordered, Order.dependencyOrder
      (task.registry.select task.settings.exclude task.settings.authApp) = .ok ordered :=
    (Order.exists_dependencyOrder_iff hdistinct).2 h.acyclic
  obtain ⟨summary, hsummary⟩ := (exists_summary_iff store task.now task.registry task.settings
    { store := state, draws := task.draws }).2 ⟨ordered, horder⟩
  have hperm := Order.dependencyOrder_perm horder
  have hmem : model ∈ ordered := hperm.mem_iff.2 h.selects
  have hnodup : ordered.Nodup := hperm.nodup_iff.2 (List.Nodup.of_map _ hdistinct)
  rw [horder] at hattempts
  refine ⟨new, hrows, ?_, ⟨summary, hsummary, ?_⟩, ?_⟩
  · rw [length_rowsIn hnew, hbalance]
    change (savedModels (runRegistry store task.now task.registry task.settings
      { store := state, draws := task.draws }).2.journal).count model = _
    rw [hattempts, List.count_reverse]
    exact count_attempted hnodup hmem (checkModel_eq_ok_iff.2 hmodel.named) task.settings.count
  · rw [length_rowsIn hnew]
    exact mem_processed store task.now hregistry task.settings state task.draws hsummary h.selects
      hmodel.named
  · -- What is new was saved for a selected model, and no other model has its table.
    intro other hother hnot
    refine List.filter_eq_nil_iff.2 fun row hrow htable => hnot ?_
    have hrecord : row.1 ∈ (task.run state).2.ledger.records := hnew ▸ List.mem_map_of_mem hrow
    rw [hledger, Ledger.mem_ofJournal_iff] at hrecord
    obtain ⟨maker, values, hsaved⟩ := hrecord
    obtain ⟨later, past, hsplit⟩ := List.append_of_mem hsaved
    obtain ⟨hmaker, hof, -⟩ := (hwritten.lawful.of_split hsplit).1
    have hsame : other = maker := Registry.eq_of_table_eq (Registry.ofModels_nodup hregistry) hother
      ((task.registry.select_sublist _ _).subset hmaker) ((beq_iff_eq.1 htable).symm.trans hof)
    exact hsame ▸ hmaker

/--
A run whose selected models do not go round in a circle adds to the table of an undemanding model
one row for each attempt that does not come upon its record, reports so many, leaves every row
that was there as it was, and adds none to the tables of models that are not selected.  After
several runs none of whose keys is taken, there are as many new rows as runs times instances.
-/
theorem runs_grow {model : Model} (hmodel : model.Undemanding) :
    (∀ (task : Task) (state : MemoryStore), task.Fills model → ∃ new, Adds task model state new) ∧
      ∀ (count : Nat) (tasks : List Task) (state : MemoryStore),
        (∀ task ∈ tasks, task.Fills model ∧ task.settings.count = count) →
          FreshKeys model state tasks →
            ((afterTasks state tasks).rowsOf model.table).length =
              tasks.length * count + (state.rowsOf model.table).length := by
  refine ⟨fun task state h => h.exists_adds hmodel state, fun count tasks => ?_⟩
  induction tasks with
  | nil =>
      intro state _ _
      simp [afterTasks]
  | cons task rest ih =>
      intro state htasks hfresh
      rw [List.forall_mem_cons] at htasks
      obtain ⟨⟨hfills, rfl⟩, hrest⟩ := htasks
      obtain ⟨new, hadds⟩ := hfills.exists_adds hmodel state
      have hcount := hadds.count
      rw [hfresh.1, Nat.add_zero] at hcount
      change ((afterTasks (task.run state).2.store rest).rowsOf model.table).length = _
      rw [ih _ hrest hfresh.2, rowsOf_append hadds.rows, List.length_append, hcount, List.length_cons,
        Nat.succ_mul, Nat.add_assoc]

/-- Persons have addresses and salaries, but never the ghosts that they may link to. -/
theorem runs_grow_persons :
    let person := (Model.ofName "staff" "person").addFields
      [{ name := "email", kind := .email, maxLength := some 20 },
       { name := "salary", kind := .decimal },
       { name := "ghost", kind := .foreignKey, required := false, target := some "ghost" }]
    let settings : Settings :=
      { count := 2, exclude := [], authApp := "auth", bootstrap := {}, admin := default }
    let task (seed : UInt64) : Task := ⟨⟨1577836800, 0⟩, ⟨[person]⟩, settings, .ofSeed seed⟩
    person.Undemanding ∧ (task 7).Fills person ∧ (task 8).Fills person ∧
      FreshKeys person {} [task 7, task 8] ∧
      ((afterTasks {} [task 7, task 8]).rowsOf "person").length = 4 := by
  intro person settings task
  have hmodel : person.Undemanding := by
    refine ⟨by decide +kernel, by decide, by decide, fun field hfield hrequired => ?_⟩
    change field ∈ [_, _, _] at hfield
    simp only [List.mem_cons, List.not_mem_nil, or_false] at hfield
    rcases hfield with rfl | rfl | rfl
    · exact ⟨rfl, nofun, nofun, by decide, nofun⟩
    · exact ⟨rfl, nofun, nofun, nofun, by decide⟩
    · cases hrequired
  have hregistry : Registry.ofModels [person] = .ok ⟨[person]⟩ := by decide +kernel
  have hselected : Registry.select ⟨[person]⟩ settings.exclude settings.authApp = [person] := by
    decide +kernel
  have hyear : -9990 ≤ (⟨1577836800, 0⟩ : Instant).date.year ∧
      (⟨1577836800, 0⟩ : Instant).date.year ≤ 9999 := by decide +kernel
  have hacyclic : ¬ Order.Cyclic [person] :=
    (Order.exists_dependencyOrder_iff (by decide)).1 ⟨[person], by decide⟩
  have hmem : person ∈ [person] := List.mem_singleton_self person
  rw [← hselected] at hacyclic hmem
  have hfills : ∀ seed, (task seed).Fills person := fun _ =>
    ⟨⟨[person], hregistry⟩, hacyclic, hmem, hyear⟩
  have hfirst : occupied [] person ((task 7).run {}).2.journal = 0 := by decide +kernel
  have hsecond : occupied ((task 7).run {}).2.store.records person
      ((task 8).run ((task 7).run {}).2.store).2.journal = 0 := by decide +kernel
  have hfresh : FreshKeys person {} [task 7, task 8] := ⟨hfirst, hsecond, trivial⟩
  have htasks : ∀ each ∈ [task 7, task 8], each.Fills person ∧ each.settings.count = 2 := by
    simp [hfills, task, settings]
  exact ⟨hmodel, hfills 7, hfills 8, hfresh, (runs_grow hmodel).2 2 _ {} htasks hfresh⟩

end MemoryStore

end SampleData
