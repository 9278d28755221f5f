import Mathlib.Algebra.BigOperators.Group.List.Basic
import Mathlib.Algebra.Ring.Nat
import SampleData.Proofs.Run.Accounting
import SampleData.Proofs.Run.DryRun

/-!
# Wiring

When all instances of a dry run are made, it is settled which link sets are due: one for each
instance through each field for which there is something to link to.  Their places are all
different, so that none takes the place of another, and each of them is put in.
-/

namespace SampleData

/-- A link set that is due for a record through a field, of records of a table. -/
structure Due where
  record : Record
  field : String
  table : String

def Due.place (due : Due) : Record × String :=
  (due.record, due.field)

/-- Lists of elements that show whose list they are in have nothing in common. -/
theorem nodup_flatMap_of_read {α β γ : Type} (read : β → γ) {elements : List α}
    {spread : α → List β} {tag : α → γ} (distinct : (elements.map tag).Nodup)
    (hspread : ∀ element ∈ elements, (spread element).Nodup)
    (hread : ∀ element ∈ elements, ∀ part ∈ spread element, read part = tag element) :
    (elements.flatMap spread).Nodup := by
  refine List.nodup_flatMap.2 ⟨hspread, ?_⟩
  refine (List.pairwise_map.1 distinct).imp_of_mem ?_
  intro first second hfirst hsecond hne part hin hother
  exact hne ((hread first hfirst part hin).symm.trans (hread second hsecond part hother))

namespace Ledger

/-! ## What is due -/

def hasTargets (ledger : Ledger) (field : Field) : Bool :=
  field.target.any fun table => ledger.count table != 0

def duesThrough (ledger : Ledger) (model : Model) (field : Field) : List Due :=
  match field.target with
  | none => []
  | some table =>
      if ledger.count table = 0 then []
      else (ledger.created model.table).map fun record => ⟨record, field.name, table⟩

def dues (ledger : Ledger) (models : List Model) : List Due :=
  models.flatMap fun model => model.manyToMany.flatMap (ledger.duesThrough model)

variable {ledger : Ledger} {model : Model} {field : Field} {models : List Model}

theorem count_eq_zero_iff {table : String} : ledger.count table = 0 ↔ ledger.created table = [] :=
  List.length_eq_zero_iff

theorem created_nodup (h : ledger.records.Nodup) (table : String) : (ledger.created table).Nodup :=
  List.nodup_reverse.2 (h.filter _)

theorem mem_duesThrough_iff {due : Due} :
    due ∈ ledger.duesThrough model field ↔
      field.target = some due.table ∧ ledger.created due.table ≠ [] ∧
        due.record ∈ ledger.created model.table ∧ due.field = field.name := by
  obtain ⟨record, name, table⟩ := due
  cases htarget : field.target with
  | none => simp [duesThrough, htarget]
  | some other =>
      simp only [duesThrough, htarget, count_eq_zero_iff, Option.some.injEq]
      split
      · next hempty =>
        simp only [List.not_mem_nil, false_iff]
        rintro ⟨rfl, hsome, -⟩
        exact hsome hempty
      · next hsome =>
        simp only [List.mem_map, Due.mk.injEq]
        constructor
        · rintro ⟨found, hfound, rfl, rfl, rfl⟩
          exact ⟨rfl, hsome, hfound, rfl⟩
        · rintro ⟨rfl, -, hrecord, rfl⟩
          exact ⟨record, hrecord, rfl, rfl, rfl⟩

theorem mem_dues_iff {due : Due} :
    due ∈ ledger.dues models ↔ ∃ model ∈ models, ∃ field ∈ model.manyToMany,
      field.target = some due.table ∧ ledger.created due.table ≠ [] ∧
        due.record ∈ ledger.created model.table ∧ due.field = field.name := by
  simp only [dues, List.mem_flatMap, mem_duesThrough_iff]

theorem length_duesThrough (ledger : Ledger) (model : Model) (field : Field) :
    (ledger.duesThrough model field).length =
      if ledger.hasTargets field then ledger.count model.table else 0 := by
  unfold duesThrough hasTargets
  cases field.target with
  | none => rfl
  | some table =>
      by_cases hcount : ledger.count table = 0
      · simp only [hcount, ↓reduceIte, List.length_nil, Option.any_some, bne_self_eq_false,
          Bool.false_eq_true]
      · have hne : (ledger.count table != 0) = true := bne_iff_ne.2 hcount
        simp only [hcount, ↓reduceIte, List.length_map, Option.any_some, hne]
        rfl

/-- As many link sets are due as there are instances, for each field with something to link to. -/
theorem length_dues (ledger : Ledger) (models : List Model) :
    (ledger.dues models).length = (models.map fun model =>
      ((model.manyToMany.filter ledger.hasTargets).map fun _ => ledger.count model.table).sum).sum := by
  rw [dues, List.length_flatMap]
  refine congrArg List.sum (List.map_congr_left fun model _ => ?_)
  rw [List.length_flatMap]
  induction model.manyToMany with
  | nil => rfl
  | cons field rest ih =>
      rw [List.map_cons, List.sum_cons, ih, length_duesThrough, List.filter_cons]
      by_cases htargets : ledger.hasTargets field = true
      · rw [if_pos htargets, if_pos htargets, List.map_cons, List.sum_cons]
      · rw [if_neg htargets, if_neg htargets, Nat.zero_add]

theorem places_nodup (hrecords : ledger.records.Nodup) (distinct : (models.map Model.table).Nodup)
    (hnames : ∀ model ∈ models, (model.manyToMany.map Field.name).Nodup) :
    ((ledger.dues models).map Due.place).Nodup := by
  have hthrough : ∀ model field, ((ledger.duesThrough model field).map Due.place).Nodup := by
    intro model field
    unfold duesThrough
    split
    · exact List.nodup_nil
    · split
      · exact List.nodup_nil
      · rw [List.map_map]
        exact (created_nodup hrecords _).map fun first second h => congrArg Prod.fst h
  simp only [dues, List.map_flatMap]
  refine nodup_flatMap_of_read (fun place => place.1.table) distinct ?_ ?_
  · intro model hmodel
    refine nodup_flatMap_of_read Prod.snd (hnames model hmodel) (fun _ _ => hthrough _ _) ?_
    intro field _ place hplace
    obtain ⟨due, hdue, rfl⟩ := List.mem_map.1 hplace
    exact (mem_duesThrough_iff.1 hdue).2.2.2
  · intro model _ place hplace
    obtain ⟨field, -, hplace⟩ := List.mem_flatMap.1 hplace
    obtain ⟨due, hdue, rfl⟩ := List.mem_map.1 hplace
    exact (mem_created_iff.1 (mem_duesThrough_iff.1 hdue).2.2.1).2

/-! ## Link sets -/

/--
Records that one link set may hold: one to five of those of a table, or fewer when there are
fewer, each once.
-/
structure IsLinkSet (ledger : Ledger) (table : String) (targets : List Record) : Prop where
  nodup : targets.Nodup
  nonempty : 1 ≤ targets.length
  bounded : targets.length ≤ min 5 (ledger.count table)
  created : ∀ target ∈ targets, target ∈ ledger.created table

theorem isLinkSet_sample (hrecords : ledger.records.Nodup) {table : String}
    (h : ledger.created table ≠ []) (draws : Draws) :
    ledger.IsLinkSet table (ledger.sample table draws).1 where
  nodup := by
    obtain ⟨chosen, hperm, hsublist⟩ := ledger.sample_subperm table draws
    exact hperm.nodup_iff.1 ((created_nodup hrecords table).sublist hsublist)
  nonempty := (length_sample h draws).1
  bounded := (length_sample h draws).2
  created := fun _ => mem_created_of_mem_sample

end Ledger

/-! ## Setting what is due -/

namespace MemoryStore

open Generation

def Meets (ledger : Ledger) (due : Due) (entry : (Record × String) × List Record) : Prop :=
  entry.1 = due.place ∧ ledger.IsLinkSet due.table entry.2

/--
A program puts in the link sets that are due and counts them, if all instances are made and the
places free.
-/
def Sets (ledger : Ledger) (dues : List Due) (program : StateM (Run MemoryStore) Nat) : Prop :=
  ∀ run, run.ledger = ledger → run.store.records = ledger.records → (dues.map Due.place).Nodup →
    (∀ due ∈ dues, due.place ∉ run.store.links.map Prod.fst) →
    ∃ entries, List.Forall₂ (Meets ledger) dues entries ∧ (program run).1 = dues.length ∧
      (program run).2.ledger = ledger ∧
      (program run).2.store = { run.store with links := entries.reverse ++ run.store.links }

theorem places_of_meets {ledger : Ledger} {dues : List Due}
    {entries : List ((Record × String) × List Record)} (h : List.Forall₂ (Meets ledger) dues entries) :
    entries.map Prod.fst = dues.map Due.place := by
  induction h with
  | nil => rfl
  | cons hfirst _ ih => rw [List.map_cons, List.map_cons, hfirst.1, ih]

namespace Sets

variable {ledger : Ledger}

theorem none {program : StateM (Run MemoryStore) Nat}
    (h : ∀ run, (program run).1 = 0 ∧ (program run).2.ledger = run.ledger ∧
      (program run).2.store = run.store) : Sets ledger [] program := by
  rintro run rfl - - -
  obtain ⟨hcount, hledger, hstore⟩ := h run
  exact ⟨[], .nil, hcount, hledger, hstore⟩

/-- What is due first is put in first, and does not stand in the way of what is due next. -/
theorem sum {dues others : List Due} {program next : StateM (Run MemoryStore) Nat}
    (h : Sets ledger dues program) (hnext : Sets ledger others next) :
    Sets ledger (dues ++ others) (do
      let linked ← program
      let more ← next
      pure (linked + more)) := by
  intro run hledger hrecords hnodup hfree
  rw [List.map_append, List.nodup_append'] at hnodup
  obtain ⟨hdues, hothers, hdisjoint⟩ := hnodup
  rw [List.forall_mem_append] at hfree
  obtain ⟨entries, hmeets, hcount, hkept, hstore⟩ := h run hledger hrecords hdues hfree.1
  have hstill : ∀ due ∈ others, due.place ∉ (program run).2.store.links.map Prod.fst := by
    intro due hdue hmem
    rw [hstore, List.map_append, List.map_reverse, places_of_meets hmeets] at hmem
    rcases List.mem_append.1 hmem with hmem | hmem
    · exact hdisjoint (List.mem_reverse.1 hmem) (List.mem_map_of_mem hdue)
    · exact hfree.2 due hdue hmem
  have hsame : (program run).2.store.records = ledger.records := by
    rw [hstore]
    exact hrecords
  obtain ⟨more, hmore, hlater, hlast, hfinal⟩ := hnext (program run).2 hkept hsame hothers hstill
  refine ⟨entries ++ more, List.rel_append hmeets hmore, ?_, hlast, ?_⟩
  · rw [List.length_append, ← hcount, ← hlater]
    rfl
  · rw [List.reverse_append, List.append_assoc]
    change (next (program run).2).2.store = _
    rw [hfinal, hstore]

end Sets

section

variable {ledger : Ledger} (hrecords : ledger.records.Nodup)

include hrecords

/-- One instance is linked: nothing is in the way, and its record is saved. -/
theorem linkInstance_sets {table : String} (htable : ledger.created table ≠ []) {record : Record}
    (hrecord : record ∈ ledger.records) (field : Field) :
    Sets ledger [⟨record, field.name, table⟩] (do
      let linked ← linkInstance store field table record
      pure (if linked then 1 else 0)) := by
  rintro run rfl hsame - hfree
  have hlinkSet := Ledger.isLinkSet_sample hrecords htable run.draws
  have hplace := List.forall_mem_singleton.1 hfree
  have hrest : (run.store.links.filter fun entry => entry.1 != (record, field.name)) =
      run.store.links := by
    refine List.filter_eq_self.2 fun entry hentry => bne_iff_ne.2 fun hsamePlace => ?_
    exact hplace (List.mem_map.2 ⟨entry, hentry, hsamePlace⟩)
  have hrelate := relate_eq_of_mem (hsame ▸ hrecord) field.name (run.ledger.sample table run.draws).1
  rw [hrest] at hrelate
  have hlinked : linkInstance store field table record run = _ := linkInstance_of_ok hrelate
  refine ⟨[((record, field.name), (run.ledger.sample table run.draws).1)],
    .cons ⟨rfl, hlinkSet⟩ .nil, ?_, ?_, ?_⟩
  · simp only [bind_apply, hlinked]
    rfl
  · simp only [bind_apply, hlinked, pure_apply]
  · simp only [bind_apply, hlinked, pure_apply]
    rfl

theorem linkInstances_sets {table : String} (htable : ledger.created table ≠ []) (field : Field)
    {records : List Record} (hsubset : records ⊆ ledger.records) :
    Sets ledger (records.map fun record => ⟨record, field.name, table⟩)
      (linkInstances store field table records) := by
  induction records with
  | nil => exact .none fun run => ⟨rfl, rfl, rfl⟩
  | cons record rest ih =>
      rw [List.cons_subset] at hsubset
      exact (linkInstance_sets hrecords htable hsubset.1 field).sum (ih hsubset.2)

theorem linkField_sets (model : Model) (field : Field) :
    Sets ledger (ledger.duesThrough model field) (linkField store model field) := by
  unfold Ledger.duesThrough
  cases htarget : field.target with
  | none =>
      refine .none fun run => ?_
      unfold linkField
      rw [htarget]
      exact ⟨rfl, rfl, rfl⟩
  | some table =>
      rintro run rfl
      rw [linkField_of_target store htarget]
      by_cases hcount : run.ledger.count table = 0
      · rw [if_pos hcount]
        simp only [if_pos hcount]
        exact fun _ _ _ => ⟨[], .nil, rfl, rfl, rfl⟩
      · rw [if_neg hcount]
        simp only [if_neg hcount]
        have hsubset : run.ledger.created model.table ⊆ run.ledger.records := fun record hrecord =>
          (Ledger.mem_created_iff.1 hrecord).1
        exact linkInstances_sets hrecords (mt Ledger.count_eq_zero_iff.2 hcount) field hsubset run rfl

theorem linkFields_sets (model : Model) (fields : List Field) :
    Sets ledger (fields.flatMap (ledger.duesThrough model)) (linkFields store model fields) := by
  induction fields with
  | nil => exact .none fun run => ⟨rfl, rfl, rfl⟩
  | cons field rest ih => exact (linkField_sets hrecords model field).sum ih

theorem linkModels_sets (models : List Model) :
    Sets ledger (ledger.dues models) (linkModels store models) := by
  induction models with
  | nil => exact .none fun run => ⟨rfl, rfl, rfl⟩
  | cons model rest ih => exact (linkFields_sets hrecords model model.manyToMany).sum ih

end

/-! ## When all instances are made -/

theorem applied_links {store : MemoryStore} {event : Event} (h : ¬ event.IsRelated) :
    (store.applied event).links = store.links := by
  cases event with
  | line text => rfl
  | log entry => rfl
  | groupEnsured table name answer =>
      change (ensureGroup table name store).2.links = store.links
      rw [ensureGroup_eq]
  | adminEnsured account answer =>
      change (ensureAdmin account store).2.links = store.links
      rw [ensureAdmin_eq]
  | saved record model values answer =>
      change (save record model values store).2.links = store.links
      rcases save_cases store record model values with ⟨-, hsave⟩ | ⟨failure, -, hsave⟩
      · rw [hsave]
      · rw [hsave]
  | picked table answer => rfl
  | related record field targets answer => exact absurd trivial h

theorem after_links {journal : List Event} (h : ∀ event ∈ journal, ¬ event.IsRelated) :
    (after journal).links = [] := by
  induction journal with
  | nil => rfl
  | cons event past ih =>
      rw [List.forall_mem_cons] at h
      exact (applied_links h.1).trans (ih h.2)

/-- What holds of a dry run when its instances are made and nothing is linked yet. -/
structure Settled (run : Run MemoryStore) : Prop where
  ledger : run.ledger = .ofJournal run.journal
  records : run.store.records = run.ledger.records
  nodup : run.ledger.records.Nodup
  unlinked : run.store.links = []

theorem treatModels_settled (now : Instant) (settings : Settings) (models : List Model)
    (draws : Draws) :
    Settled (treatModels store now settings.count models
      (bootstrap store settings { store := {}, draws }).2).2 := by
  let start : Run MemoryStore := { store := {}, draws }
  have hkeeps : Run.Keeps _ (treatModels store now settings.count models) :=
    treatModels_keeps replayed.notes fun model _ => replayed.makeInstance model
  have hreplayed := hkeeps _ (replayed.toKeptByBootstrap.bootstrap settings start ⟨rfl, trivial⟩)
  have hstart : Filling models start := ⟨rfl, nofun, .nil⟩
  have hfilling := Filling.treatModels store now settings.count (List.Subset.refl models) _
    (Filling.bootstrap store settings start hstart)
  obtain ⟨hstore, hanswered⟩ := hreplayed
  refine ⟨hfilling.ledger, ?_, ?_, ?_⟩
  · rw [hfilling.ledger, hstore, after_records hanswered]
  · rw [hfilling.ledger, ← after_records hanswered]
    exact after_records_nodup hanswered
  · rw [hstore, after_links hfilling.unrelated]

/-! ## Whole runs -/

/-- The links in the store of a run are complete and exact for models that were filled. -/
structure Wired (models : List Model) (run : Run MemoryStore) : Prop where
  /--
  A record has links under a name when it was created for a model with a field of this name that
  has something to link to, and only then.
  -/
  linked_iff : ∀ record name, (run.store.linksOf? record name).isSome ↔
    ∃ model ∈ models, record ∈ run.ledger.created model.table ∧
      ∃ field ∈ model.manyToMany, field.name = name ∧
        ∃ table, field.target = some table ∧ run.ledger.created table ≠ []
  linkSet : ∀ model ∈ models, ∀ record ∈ run.ledger.created model.table,
    ∀ field ∈ model.manyToMany, ∀ table, field.target = some table → ∀ targets,
      run.store.linksOf? record field.name = some targets → run.ledger.IsLinkSet table targets
  places : (run.store.links.map Prod.fst).Nodup
  length : run.store.links.length = (models.map fun model =>
    ((model.manyToMany.filter run.ledger.hasTargets).map fun _ =>
      run.ledger.count model.table).sum).sum

theorem linksOf?_isSome_iff {store : MemoryStore} {record : Record} {name : String} :
    (store.linksOf? record name).isSome ↔ (record, name) ∈ store.links.map Prod.fst := by
  rw [linksOf?, List.lookup_isSome_iff, List.mem_map]
  exact exists_congr fun entry => and_congr_right fun _ => by rw [beq_iff_eq, eq_comm]

theorem mem_links_of_linksOf? {store : MemoryStore} {record : Record} {name : String}
    {targets : List Record} (h : store.linksOf? record name = some targets) :
    ((record, name), targets) ∈ store.links := by
  obtain ⟨front, back, hsplit, -⟩ := List.lookup_eq_some_iff.1 h
  rw [hsplit]
  simp

theorem Wired.perm {models others : List Model} {run : Run MemoryStore} (h : Wired models run)
    (hperm : models.Perm others) : Wired others run where
  linked_iff := fun record name => by
    simp only [← hperm.mem_iff]
    exact h.linked_iff record name
  linkSet := fun model hmodel => h.linkSet model (hperm.mem_iff.2 hmodel)
  places := h.places
  length := h.length.trans (hperm.map _).sum_eq

theorem wired_of_meets {models : List Model} {run : Run MemoryStore}
    {entries : List ((Record × String) × List Record)} (distinct : (models.map Model.table).Nodup)
    (hnames : ∀ model ∈ models, (model.manyToMany.map Field.name).Nodup)
    (hnodup : ((run.ledger.dues models).map Due.place).Nodup)
    (hmeets : List.Forall₂ (Meets run.ledger) (run.ledger.dues models) entries)
    (hlinks : run.store.links = entries.reverse) : Wired models run where
  linked_iff := by
    intro record name
    rw [linksOf?_isSome_iff, hlinks, List.map_reverse, List.mem_reverse, places_of_meets hmeets,
      List.mem_map]
    constructor
    · rintro ⟨due, hdue, hplace⟩
      obtain ⟨model, hmodel, field, hfield, htarget, hsome, hrecord, hname⟩ :=
        Ledger.mem_dues_iff.1 hdue
      obtain ⟨rfl, rfl⟩ := Prod.mk.inj hplace
      exact ⟨model, hmodel, hrecord, field, hfield, hname.symm, due.table, htarget, hsome⟩
    · rintro ⟨model, hmodel, hrecord, field, hfield, rfl, table, htarget, hsome⟩
      exact ⟨⟨record, field.name, table⟩, Ledger.mem_dues_iff.2
        ⟨model, hmodel, field, hfield, htarget, hsome, hrecord, rfl⟩, rfl⟩
  linkSet := by
    intro model hmodel record hrecord field hfield table htarget targets hlookup
    have hentry := mem_links_of_linksOf? hlookup
    rw [hlinks, List.mem_reverse] at hentry
    obtain ⟨due, hdue, hplace, hlinkSet⟩ := exists_of_forall₂_of_mem hmeets hentry
    obtain ⟨other, hother, found, hfound, hdueTarget, -, hdueRecord, hname⟩ :=
      Ledger.mem_dues_iff.1 hdue
    obtain ⟨rfl, hfieldName⟩ := Prod.mk.inj hplace
    -- The place tells the model by the record's table, and then the field by its name.
    have htable : model.table = other.table :=
      (Ledger.mem_created_iff.1 hrecord).2.symm.trans (Ledger.mem_created_iff.1 hdueRecord).2
    obtain rfl := Registry.eq_of_table_eq distinct hmodel hother htable
    obtain rfl : field = found := List.inj_on_of_nodup_map (hnames model hmodel) hfield hfound
      (hfieldName.trans hname)
    obtain rfl : table = due.table := Option.some.inj (htarget.symm.trans hdueTarget)
    exact hlinkSet
  places := by
    rw [hlinks, List.map_reverse, places_of_meets hmeets]
    exact List.nodup_reverse.2 hnodup
  length := by
    rw [hlinks, List.length_reverse, ← hmeets.length_eq, Ledger.length_dues]

/--
A dry run over an accepted registry, none of whose models has two fields of one name for links to
many records, sets the links of every instance of every filled model through every such field
that has something to link to, and no others.  Each set holds one to five of the records created
in the table it links to, all different, and the summary counts the sets.
-/
theorem dryRun_wired {models : List Model} {registry : Registry}
    (h : Registry.ofModels models = .ok registry)
    (hnames : ∀ model ∈ registry.models, (model.manyToMany.map Field.name).Nodup)
    (now : Instant) (settings : Settings) (draws : Draws)
    (hacyclic : ¬ Order.Cyclic (registry.select settings.exclude settings.authApp)) :
    let selected := registry.select settings.exclude settings.authApp
    let filled := selected.filter fun model => model.WellNamed
    let run := runRegistry store now registry settings { store := {}, draws }
    ∃ summary, run.1 = .ok summary ∧
      (summary.processed.map Outcome.label).Perm (filled.map Model.label) ∧
      run.2.ledger = .ofJournal run.2.journal ∧ Wired filled run.2 ∧
      summary.linksSet = run.2.store.links.length := by
  intro selected filled run
  have hdistinct : (selected.map Model.table).Nodup := Registry.select_nodup h _ _
  obtain ⟨ordered, horder⟩ := (Order.exists_dependencyOrder_iff hdistinct).2 hacyclic
  have hperm : (ordered.filter fun model => model.WellNamed).Perm filled :=
    (Order.dependencyOrder_perm horder).filter _
  have htables : ((ordered.filter fun model => model.WellNamed).map Model.table).Nodup :=
    (hperm.map Model.table).nodup_iff.2 (hdistinct.sublist (List.filter_sublist.map _))
  have hfields : ∀ model ∈ ordered.filter fun model => model.WellNamed,
      (model.manyToMany.map Field.name).Nodup := fun model hmodel =>
    hnames model ((registry.select_sublist _ _).subset
      (List.mem_of_mem_filter (hperm.mem_iff.1 hmodel)))
  have hrun : run = _ := fill_of_ok store now horder (bootstrap store settings { store := {}, draws }).2
  obtain ⟨parts, -, htreated, hresult⟩ := treatModels_stretches store now settings.count ordered
    (bootstrap store settings { store := {}, draws }).2
  have hsettled := treatModels_settled now settings ordered draws
  generalize treatModels store now settings.count ordered
    (bootstrap store settings { store := {}, draws }).2 = treated at hrun hresult hsettled
  have hmodels : treated.1.filterMap Treatment.model? = ordered.filter fun model => model.WellNamed := by
    rw [hresult, filled_eq htreated]
  dsimp only at hrun
  rw [hmodels] at hrun
  have hplaces := Ledger.places_nodup hsettled.nodup htables hfields
  have hfree : ∀ due ∈ treated.2.ledger.dues (ordered.filter fun model => model.WellNamed),
      due.place ∉ treated.2.store.links.map Prod.fst := by
    simp [hsettled.unlinked]
  obtain ⟨entries, hmeets, hcount, hledger, hstore⟩ :=
    linkModels_sets hsettled.nodup _ treated.2 rfl hsettled.records hplaces hfree
  have hlinks : run.2.store.links = entries.reverse := by
    rw [hrun, hstore, hsettled.unlinked, List.append_nil]
  have hkept : run.2.ledger = treated.2.ledger := by rw [hrun, hledger]
  rw [← hkept] at hmeets hplaces
  refine ⟨_, congrArg Prod.fst hrun, ?_, ?_, ?_, ?_⟩
  · rw [labels_processed, hmodels]
    exact hperm.map _
  · exact (runRegistry_written store now registry settings {} draws).1
  · exact (wired_of_meets htables hfields hplaces hmeets hlinks).perm hperm
  · rw [hlinks, List.length_reverse, ← hmeets.length_eq, hkept]
    exact hcount

/-- Two posts are linked to tags and to posts, and the tags to nothing. -/
theorem dryRun_wired_posts_tags :
    let tag := (Model.ofName "blog" "tag").addField { name := "label", kind := .shortText }
    let post := (Model.ofName "blog" "post").addFields
      [{ name := "tags", kind := .manyToMany, target := some "tag" },
       { name := "related", kind := .manyToMany, target := some "post" }]
    let settings : Settings :=
      { count := 2, exclude := [], authApp := "auth", bootstrap := {}, admin := default }
    let run := runRegistry store ⟨0, 0⟩ ⟨[post, tag]⟩ settings { store := {}, draws := .ofSeed 7 }
    Registry.ofModels [post, tag] = .ok ⟨[post, tag]⟩ ∧
      run.2.store.links.map (fun entry => entry.1.2) = ["related", "related", "tags", "tags"] ∧
      ∃ summary, run.1 = .ok summary ∧ Wired [post, tag] run.2 ∧
        summary.linksSet = run.2.store.links.length := by
  intro tag post settings run
  have hregistry : Registry.ofModels [post, tag] = .ok ⟨[post, tag]⟩ := by decide
  have hnames : ∀ model ∈ [post, tag], (model.manyToMany.map Field.name).Nodup := by decide
  have hacyclic : ¬ Order.Cyclic [post, tag] :=
    (Order.exists_dependencyOrder_iff (by decide)).1 ⟨[post, tag], by decide⟩
  have hselected : Registry.select ⟨[post, tag]⟩ settings.exclude settings.authApp = [post, tag] := by
    decide +kernel
  have hfilled : [post, tag].filter (fun model => model.WellNamed) = [post, tag] := by decide +kernel
  rw [← hselected] at hacyclic
  obtain ⟨summary, hsummary, -, -, hwired, hcount⟩ :=
    dryRun_wired hregistry hnames ⟨0, 0⟩ settings (.ofSeed 7) hacyclic
  rw [hselected, hfilled] at hwired
  exact ⟨hregistry, by decide +kernel, summary, hsummary, hwired, hcount⟩

end MemoryStore

end SampleData
