import SampleData.Proofs.Order.Acyclic
import SampleData.Proofs.Run.Making

/-!
# What stands in a journal

The ledger of a run is what its journal says was saved.  A journal is written instance by
instance and, when no instance is left to make, link set by link set.  From this follows what
every single event finds before it.
-/

namespace SampleData

/-- The journals that runs over models write, the latest event first. -/
inductive Written (models : List Model) : List Event → Prop
  | nil : Written models []
  | free {event : Event} {journal : List Event} (hfree : event.IsFree)
      (h : Written models journal) : Written models (event :: journal)
  /-- An instance is made, and the store is asked to save it. -/
  | saved {model : Model} {made journal : List Event} {values : Values} {key : String}
      {answer : Except Failure Unit} (hmodel : model ∈ models)
      (hmade : FieldsMade (.ofJournal journal) model.fields made values)
      (hunrelated : ∀ event ∈ journal, ¬ event.IsRelated) (h : Written models journal) :
      Written models (.saved ⟨model.table, key⟩ model values answer :: (made ++ journal))
  /-- An instance of the ledger is to be linked to others. -/
  | related {model : Model} {field : Field} {table : String} {record : Record}
      {targets : List Record} {answer : Except Failure Unit} {journal : List Event}
      (hmodel : model ∈ models) (hfield : field ∈ model.manyToMany)
      (htarget : field.target = some table)
      (hrecord : record ∈ (Ledger.ofJournal journal).created model.table)
      (htargets : ∀ target ∈ targets, target ∈ (Ledger.ofJournal journal).created table)
      (h : Written models journal) :
      Written models (.related record field.name targets answer :: journal)

theorem Written.append_free {models : List Model} {events journal : List Event}
    (hfree : ∀ event ∈ events, event.IsFree) (h : Written models journal) :
    Written models (events ++ journal) := by
  induction events with
  | nil => exact h
  | cons event events ih =>
      rw [List.forall_mem_cons] at hfree
      exact .free hfree.1 (ih hfree.2)

theorem Written.append_notes {models : List Model} {notes journal : List Event}
    (hnotes : ∀ event ∈ notes, event.IsNote) (h : Written models journal) :
    Written models (notes ++ journal) :=
  h.append_free fun event hmem => (hnotes event hmem).isFree

/-! ## Whole runs -/

/-- A run that is making instances: its ledger and journal agree, and no links are set yet. -/
structure Filling {σ : Type} (models : List Model) (run : Run σ) : Prop where
  ledger : run.ledger = .ofJournal run.journal
  unrelated : ∀ event ∈ run.journal, ¬ event.IsRelated
  written : Written models run.journal

/-- A run that is setting links: nothing is added any more to a ledger. -/
structure Linking {σ : Type} (models : List Model) (ledger : Ledger) (run : Run σ) : Prop where
  fixed : run.ledger = ledger
  ledger : .ofJournal run.journal = ledger
  written : Written models run.journal

namespace Generation

open Run

variable {σ : Type} (store : Store σ) (now : Instant)

theorem bootstrap_free (settings : Settings) (run : Run σ) :
    ∃ events, Extends events run (bootstrap store settings run).2 ∧
      ∀ event ∈ events, event.IsFree := by
  have hcons : ∀ {journal} (event : Event), event.IsFree →
      (∃ events, journal = events ++ run.journal ∧ ∀ event ∈ events, event.IsFree) →
      ∃ events, event :: journal = events ++ run.journal ∧ ∀ event ∈ events, event.IsFree := by
    rintro journal event hevent ⟨events, rfl, hfree⟩
    exact ⟨event :: events, rfl, List.forall_mem_cons.2 ⟨hevent, hfree⟩⟩
  have kept : KeptByBootstrap store fun _ journal =>
      ∃ events, journal = events ++ run.journal ∧ ∀ event ∈ events, event.IsFree :=
    { note := fun event hnote => hcons event hnote.isFree
      group := fun _ _ => hcons _ trivial
      admin := fun _ => hcons _ trivial }
  obtain ⟨events, hjournal, hfree⟩ := kept.bootstrap settings run ⟨[], rfl, nofun⟩
  exact ⟨events, ⟨hjournal, rfl⟩, hfree⟩

theorem treatModels_sublist (count : Nat) (models : List Model) (run : Run σ) :
    ((treatModels store now count models run).1.filterMap Treatment.model?).Sublist models := by
  induction models generalizing run with
  | nil => exact List.Sublist.refl []
  | cons model rest ih =>
      have hmodel : (treatModel store now count model run).1.model? = some model ∨
          (treatModel store now count model run).1.model? = none := by
        simp only [treatModel, bind_apply]
        cases checkModel model with
        | error failure => exact .inr rfl
        | ok _ => exact .inl rfl
      have hrest := ih (treatModel store now count model run).2
      simp only [treatModels, bind_apply, pure_apply, List.filterMap_cons]
      rcases hmodel with hmodel | hmodel
      · rw [hmodel]
        exact hrest.cons_cons model
      · rw [hmodel]
        exact hrest.cons model

theorem fill_of_error {count : Nat} {models : List Model} {failure : Failure}
    (horder : Order.dependencyOrder models = .error failure) (run : Run σ) :
    fill store now count models run = (.error failure, run) := by
  rw [fill, horder]
  rfl

theorem fill_of_ok {count : Nat} {models ordered : List Model}
    (horder : Order.dependencyOrder models = .ok ordered) (run : Run σ) :
    fill store now count models run =
      let treated := treatModels store now count ordered run
      let linked := linkModels store (treated.1.filterMap Treatment.model?) treated.2
      (.ok (summarize count treated.1 linked.1), linked.2) := by
  rw [fill, horder]
  rfl

end Generation

namespace Filling

open Run Generation

variable {σ : Type} (store : Store σ) (now : Instant) {models : List Model}

theorem extends_free {events : List Event} {run later : Run σ} (h : Filling models run)
    (hextends : Extends events run later) (hfree : ∀ event ∈ events, event.IsFree) :
    Filling models later where
  ledger := by
    rw [hextends.ledger, hextends.journal, h.ledger,
      Ledger.ofJournal_append fun event hmem => (hfree event hmem).isAside]
  unrelated := by
    rw [hextends.journal]
    intro event hmem
    rcases List.mem_append.1 hmem with hmem | hmem
    · exact (hfree event hmem).isAside.not_isRelated
    · exact h.unrelated event hmem
  written := hextends.journal ▸ h.written.append_free hfree

theorem notes : KeepsNotes (Filling (σ := σ) models) := by
  refine KeepsNotes.of fun event hnote run h => ?_
  have hfree : ∀ other ∈ [event], other.IsFree := by simpa using hnote.isFree
  exact h.extends_free ⟨rfl, rfl⟩ hfree

theorem makeInstance {model : Model} (hmodel : model ∈ models) (number : Nat) :
    Keeps (Filling models) (makeInstance store now model number) := by
  intro run h
  obtain ⟨made, values, key, answer, notes, hmade, hnotes, hjournal, hledger, -⟩ :=
    makeInstance_made store now model number run
  rw [h.ledger] at hmade hledger
  constructor
  · rw [hledger, hjournal, Ledger.ofJournal_append fun event hmem => (hnotes event hmem).isAside,
      Ledger.ofJournal_saved, Ledger.ofJournal_append hmade.isAside]
  · rw [hjournal]
    intro event hmem
    simp only [List.mem_append, List.mem_cons] at hmem
    rcases hmem with hmem | rfl | hmem | hmem
    · exact (hnotes event hmem).isAside.not_isRelated
    · exact id
    · exact (hmade.isAside event hmem).not_isRelated
    · exact h.unrelated event hmem
  · rw [hjournal]
    exact Written.append_notes hnotes (.saved hmodel hmade h.unrelated h.written)

theorem bootstrap (settings : Settings) :
    Keeps (Filling models) (bootstrap store settings) := by
  intro run h
  obtain ⟨events, hextends, hfree⟩ := bootstrap_free store settings run
  exact h.extends_free hextends hfree

theorem treatModels (count : Nat) {others : List Model} (hsubset : others ⊆ models) :
    Keeps (Filling models) (treatModels store now count others) :=
  treatModels_keeps notes fun _ hmodel number => makeInstance store now (hsubset hmodel) number

end Filling

namespace Linking

open Run Generation

variable {σ : Type} (store : Store σ) {models : List Model} {ledger : Ledger}

theorem notes : KeepsNotes (Linking (σ := σ) models ledger) := by
  refine KeepsNotes.of fun event hnote run h => ⟨h.fixed, ?_, .free hnote.isFree h.written⟩
  rw [← h.ledger]
  exact Ledger.ofJournal_append (by simpa using hnote.isAside : ∀ other ∈ [event], other.IsAside)

theorem linkInstance {model : Model} (hmodel : model ∈ models) {field : Field}
    (hfield : field ∈ model.manyToMany) {table : String} (htarget : field.target = some table)
    {record : Record} (hrecord : record ∈ ledger.created model.table) :
    Keeps (Linking models ledger) (linkInstance store field table record) := by
  intro run h
  obtain ⟨targets, answer, notes, htargets, hnotes, hextends, -⟩ :=
    linkInstance_made store field table record run
  have hjournal := hextends.journal
  rw [List.append_assoc] at hjournal
  rw [h.fixed, ← h.ledger] at htargets
  rw [← h.ledger] at hrecord
  refine ⟨hextends.ledger.trans h.fixed, ?_, ?_⟩
  · rw [hjournal, Ledger.ofJournal_append fun event hmem => (hnotes event hmem).isAside]
    exact h.ledger
  · rw [hjournal]
    exact Written.append_notes hnotes (.related hmodel hfield htarget hrecord htargets h.written)

theorem linkModels {others : List Model} (hsubset : others ⊆ models) :
    Keeps (Linking models ledger) (linkModels store others) := by
  refine linkModels_keeps notes.log ?_
  intro run h model hmodel field hfield table htarget record hrecord
  rw [h.fixed] at hrecord
  exact linkInstance store (hsubset hmodel) hfield htarget hrecord

end Linking

/-- A run that starts with nothing enters in its ledger what its journal says was saved. -/
theorem Generation.runRegistry_written {σ : Type} (store : Store σ) (now : Instant)
    (registry : Registry) (settings : Settings) (state : σ) (draws : Draws) :
    let run := (runRegistry store now registry settings { store := state, draws }).2
    run.ledger = .ofJournal run.journal ∧
      Written (registry.select settings.exclude settings.authApp) run.journal := by
  intro run
  let models := registry.select settings.exclude settings.authApp
  have hstart : Filling models ({ store := state, draws } : Run σ) := ⟨rfl, nofun, .nil⟩
  have hready := Filling.bootstrap store settings _ hstart
  cases horder : Order.dependencyOrder models with
  | error failure =>
      have hrun : run = _ := congrArg Prod.snd (fill_of_error store now horder _)
      rw [hrun]
      exact ⟨hready.ledger, hready.written⟩
  | ok ordered =>
      have hrun : run = _ := congrArg Prod.snd (fill_of_ok store now horder _)
      have hsubset : ordered ⊆ models := (Order.dependencyOrder_perm horder).subset
      have hfilled := Filling.treatModels store now settings.count hsubset _ hready
      have htreated := treatModels_sublist store now settings.count ordered
        (bootstrap store settings { store := state, draws }).2
      have hlinked := Linking.linkModels store (List.Subset.trans htreated.subset hsubset)
        _ ⟨rfl, hfilled.ledger.symm, hfilled.written⟩
      rw [hrun]
      exact ⟨hlinked.fixed.trans hlinked.ledger.symm, hlinked.written⟩

/-! ## What each event finds -/

/-- Every event of a journal is allowed by the events before it. -/
def Throughout (allowed : List Event → Event → Prop) : List Event → Prop
  | [] => True
  | event :: past => allowed past event ∧ Throughout allowed past

namespace Throughout

variable {allowed : List Event → Event → Prop}

theorem of_append {later past : List Event} (h : Throughout allowed (later ++ past)) :
    Throughout allowed past := by
  induction later with
  | nil => exact h
  | cons event later ih => exact ih h.2

theorem of_split {journal later past : List Event} {event : Event}
    (h : Throughout allowed journal) (hsplit : journal = later ++ event :: past) :
    allowed past event ∧ Throughout allowed past := by
  rw [hsplit] at h
  exact h.of_append

end Throughout

/-- What the events before an event, the latest first, allow it to be in a run over models. -/
def Event.Allowed (models : List Model) (past : List Event) : Event → Prop
  | saved record model values _ =>
      model ∈ models ∧ record.table = model.table ∧ (∀ event ∈ past, ¬ event.IsRelated) ∧
        ∃ made earlier, past = made ++ earlier ∧
          FieldsMade (.ofJournal earlier) model.fields made values
  | picked table _ => (Ledger.ofJournal past).created table = []
  | related record name targets _ =>
      ∃ model ∈ models, ∃ field ∈ model.manyToMany, field.name = name ∧
        ∃ table, field.target = some table ∧
          record ∈ (Ledger.ofJournal past).created model.table ∧
          ∀ target ∈ targets, target ∈ (Ledger.ofJournal past).created table
  | _ => True

abbrev Lawful (models : List Model) : List Event → Prop :=
  Throughout (Event.Allowed models)

namespace Lawful

variable {models : List Model} {journal : List Event}

theorem of_free {event : Event} (hfree : event.IsFree) (past : List Event) :
    event.Allowed models past := by
  cases event <;> trivial

theorem append_notes {notes : List Event} (hnotes : ∀ event ∈ notes, event.IsNote)
    (h : Lawful models journal) : Lawful models (notes ++ journal) := by
  induction notes with
  | nil => exact h
  | cons event notes ih =>
      rw [List.forall_mem_cons] at hnotes
      exact ⟨of_free hnotes.1.isFree _, ih hnotes.2⟩

theorem fieldMade {field : Field} {made : List Event} {value : Option Value}
    (hmade : FieldMade (.ofJournal journal) field made value) (h : Lawful models journal) :
    Lawful models (made ++ journal) := by
  cases hmade with
  | plain _ hnotes _ => exact h.append_notes hnotes
  | untargeted _ _ => exact h
  | created _ _ _ => exact h
  | picked _ _ hempty hnotes =>
      rw [List.append_assoc]
      exact append_notes hnotes ⟨hempty, h⟩

theorem fieldsMade {fields : List Field} {made : List Event} {values : Values}
    (hmade : FieldsMade (.ofJournal journal) fields made values) (h : Lawful models journal) :
    Lawful models (made ++ journal) := by
  generalize hledger : Ledger.ofJournal journal = ledger at hmade
  induction hmade generalizing journal with
  | nil => exact h
  | key _ _ ih => exact ih h hledger
  | cons _ hfield _ ih =>
      rw [List.append_assoc]
      refine ih (h.fieldMade (hledger.symm ▸ hfield)) ?_
      rw [Ledger.ofJournal_append hfield.isAside, hledger]

end Lawful

theorem Written.lawful {models : List Model} {journal : List Event} (h : Written models journal) :
    Lawful models journal := by
  induction h with
  | nil => trivial
  | free hfree _ ih => exact ⟨Lawful.of_free hfree _, ih⟩
  | @saved model made journal _ _ _ hmodel hmade hunrelated _ ih =>
      refine ⟨⟨hmodel, rfl, ?_, made, journal, rfl, hmade⟩, ih.fieldsMade hmade⟩
      intro event hmem
      rcases List.mem_append.1 hmem with hmem | hmem
      · exact (hmade.isAside event hmem).not_isRelated
      · exact hunrelated event hmem
  | @related model field table _ _ _ _ hmodel hfield htarget hrecord htargets _ ih =>
      exact ⟨⟨model, hmodel, field, hfield, rfl, table, htarget, hrecord, htargets⟩, ih⟩

/-- A look for a record is for an instance, which is to be saved later. -/
theorem Written.saved_after_picked {models : List Model} {journal : List Event}
    (h : Written models journal) {later past : List Event} {table : String}
    {answer : Except Failure (Option Record)} (hsplit : journal = later ++ .picked table answer :: past) :
    ∃ event ∈ later, event.model? ≠ none := by
  induction h generalizing later with
  | nil => cases later <;> cases hsplit
  | free hfree _ ih =>
      cases later with
      | nil =>
          cases hsplit
          cases hfree
      | cons event later =>
          cases hsplit
          obtain ⟨found, hfound, hmodel⟩ := ih rfl
          exact ⟨found, List.mem_cons_of_mem _ hfound, hmodel⟩
  | saved _ _ _ _ _ =>
      cases later with
      | nil => cases hsplit
      | cons event later =>
          obtain ⟨rfl, -⟩ := List.cons.inj hsplit
          exact ⟨_, List.mem_cons_self, nofun⟩
  | related _ _ _ _ _ _ ih =>
      cases later with
      | nil => cases hsplit
      | cons event later =>
          cases hsplit
          obtain ⟨found, hfound, hmodel⟩ := ih rfl
          exact ⟨found, List.mem_cons_of_mem _ hfound, hmodel⟩

end SampleData
