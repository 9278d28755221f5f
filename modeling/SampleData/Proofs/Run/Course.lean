import SampleData.Proofs.Naming
import SampleData.Proofs.Registry
import SampleData.Proofs.Run.Journal

/-!
# The course of a run

A run goes through the bootstrap, then through the models in dependency order, one stretch of
events for each, and at last through the links.  Whatever a store answers, nothing but a circle
of required links ends it early, and its summary counts what stands in the stretches.
-/

namespace SampleData

namespace Event

def answer? : Event → Option (Except Failure Unit)
  | saved _ _ _ answer => some answer
  | _ => none

def linked? : Event → Option (Record × String × List Record)
  | related record field targets (.ok _) => some (record, field, targets)
  | _ => none

/-- Whether an event may stand in the stretch of a model. -/
def IsFor (model : Model) : Event → Prop
  | saved record other _ _ => other = model ∧ record.table = model.table ∧ Fake.IsKey record.key
  | related _ _ _ _ => False
  | _ => True

def IsLinkOf (models : List Model) : Event → Prop
  | line _ => True
  | log _ => True
  | related record name targets _ =>
      targets ≠ [] ∧ ∃ model ∈ models, record.table = model.table ∧
        ∃ field ∈ model.manyToMany, field.name = name
  | _ => False

variable {event : Event} {model : Model} {models : List Model}

theorem IsAside.isFor (h : event.IsAside) : event.IsFor model := by
  cases event <;> first | exact h.elim | trivial

theorem IsAside.answer?_eq_none (h : event.IsAside) : event.answer? = none := by
  cases event <;> first | rfl | cases h

theorem IsAside.linked?_eq_none (h : event.IsAside) : event.linked? = none := by
  cases event <;> first | rfl | cases h

theorem IsFor.linked?_eq_none (h : event.IsFor model) : event.linked? = none := by
  cases event <;> first | exact h.elim | rfl

theorem IsNote.isLinkOf (h : event.IsNote) : event.IsLinkOf models := by
  cases event <;> first | exact h.elim | trivial

theorem IsLinkOf.created?_eq_none (h : event.IsLinkOf models) : event.created? = none := by
  cases event <;> first | rfl | cases h

theorem IsLinkOf.mono {others : List Model} (hsubset : models ⊆ others)
    (h : event.IsLinkOf models) : event.IsLinkOf others := by
  cases event with
  | related record name targets answer =>
      obtain ⟨htargets, model, hmodel, hrest⟩ := h
      exact ⟨htargets, model, hsubset hmodel, hrest⟩
  | line text => trivial
  | log entry => trivial
  | _ => cases h

end Event

/-! ## Stretches -/

/-- Events of one model with so many attempts to save an instance. -/
structure Stretch (model : Model) (attempts : Nat) (part : List Event) : Prop where
  own : ∀ event ∈ part, event.IsFor model
  attempts : (part.filterMap Event.answer?).length = attempts

def createdIn (part : List Event) : Nat :=
  (part.filterMap Event.created?).length

theorem createdIn_append (first second : List Event) :
    createdIn (first ++ second) = createdIn first + createdIn second := by
  simp [createdIn]

theorem createdIn_of_aside {part : List Event} (h : ∀ event ∈ part, event.IsAside) :
    createdIn part = 0 := by
  rw [createdIn, Event.filterMap_aside Event.IsAside.created?_eq_none h, List.length_nil]

def linkedIn (part : List Event) : Nat :=
  (part.filterMap Event.linked?).length

theorem linkedIn_append (first second : List Event) :
    linkedIn (first ++ second) = linkedIn first + linkedIn second := by
  simp [linkedIn]

theorem linkedIn_eq_zero {part : List Event} (h : ∀ event ∈ part, event.linked? = none) :
    linkedIn part = 0 := by
  rw [linkedIn, List.filterMap_eq_nil_iff.2 h, List.length_nil]

namespace Stretch

variable {model : Model} {attempts others : Nat} {part second : List Event}

theorem append (h : Stretch model attempts part) (hsecond : Stretch model others second) :
    Stretch model (attempts + others) (part ++ second) where
  own := by
    intro event hmem
    rcases List.mem_append.1 hmem with hmem | hmem
    · exact h.own event hmem
    · exact hsecond.own event hmem
  attempts := by rw [List.filterMap_append, List.length_append, h.attempts, hsecond.attempts]

theorem of_aside (h : ∀ event ∈ part, event.IsAside) : Stretch model 0 part where
  own := fun event hmem => (h event hmem).isFor
  attempts := by
    rw [Event.filterMap_aside Event.IsAside.answer?_eq_none h, List.length_nil]

end Stretch

/--
The stretch of a model: it is announced, and then as many instances are attempted as are to be
made of it, or none when the model is left out.
-/
structure Treated (count : Nat) (model : Model) (part : List Event) : Prop where
  announced : part.head? = some (.line ("Generating data for " ++ model.label ++ "..."))
  own : ∀ event ∈ part, event.IsFor model
  attempts : (part.filterMap Event.answer?).length = if model.WellNamed then count else 0

namespace Generation

open Run

variable {σ : Type} (store : Store σ) (now : Instant)

theorem events_note (event : Event) (run : Run σ) :
    (note event run).2.events = run.events ++ [event] := by
  simp [Run.events]

theorem events_of_journal {run later : Run σ} {events : List Event}
    (h : later.journal = events ++ run.journal) : later.events = run.events ++ events.reverse := by
  unfold Run.events
  rw [h, List.reverse_append]

def treatment (model : Model) (part : List Event) : Treatment :=
  if model.WellNamed then .filled model (createdIn part) else .leftOut model

theorem makeInstance_stretch (model : Model) (number : Nat) (run : Run σ) :
    ∃ part, (makeInstance store now model number run).2.events = run.events ++ part ∧
      Stretch model 1 part ∧
      createdIn part = if (makeInstance store now model number run).1 then 1 else 0 := by
  obtain ⟨made, values, key, answer, notes, hmade, hnotes, hjournal, -, hresult, hkey⟩ :=
    makeInstance_made store now model number run
  let saved : Event := .saved ⟨model.table, key⟩ model values answer
  have hbefore : ∀ event ∈ made.reverse, event.IsAside := fun event hmem =>
    hmade.isAside event (List.mem_reverse.1 hmem)
  have hafter : ∀ event ∈ notes.reverse, event.IsAside := fun event hmem =>
    (hnotes event (List.mem_reverse.1 hmem)).isAside
  have hsaved : Stretch model 1 [saved] :=
    ⟨by simp [saved, Event.IsFor, hkey], rfl⟩
  refine ⟨made.reverse ++ [saved] ++ notes.reverse, ?_, ?_, ?_⟩
  · have hsplit : (makeInstance store now model number run).2.journal =
        (notes ++ saved :: made) ++ run.journal := by simp [hjournal, saved]
    rw [events_of_journal hsplit]
    simp
  · have hstretch := ((Stretch.of_aside hbefore).append hsaved).append (Stretch.of_aside hafter)
    simpa using hstretch
  · rw [createdIn_append, createdIn_append, createdIn_of_aside hbefore, createdIn_of_aside hafter,
      hresult]
    cases answer <;> rfl

theorem makeInstances_stretch (model : Model) (left number : Nat) (run : Run σ) :
    ∃ part, (makeInstances store now model left number run).2.events = run.events ++ part ∧
      Stretch model left part ∧
      createdIn part = (makeInstances store now model left number run).1 := by
  induction left generalizing number run with
  | zero => exact ⟨[], (List.append_nil _).symm, .of_aside nofun, rfl⟩
  | succ left ih =>
      obtain ⟨first, hfirst, hstretch, hcreated⟩ := makeInstance_stretch store now model number run
      obtain ⟨rest, hrest, hothers, hmade⟩ :=
        ih (number + 1) (makeInstance store now model number run).2
      simp only [makeInstances, bind_apply, pure_apply]
      refine ⟨first ++ rest, ?_, ?_, ?_⟩
      · rw [hrest, hfirst, List.append_assoc]
      · rw [Nat.add_comm left 1]
        exact hstretch.append hothers
      · rw [createdIn_append, hcreated, hmade]

def announcement (model : Model) : Event :=
  .line ("Generating data for " ++ model.label ++ "...")

theorem treatModel_of_error {model : Model} {failure : Failure}
    (h : checkModel model = .error failure) (count : Nat) (run : Run σ) :
    treatModel store now count model run =
      (.leftOut model, (note (.log ⟨.error, "error generating data: " ++ failure.message,
        [("model", model.label)]⟩) (note (announcement model) run).2).2) := by
  simp only [treatModel, bind_apply, h]
  rfl

theorem treatModel_of_ok {model : Model} (h : checkModel model = .ok ()) (count : Nat)
    (run : Run σ) :
    treatModel store now count model run =
      let made := makeInstances store now model count 0 (note (announcement model) run).2
      (.filled model made.1,
        (note (.line ("  created " ++ toString made.1 ++ " of " ++ toString count)) made.2).2) := by
  simp only [treatModel, bind_apply, h]
  rfl

theorem treatModel_stretch (count : Nat) (model : Model) (run : Run σ) :
    ∃ part, (treatModel store now count model run).2.events = run.events ++ part ∧
      Treated count model part ∧ (treatModel store now count model run).1 = treatment model part := by
  cases hcheck : checkModel model with
  | error failure =>
      have hnamed : ¬ model.WellNamed := fun h => by
        rw [checkModel_eq_ok_iff.2 h] at hcheck
        cases hcheck
      let part : List Event := [announcement model,
        .log ⟨.error, "error generating data: " ++ failure.message, [("model", model.label)]⟩]
      have hstretch : Stretch model 0 part :=
        .of_aside (by simp [part, announcement, Event.IsAside])
      rw [treatModel_of_error store now hcheck]
      refine ⟨part, ?_, ⟨rfl, hstretch.own, ?_⟩, (if_neg hnamed).symm⟩
      · simp only [events_note, List.append_assoc]
        rfl
      · rw [hstretch.attempts, if_neg hnamed]
  | ok _ =>
      have hnamed : model.WellNamed := checkModel_eq_ok_iff.1 hcheck
      rw [treatModel_of_ok store now hcheck]
      obtain ⟨part, hevents, hstretch, hcreated⟩ :=
        makeInstances_stretch store now model count 0 (note (announcement model) run).2
      generalize makeInstances store now model count 0 (note (announcement model) run).2 = made at *
      let last : Event := .line ("  created " ++ toString made.1 ++ " of " ++ toString count)
      have hfirst : ∀ event ∈ [announcement model], event.IsAside := by
        simp [announcement, Event.IsAside]
      have hlast : ∀ event ∈ [last], event.IsAside := by simp [last, Event.IsAside]
      have hwhole := ((Stretch.of_aside hfirst).append hstretch).append (Stretch.of_aside hlast)
      refine ⟨[announcement model] ++ part ++ [last], ?_, ⟨rfl, hwhole.own, ?_⟩, ?_⟩
      · rw [events_note, hevents, events_note]
        simp [last]
      · rw [hwhole.attempts, if_pos hnamed]
        omega
      · rw [treatment, if_pos hnamed, createdIn_append, createdIn_append,
          createdIn_of_aside hfirst, createdIn_of_aside hlast, hcreated]
        simp

theorem treatModels_stretches (count : Nat) (models : List Model) (run : Run σ) :
    ∃ parts, (treatModels store now count models run).2.events = run.events ++ parts.flatten ∧
      List.Forall₂ (Treated count) models parts ∧
      (treatModels store now count models run).1 = List.zipWith treatment models parts := by
  induction models generalizing run with
  | nil => exact ⟨[], (List.append_nil _).symm, .nil, rfl⟩
  | cons model rest ih =>
      obtain ⟨part, hpart, htreated, hresult⟩ := treatModel_stretch store now count model run
      obtain ⟨parts, hparts, hothers, hresults⟩ := ih (treatModel store now count model run).2
      simp only [treatModels, bind_apply, pure_apply]
      refine ⟨part :: parts, ?_, .cons htreated hothers, ?_⟩
      · rw [hparts, hpart, List.flatten_cons, List.append_assoc]
      · rw [hresult, hresults, List.zipWith_cons_cons]

/-! ## Links -/

variable {model : Model} {field : Field}

theorem linkInstance_links (hfield : field ∈ model.manyToMany) {record : Record}
    (hrecord : record.table = model.table) {table : String} {run : Run σ}
    (hcreated : run.ledger.created table ≠ []) :
    ∃ part, Extends part run (linkInstance store field table record run).2 ∧
      (∀ event ∈ part, event.IsLinkOf [model]) ∧
      linkedIn part = if (linkInstance store field table record run).1 then 1 else 0 := by
  obtain ⟨targets, answer, notes, -, hnotes, hextends, hresult, hsome⟩ :=
    linkInstance_made store field table record run
  let related : Event := .related record field.name targets answer
  have hrelated : related.IsLinkOf [model] :=
    ⟨hsome hcreated, model, List.mem_singleton_self _, hrecord, field, hfield, rfl⟩
  refine ⟨notes ++ [related], hextends, ?_, ?_⟩
  · intro event hmem
    rcases List.mem_append.1 hmem with hmem | hmem
    · exact (hnotes event hmem).isLinkOf
    · rw [List.mem_singleton.1 hmem]
      exact hrelated
  · have hnone : linkedIn notes = 0 :=
      linkedIn_eq_zero fun event hmem => (hnotes event hmem).isAside.linked?_eq_none
    rw [linkedIn_append, hnone, hresult]
    cases answer <;> rfl

theorem linkInstances_links (hfield : field ∈ model.manyToMany) {records : List Record}
    (hrecords : ∀ record ∈ records, record.table = model.table) {table : String} {run : Run σ}
    (hcreated : run.ledger.created table ≠ []) :
    ∃ part, Extends part run (linkInstances store field table records run).2 ∧
      (∀ event ∈ part, event.IsLinkOf [model]) ∧
      linkedIn part = (linkInstances store field table records run).1 := by
  induction records generalizing run with
  | nil => exact ⟨[], ⟨rfl, rfl⟩, nofun, rfl⟩
  | cons record rest ih =>
      rw [List.forall_mem_cons] at hrecords
      obtain ⟨first, hfirst, hown, hlinked⟩ :=
        linkInstance_links store hfield hrecords.1 hcreated
      rw [← hfirst.ledger] at hcreated
      obtain ⟨later, hlater, hothers, hcount⟩ := ih hrecords.2 hcreated
      simp only [linkInstances, bind_apply, pure_apply]
      refine ⟨later ++ first, hfirst.trans hlater, ?_, ?_⟩
      · exact List.forall_mem_append.2 ⟨hothers, hown⟩
      · rw [linkedIn_append, hlinked, hcount, Nat.add_comm]

theorem linkField_links (hfield : field ∈ model.manyToMany) (run : Run σ) :
    ∃ part, Extends part run (linkField store model field run).2 ∧
      (∀ event ∈ part, event.IsLinkOf [model]) ∧
      linkedIn part = (linkField store model field run).1 := by
  cases htarget : field.target with
  | none =>
      have hrun : linkField store model field run = (0, run) := by
        rw [linkField, htarget]
        rfl
      rw [hrun]
      exact ⟨[], ⟨rfl, rfl⟩, nofun, rfl⟩
  | some table =>
      rw [linkField_of_target store htarget]
      by_cases hcount : run.ledger.count table = 0
      · rw [if_pos hcount]
        refine ⟨[_], ⟨rfl, rfl⟩, ?_, rfl⟩
        simp [Event.IsLinkOf]
      · rw [if_neg hcount]
        have hcreated : run.ledger.created table ≠ [] := fun hempty =>
          hcount (by rw [Ledger.count, hempty, List.length_nil])
        exact linkInstances_links store hfield
          (fun record hrecord => (Ledger.mem_created_iff.1 hrecord).2) hcreated

theorem linkFields_links {fields : List Field} (hfields : fields ⊆ model.manyToMany)
    (run : Run σ) :
    ∃ part, Extends part run (linkFields store model fields run).2 ∧
      (∀ event ∈ part, event.IsLinkOf [model]) ∧
      linkedIn part = (linkFields store model fields run).1 := by
  induction fields generalizing run with
  | nil => exact ⟨[], ⟨rfl, rfl⟩, nofun, rfl⟩
  | cons field rest ih =>
      rw [List.cons_subset] at hfields
      obtain ⟨first, hfirst, hown, hlinked⟩ := linkField_links store hfields.1 run
      obtain ⟨later, hlater, hothers, hcount⟩ := ih hfields.2 (linkField store model field run).2
      simp only [linkFields, bind_apply, pure_apply]
      refine ⟨later ++ first, hfirst.trans hlater, ?_, ?_⟩
      · exact List.forall_mem_append.2 ⟨hothers, hown⟩
      · rw [linkedIn_append, hlinked, hcount, Nat.add_comm]

theorem linkModels_links (models : List Model) (run : Run σ) :
    ∃ part, Extends part run (linkModels store models run).2 ∧
      (∀ event ∈ part, event.IsLinkOf models) ∧
      linkedIn part = (linkModels store models run).1 := by
  induction models generalizing run with
  | nil => exact ⟨[], ⟨rfl, rfl⟩, nofun, rfl⟩
  | cons model rest ih =>
      obtain ⟨first, hfirst, hown, hlinked⟩ :=
        linkFields_links store (List.Subset.refl model.manyToMany) run
      obtain ⟨later, hlater, hothers, hcount⟩ :=
        ih (linkFields store model model.manyToMany run).2
      simp only [linkModels, bind_apply, pure_apply]
      refine ⟨later ++ first, hfirst.trans hlater, List.forall_mem_append.2 ⟨?_, ?_⟩, ?_⟩
      · exact fun event hmem => (hothers event hmem).mono (List.subset_cons_self _ _)
      · exact fun event hmem => (hown event hmem).mono (by simp)
      · rw [linkedIn_append, hlinked, hcount, Nat.add_comm]

/-! ## Summaries -/

theorem outcomes_eq {count : Nat} {models : List Model} {parts : List (List Event)} :
    (List.zipWith treatment models parts).filterMap (Treatment.outcome? count) =
      ((models.zip parts).filter fun entry => entry.1.WellNamed).map fun entry =>
        { label := entry.1.label, attempted := count, created := createdIn entry.2 } := by
  induction models generalizing parts with
  | nil => simp
  | cons model rest ih =>
      cases parts with
      | nil => simp
      | cons part parts =>
          by_cases hnamed : model.WellNamed
          · simp [ih, hnamed, treatment, Treatment.outcome?]
          · simp [List.filterMap_cons, ih, hnamed, treatment, Treatment.outcome?]

theorem skipped_eq {count : Nat} {models : List Model} {parts : List (List Event)}
    (h : List.Forall₂ (Treated count) models parts) :
    (List.zipWith treatment models parts).filterMap Treatment.skipped? =
      (models.filter fun model => ¬ model.WellNamed).map Model.label := by
  induction h with
  | nil => rfl
  | @cons model part _ _ _ _ ih =>
      by_cases hnamed : model.WellNamed
      · simpa [List.filterMap_cons, hnamed, treatment, Treatment.skipped?] using ih
      · simpa [hnamed, treatment, Treatment.skipped?] using ih

theorem filled_eq {count : Nat} {models : List Model} {parts : List (List Event)}
    (h : List.Forall₂ (Treated count) models parts) :
    (List.zipWith treatment models parts).filterMap Treatment.model? =
      models.filter fun model => model.WellNamed := by
  induction h with
  | nil => rfl
  | @cons model part _ _ _ _ ih =>
      by_cases hnamed : model.WellNamed
      · simpa [hnamed, treatment, Treatment.model?] using ih
      · simpa [List.filterMap_cons, hnamed, treatment, Treatment.model?] using ih

theorem labels_processed (count : Nat) (treatments : List Treatment) (linked : Nat) :
    (summarize count treatments linked).processed.map Outcome.label =
      (treatments.filterMap Treatment.model?).map Model.label := by
  simp only [summarize, List.map_filterMap]
  exact List.filterMap_congr fun treatment _ => by cases treatment <;> rfl

end Generation

/-! ## Whole runs -/

/-- A run over models in order: the stretches of the models, and what the summary says of them. -/
structure Course {σ : Type} (count : Nat) (ordered : List Model) (parts : List (List Event))
    (run : Run σ) (summary : Summary) : Prop where
  /-- The bootstrap comes first, then the stretches, and at last the links. -/
  events : ∃ opening closing, run.events = opening ++ parts.flatten ++ closing ∧
    (∀ event ∈ opening, event.IsFree) ∧
    ∀ event ∈ closing, event.IsLinkOf (ordered.filter fun model => model.WellNamed)
  treated : List.Forall₂ (Treated count) ordered parts
  processed : summary.processed =
    ((ordered.zip parts).filter fun entry => entry.1.WellNamed).map fun entry =>
      { label := entry.1.label, attempted := count, created := createdIn entry.2 }
  skipped : summary.skipped = (ordered.filter fun model => ¬ model.WellNamed).map Model.label
  linksSet : summary.linksSet = linkedIn run.events

namespace Generation

open Run

variable {σ : Type} (store : Store σ) (now : Instant)

theorem runRegistry_course (registry : Registry) (settings : Settings) (state : σ) (draws : Draws)
    {ordered : List Model}
    (horder : Order.dependencyOrder (registry.select settings.exclude settings.authApp) =
      .ok ordered) :
    let run := runRegistry store now registry settings { store := state, draws }
    ∃ parts summary, run.1 = .ok summary ∧ Course settings.count ordered parts run.2 summary := by
  intro run
  let start : Run σ := { store := state, draws }
  obtain ⟨opening, hopening, hfree⟩ := bootstrap_free store settings start
  obtain ⟨parts, hparts, htreated, hresult⟩ :=
    treatModels_stretches store now settings.count ordered (bootstrap store settings start).2
  have hrun : run = _ := fill_of_ok store now horder (bootstrap store settings start).2
  generalize treatModels store now settings.count ordered (bootstrap store settings start).2 =
    treated at hparts hresult hrun
  dsimp only at hrun
  rw [hresult, filled_eq htreated] at hrun
  obtain ⟨closing, hclosing, hlinks, hcount⟩ :=
    linkModels_links store (ordered.filter fun model => model.WellNamed) treated.2
  generalize linkModels store _ treated.2 = linked at hrun hclosing hcount
  have hevents : run.2.events = opening.reverse ++ parts.flatten ++ closing.reverse := by
    rw [hrun, events_of_journal hclosing.journal, hparts, events_of_journal hopening.journal]
    rfl
  refine ⟨parts, _, congrArg Prod.fst hrun, ⟨?_, htreated, ?_, ?_, ?_⟩⟩
  · refine ⟨opening.reverse, closing.reverse, hevents, ?_, ?_⟩
    · exact fun event hmem => hfree event (List.mem_reverse.1 hmem)
    · exact fun event hmem => hlinks event (List.mem_reverse.1 hmem)
  · exact outcomes_eq
  · exact skipped_eq htreated
  · -- No link is set before the last stretch is over, so all that count are in the closing.
    have hbefore : linkedIn (opening.reverse ++ parts.flatten) = 0 := by
      refine linkedIn_eq_zero fun event hmem => ?_
      rcases List.mem_append.1 hmem with hmem | hmem
      · exact (hfree event (List.mem_reverse.1 hmem)).isAside.linked?_eq_none
      · obtain ⟨part, hpart, hevent⟩ := List.mem_flatten.1 hmem
        obtain ⟨model, -, hown⟩ := exists_of_forall₂_of_mem htreated hpart
        exact (hown.own event hevent).linked?_eq_none
    rw [hevents, linkedIn_append, hbefore, linkedIn, List.filterMap_reverse, List.length_reverse,
      Nat.zero_add]
    exact hcount.symm

end Generation

end SampleData
