import SampleData.Proofs.Run.Course
import SampleData.Store.Memory

/-!
# What a run accounts for

A run fails only for a circle of required links, and then it has done no more than the bootstrap.
In any other case its summary tells of every model, and the ledger holds for each table what was
created in the stretch of its model.
-/

namespace SampleData

theorem Ledger.created_ofJournal (journal : List Event) (table : String) :
    (Ledger.ofJournal journal).created table =
      (journal.reverse.filterMap Event.created?).filter fun record => record.table == table := by
  simp only [Ledger.created, Ledger.ofJournal, List.filterMap_reverse, List.filter_reverse]

theorem filter_table_flatten {models : List Model} {groups : List (List Record)}
    (h : List.Forall₂ (fun model group => ∀ record ∈ group, record.table = model.table)
      models groups)
    (distinct : (models.map Model.table).Nodup) {model : Model} {group : List Record}
    (hgroup : (model, group) ∈ models.zip groups) :
    (groups.flatten.filter fun record => record.table == model.table) = group := by
  induction h with
  | nil => cases hgroup
  | @cons first own rest others hown hothers ih =>
      rw [List.map_cons, List.nodup_cons] at distinct
      have hne : ∀ other ∈ rest, other.table ≠ first.table := fun other hother hsame =>
        distinct.1 (hsame ▸ List.mem_map_of_mem hother)
      rw [List.flatten_cons, List.filter_append]
      rw [List.zip_cons_cons] at hgroup
      rcases List.mem_cons.1 hgroup with hhead | htail
      · obtain ⟨rfl, rfl⟩ := Prod.mk.inj hhead
        have hall : (group.filter fun record => record.table == model.table) = group :=
          List.filter_eq_self.2 fun record hrecord => by simp [hown record hrecord]
        have hnone : (others.flatten.filter fun record => record.table == model.table) = [] := by
          refine List.filter_eq_nil_iff.2 fun record hrecord => ?_
          obtain ⟨records, hrecords, hin⟩ := List.mem_flatten.1 hrecord
          obtain ⟨other, hother, htables⟩ := exists_of_forall₂_of_mem hothers hrecords
          simpa [htables record hin] using hne other hother
        rw [hall, hnone, List.append_nil]
      · have hmodel : model ∈ rest := (List.of_mem_zip htail).1
        have hnone : (own.filter fun record => record.table == model.table) = [] := by
          refine List.filter_eq_nil_iff.2 fun record hrecord => ?_
          simpa [hown record hrecord] using (hne model hmodel).symm
        rw [hnone, List.nil_append]
        exact ih distinct.2 htail

theorem Treated.table_of_created {count : Nat} {model : Model} {part : List Event}
    (h : Treated count model part) :
    ∀ record ∈ part.filterMap Event.created?, record.table = model.table := by
  intro record hrecord
  obtain ⟨event, hevent, hcreated⟩ := List.mem_filterMap.1 hrecord
  have hown := h.own event hevent
  cases event with
  | saved found other values answer =>
      cases answer with
      | error failure => cases hcreated
      | ok _ =>
          cases hcreated
          exact hown.2.1
  | _ => cases hcreated

namespace Course

variable {σ : Type} {count : Nat} {ordered : List Model} {parts : List (List Event)}
  {run : Run σ} {summary : Summary}

theorem created_events (h : Course count ordered parts run summary) :
    run.events.filterMap Event.created? = (parts.map (List.filterMap Event.created?)).flatten := by
  obtain ⟨opening, closing, hevents, hfree, hlinks⟩ := h.events
  have hopening : opening.filterMap Event.created? = [] :=
    List.filterMap_eq_nil_iff.2 fun event hmem => (hfree event hmem).isAside.created?_eq_none
  have hclosing : closing.filterMap Event.created? = [] :=
    List.filterMap_eq_nil_iff.2 fun event hmem => (hlinks event hmem).created?_eq_none
  rw [hevents, List.filterMap_append, List.filterMap_append, hopening, hclosing, List.nil_append,
    List.append_nil, List.filterMap_flatten]

/-- The ledger of a run has of each table what was created in the stretch of the model. -/
theorem created_eq (h : Course count ordered parts run summary)
    (hledger : run.ledger = .ofJournal run.journal) (distinct : (ordered.map Model.table).Nodup)
    {model : Model} {part : List Event} (hpart : (model, part) ∈ ordered.zip parts) :
    run.ledger.created model.table = part.filterMap Event.created? := by
  have hgroups : List.Forall₂ (fun model group => ∀ record ∈ group, record.table = model.table)
      ordered (parts.map (List.filterMap Event.created?)) := by
    rw [List.forall₂_map_right_iff]
    exact h.treated.imp fun _ _ htreated => htreated.table_of_created
  have hgroup : (model, part.filterMap Event.created?) ∈
      ordered.zip (parts.map (List.filterMap Event.created?)) := by
    rw [List.zip_map_right]
    exact List.mem_map.2 ⟨(model, part), hpart, rfl⟩
  rw [hledger, Ledger.created_ofJournal]
  change (run.events.filterMap Event.created?).filter _ = _
  rw [h.created_events]
  exact filter_table_flatten hgroups distinct hgroup

end Course

namespace Generation

variable {σ : Type}

theorem exists_summary_iff (store : Store σ) (now : Instant) (registry : Registry)
    (settings : Settings) (start : Run σ) :
    (∃ summary, (runRegistry store now registry settings start).1 = .ok summary) ↔
      ∃ ordered, Order.dependencyOrder (registry.select settings.exclude settings.authApp) =
        .ok ordered := by
  have hrun : runRegistry store now registry settings start =
      fill store now settings.count (registry.select settings.exclude settings.authApp)
        (bootstrap store settings start).2 := rfl
  rw [hrun]
  cases horder : Order.dependencyOrder (registry.select settings.exclude settings.authApp) with
  | error failure =>
      rw [fill_of_error store now horder]
      simp
  | ok ordered =>
      rw [fill_of_ok store now horder]
      simp

section

variable (store : Store σ) (now : Instant) {models : List Model} {registry : Registry}
  (hregistry : Registry.ofModels models = .ok registry) (settings : Settings) (state : σ)
  (draws : Draws) {summary : Summary}
  (hsummary : (runRegistry store now registry settings { store := state, draws }).1 = .ok summary)

include hregistry hsummary

/--
A run with a summary has a course, and what was created in the stretch of a model is in the
ledger.
-/
theorem exists_course :
    let selected := registry.select settings.exclude settings.authApp
    let run := (runRegistry store now registry settings { store := state, draws }).2
    ∃ ordered parts, Order.dependencyOrder selected = .ok ordered ∧ ordered.Perm selected ∧
      Course settings.count ordered parts run summary ∧
      ∀ model part, (model, part) ∈ ordered.zip parts →
        run.ledger.created model.table = part.filterMap Event.created? := by
  intro selected run
  have hdistinct : (selected.map Model.table).Nodup := Registry.select_nodup hregistry _ _
  obtain ⟨ordered, horder⟩ :=
    (exists_summary_iff store now registry settings { store := state, draws }).1 ⟨summary, hsummary⟩
  obtain ⟨parts, found, hfound, hcourse⟩ :=
    runRegistry_course store now registry settings state draws horder
  obtain rfl : found = summary := Except.ok.inj (hfound.symm.trans hsummary)
  have hperm := Order.dependencyOrder_perm horder
  have hordered : (ordered.map Model.table).Nodup :=
    (hperm.map Model.table).nodup_iff.2 hdistinct
  have hledger := (runRegistry_written store now registry settings state draws).1
  exact ⟨ordered, parts, horder, hperm, hcourse, fun model part hpart =>
    hcourse.created_eq hledger hordered hpart⟩

theorem mem_processed {model : Model}
    (hmodel : model ∈ registry.select settings.exclude settings.authApp) (hnamed : model.WellNamed) :
    let run := (runRegistry store now registry settings { store := state, draws }).2
    ⟨model.label, settings.count, run.ledger.count model.table⟩ ∈ summary.processed := by
  intro run
  obtain ⟨ordered, parts, -, hperm, hcourse, hcreated⟩ :=
    exists_course store now hregistry settings state draws hsummary
  have hmem : model ∈ ordered := hperm.mem_iff.2 hmodel
  rw [← List.map_fst_zip hcourse.treated.length_eq.le] at hmem
  obtain ⟨⟨found, part⟩, hpart, hfound⟩ := List.mem_map.1 hmem
  obtain rfl : found = model := hfound
  have hcount : createdIn part = run.ledger.count found.table :=
    congrArg List.length (hcreated found part hpart).symm
  rw [hcourse.processed, ← hcount]
  exact List.mem_map.2 ⟨(found, part), List.mem_filter.2 ⟨hpart, by simpa using hnamed⟩, rfl⟩

end

/--
A run over an accepted registry fails exactly when required links go round in a circle, and then
nothing but the bootstrap was done.  Otherwise every selected model has its stretch in dependency
order; the summary tells of each what happened in its stretch, and so does the ledger.
-/
theorem runRegistry_accounted (store : Store σ) (now : Instant) {models : List Model}
    {registry : Registry} (hregistry : Registry.ofModels models = .ok registry)
    (settings : Settings) (state : σ) (draws : Draws) :
    let selected := registry.select settings.exclude settings.authApp
    let start : Run σ := { store := state, draws }
    let run := runRegistry store now registry settings start
    ((∃ failure, run.1 = .error failure) ↔ Order.Cyclic selected) ∧
      (∀ failure, run.1 = .error failure →
        run.2 = (bootstrap store settings start).2 ∧ ∀ event ∈ run.2.events, event.IsFree) ∧
      ∀ summary, run.1 = .ok summary →
        ∃ ordered parts, Order.dependencyOrder selected = .ok ordered ∧ ordered.Perm selected ∧
          Course settings.count ordered parts run.2 summary ∧
          ∀ model part, (model, part) ∈ ordered.zip parts →
            run.2.ledger.created model.table = part.filterMap Event.created? := by
  intro selected start run
  have hdistinct : (selected.map Model.table).Nodup := Registry.select_nodup hregistry _ _
  have hacyclic := Order.exists_dependencyOrder_iff hdistinct
  refine ⟨?_, fun failure hfailure => ?_, fun summary hsummary =>
    exists_course store now hregistry settings state draws hsummary⟩
  · have hsummary : (∃ summary, run.1 = .ok summary) ↔ ¬ Order.Cyclic selected :=
      (exists_summary_iff store now registry settings start).trans hacyclic
    rw [← not_iff_not, ← hsummary]
    cases run.1 <;> simp
  · cases horder : Order.dependencyOrder selected with
    | error reason =>
        have hrun : run = (.error reason, (bootstrap store settings start).2) :=
          fill_of_error store now horder _
        obtain ⟨events, hextends, hfree⟩ := bootstrap_free store settings start
        rw [hrun]
        refine ⟨rfl, fun event hevent => ?_⟩
        have hjournal : event ∈ events ++ start.journal :=
          hextends.journal ▸ List.mem_reverse.1 hevent
        exact hfree event (by simpa [start] using hjournal)
    | ok ordered =>
        obtain ⟨summary, hsummary⟩ :=
          (exists_summary_iff store now registry settings start).2 ⟨ordered, horder⟩
        cases hfailure.symm.trans hsummary

/-- Authors are filled, and pages, whose table is no plain name, are left out. -/
theorem runRegistry_accounted_authors :
    let author := (Model.ofName "blog" "author").addField { name := "name", kind := .shortText }
    let page : Model := { app := "blog", name := "page", table := "web page" }
    let settings : Settings :=
      { count := 2, exclude := [], authApp := "auth", bootstrap := {}, admin := default }
    let run := runRegistry MemoryStore.store ⟨0, 0⟩ ⟨[page, author]⟩ settings
      { store := {}, draws := .ofSeed 7 }
    let summary : Summary :=
      { processed := [⟨"blog.author", 2, 2⟩], skipped := ["blog.page"], linksSet := 0 }
    Registry.ofModels [page, author] = .ok ⟨[page, author]⟩ ∧ run.1 = .ok summary ∧
      ∃ ordered parts, Course settings.count ordered parts run.2 summary ∧
        ∀ model part, (model, part) ∈ ordered.zip parts →
          run.2.ledger.created model.table = part.filterMap Event.created? := by
  intro author page settings run summary
  have hregistry : Registry.ofModels [page, author] = .ok ⟨[page, author]⟩ := by decide
  have hsummary : run.1 = .ok summary := by decide +kernel
  obtain ⟨ordered, parts, -, -, hcourse⟩ :=
    (runRegistry_accounted MemoryStore.store ⟨0, 0⟩ hregistry settings {} (.ofSeed 7)).2.2
      summary hsummary
  exact ⟨hregistry, hsummary, ordered, parts, hcourse⟩

end Generation

end SampleData
