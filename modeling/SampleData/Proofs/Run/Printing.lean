import SampleData.Proofs.Run.Course

/-!
# What a run prints

The lines of a run are those of its models in dependency order: each model is announced, and a
model that is filled is followed by how many instances were created.  Nothing else prints a line,
neither the bootstrap nor any instance or link.
-/

namespace SampleData

/-! ## Announcements -/

/--
The label that a line announces: what stands between the words it opens and the points it ends
with.
-/
def announced? (text : String) : Option String :=
  (Text.afterOpening? "Generating data for ".toList text.toList).bind fun rest =>
    (List.isSuffixOf? "...".toList rest).map String.ofList

theorem announced?_eq_some_iff {text label : String} :
    announced? text = some label ↔ text = "Generating data for " ++ label ++ "..." := by
  simp only [announced?, Option.bind_eq_some_iff, Option.map_eq_some_iff,
    Text.afterOpening?_eq_some_iff, List.isSuffixOf?_eq_some_iff_append_eq]
  constructor
  · rintro ⟨rest, htext, letters, hrest, rfl⟩
    apply String.toList_inj.1
    rw [htext, ← hrest]
    simp
  · rintro rfl
    exact ⟨label.toList ++ "...".toList, by simp, label.toList, rfl, String.ofList_toList⟩

namespace Generation

/-! ## The lines about a model -/

namespace Treatment

def model : Treatment → Model
  | filled model _ => model
  | leftOut model => model

def lines (attempted : Nat) : Treatment → List String
  | filled model created =>
      ["Generating data for " ++ model.label ++ "...",
        "  created " ++ toString created ++ " of " ++ toString attempted]
  | leftOut model => ["Generating data for " ++ model.label ++ "..."]

/-- Of the lines about a model only the first is an announcement. -/
theorem announced_lines (attempted : Nat) (treatment : Treatment) :
    (treatment.lines attempted).filterMap announced? = [treatment.model.label] := by
  have hfirst (label : String) :
      announced? ("Generating data for " ++ label ++ "...") = some label :=
    announced?_eq_some_iff.2 rfl
  cases treatment with
  | filled model created =>
      have hlast (rest : String) : announced? ("  created " ++ rest) = none := by
        rw [announced?, String.toList_append]
        rfl
      rw [lines, List.filterMap_cons_some (hfirst _), String.append_assoc, String.append_assoc,
        List.filterMap_cons_none (hlast _)]
      rfl
  | leftOut model => simp [lines, Treatment.model, hfirst]

end Treatment

theorem announced_flatMap_lines (attempted : Nat) (treatments : List Treatment) :
    (treatments.flatMap (Treatment.lines attempted)).filterMap announced? =
      (treatments.map Treatment.model).map Model.label := by
  induction treatments with
  | nil => rfl
  | cons treatment rest ih =>
      rw [List.flatMap_cons, List.filterMap_append, Treatment.announced_lines, ih]
      rfl

/-! ## The lines of a run -/

open Run

variable {σ : Type} (store : Store σ) (now : Instant)

theorem lines_note_line (text : String) (run : Run σ) :
    (note (.line text) run).2.lines = run.lines ++ [text] := by
  simp [Run.lines, Run.events, note, Event.line?]

theorem lines_of_journal {run later : Run σ} {event : Event}
    (h : later.journal = event :: run.journal) (hevent : event.line? = none) :
    later.lines = run.lines := by
  simp [Run.lines, Run.events, h, hevent]

/-- No step of a run prints but those that print a line. -/
theorem keepsLines (lines : List String) : KeptBySteps store fun run => run.lines = lines where
  log := fun _ _ _ _ h => (lines_of_journal rfl rfl).trans h
  draw := fun _ _ h => h
  enter := fun _ _ h => h
  save := fun _ _ _ _ h => (lines_of_journal rfl rfl).trans h
  pick := fun _ _ h => (lines_of_journal rfl rfl).trans h
  relate := fun _ _ _ _ h => (lines_of_journal rfl rfl).trans h

theorem lines_ensureGroups (table : String) (names : List String) (state : σ) :
    (Bootstrap.ensureGroups store table names state).1.filterMap Event.line? = [] := by
  induction names generalizing state with
  | nil => rfl
  | cons name rest ih => exact ih (store.ensureGroup table name state).2

theorem lines_bootstrap (settings : Settings) (run : Run σ) :
    (bootstrap store settings run).2.lines = run.lines := by
  rw [KeptByBootstrap.bootstrap_eq]
  simp [Run.lines, Run.events, lines_ensureGroups, Event.line?]

theorem lines_treatModel (count : Nat) (model : Model) (run : Run σ) :
    let treated := treatModel store now count model run
    treated.2.lines = run.lines ++ treated.1.lines count ∧ treated.1.model = model := by
  intro treated
  let announced := (note (announcement model) run).2
  have hfirst : announced.lines = run.lines ++ ["Generating data for " ++ model.label ++ "..."] :=
    lines_note_line _ run
  cases hcheck : checkModel model with
  | error failure =>
      have htreated : treated = _ := treatModel_of_error store now hcheck count run
      rw [htreated]
      exact ⟨(lines_of_journal rfl rfl).trans hfirst, rfl⟩
  | ok _ =>
      have htreated : treated = _ := treatModel_of_ok store now hcheck count run
      have hmade : (makeInstances store now model count 0 announced).2.lines = announced.lines :=
        makeInstances_keeps (fun number => (keepsLines store announced.lines).makeInstance model number)
          count 0 announced rfl
      rw [htreated]
      refine ⟨(lines_note_line _ _).trans ?_, rfl⟩
      rw [hmade, hfirst, List.append_assoc]
      rfl

theorem lines_treatModels (count : Nat) (models : List Model) (run : Run σ) :
    let treated := treatModels store now count models run
    treated.2.lines = run.lines ++ treated.1.flatMap (Treatment.lines count) ∧
      treated.1.map Treatment.model = models := by
  induction models generalizing run with
  | nil => exact ⟨(List.append_nil _).symm, rfl⟩
  | cons model rest ih =>
      obtain ⟨hlines, hmodel⟩ := lines_treatModel store now count model run
      obtain ⟨hothers, hmodels⟩ := ih (treatModel store now count model run).2
      simp only [treatModels, bind_apply, pure_apply]
      constructor
      · rw [hothers, hlines, List.flatMap_cons, List.append_assoc]
      · rw [List.map_cons, hmodel, hmodels]

theorem lines_linkModels (models : List Model) (run : Run σ) :
    (linkModels store models run).2.lines = run.lines :=
  (keepsLines store run.lines).linkModels models run rfl

theorem runRegistry_lines (registry : Registry) (settings : Settings) (state : σ) (draws : Draws)
    {ordered : List Model}
    (horder : Order.dependencyOrder (registry.select settings.exclude settings.authApp) =
      .ok ordered) :
    let run := runRegistry store now registry settings { store := state, draws }
    ∃ treatments linked, run.1 = .ok (summarize settings.count treatments linked) ∧
      treatments.map Treatment.model = ordered ∧
      run.2.lines = treatments.flatMap (Treatment.lines settings.count) := by
  intro run
  let start := (bootstrap store settings { store := state, draws }).2
  have hrun : run = _ := fill_of_ok store now horder start
  obtain ⟨hlines, hmodels⟩ := lines_treatModels store now settings.count ordered start
  have hstart : start.lines = [] := lines_bootstrap store settings _
  refine ⟨_, _, congrArg Prod.fst hrun, hmodels, ?_⟩
  rw [hrun, lines_linkModels, hlines, hstart, List.nil_append]

theorem runRegistry_unordered (registry : Registry) (settings : Settings) (state : σ)
    (draws : Draws) {failure : Failure}
    (horder : Order.dependencyOrder (registry.select settings.exclude settings.authApp) =
      .error failure) :
    let run := runRegistry store now registry settings { store := state, draws }
    run.1 = .error failure ∧ run.2.lines = [] := by
  intro run
  have hrun : run = _ :=
    fill_of_error store now horder (bootstrap store settings { store := state, draws }).2
  rw [hrun]
  exact ⟨rfl, lines_bootstrap store settings _⟩

end Generation

end SampleData
