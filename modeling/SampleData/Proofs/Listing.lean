import SampleData.Program
import SampleData.Proofs.Order.Acyclic
import SampleData.Proofs.Run.Printing

/-!
# What a listing foretells

A listing and a generation with the same patterns select and order the same models.  So they fail
alike, and the models that are listed are those that a generation announces, in the same order,
whatever the store answers and whatever is drawn: some of them are filled, the others left out.
-/

namespace SampleData

/-! ## Interleavings -/

/-- The third list is put together from the first two, each in its own order. -/
inductive Interleaved {α : Type} : List α → List α → List α → Prop
  | nil : Interleaved [] [] []
  | left {first second whole : List α} (element : α) (h : Interleaved first second whole) :
      Interleaved (element :: first) second (element :: whole)
  | right {first second whole : List α} (element : α) (h : Interleaved first second whole) :
      Interleaved first (element :: second) (element :: whole)

namespace Generation

theorem summarize_interleaved (count : Nat) (treatments : List Treatment) (linked : Nat) :
    let summary := summarize count treatments linked
    Interleaved (summary.processed.map Outcome.label) summary.skipped
      ((treatments.map Treatment.model).map Model.label) := by
  intro summary
  induction treatments with
  | nil => exact .nil
  | cons treatment rest ih =>
      cases treatment with
      | filled model created => exact ih.left model.label
      | leftOut model => exact ih.right model.label

end Generation

namespace Listing

theorem lines_of_ok {registry : Registry} {selected ordered : List Model} (hne : selected ≠ [])
    (horder : Order.dependencyOrder selected = .ok ordered) :
    lines registry selected =
      .ok (countLine registry.models.length ordered.length :: ordered.flatMap modelLines) := by
  rw [lines, if_neg (by simpa using hne), horder]
  rfl

theorem lines_of_error {registry : Registry} {selected : List Model} {failure : Failure}
    (horder : Order.dependencyOrder selected = .error failure) :
    lines registry selected = .error failure := by
  have hne : selected ≠ [] := by
    rintro rfl
    cases horder
  rw [lines, if_neg (by simpa using hne), horder]
  rfl

/-- How the listing of a selection and a generation for it belong together. -/
structure Foretells (registry : Registry) (selected : List Model)
    (listing : Except Failure (List String)) (result : Except Failure Summary)
    (printed : List String) : Prop where
  /-- They fail with the same failure. -/
  failures : ∀ failure, listing = .error failure ↔ result = .error failure
  circular : ∀ failure, listing = .error failure → ∃ labels, failure = .circular labels
  nothing : selected = [] → listing = .ok [nothingLine] ∧ printed.filterMap announced? = [] ∧
    ∃ summary, result = .ok summary ∧ summary.processed = [] ∧ summary.skipped = []
  /-- The labels of the models that are listed are announced in the same order. -/
  listed : selected ≠ [] → ∀ shown, listing = .ok shown →
    ∃ (ordered : List Model) (summary : Summary),
      shown = countLine registry.models.length ordered.length :: ordered.flatMap modelLines ∧
        printed.filterMap announced? = ordered.map Model.label ∧ result = .ok summary ∧
          Interleaved (summary.processed.map Outcome.label) summary.skipped (ordered.map Model.label)

theorem Foretells.after {registry : Registry} {selected : List Model}
    {listing : Except Failure (List String)} {result : Except Failure Summary}
    {printed before : List String} (h : Foretells registry selected listing result printed)
    (hbefore : before.filterMap announced? = []) :
    Foretells registry selected listing result (before ++ printed) where
  failures := h.failures
  circular := h.circular
  nothing := fun hempty => by
    rw [List.filterMap_append, hbefore, List.nil_append]
    exact h.nothing hempty
  listed := fun hne => by
    rw [List.filterMap_append, hbefore, List.nil_append]
    exact h.listed hne

section

variable {σ : Type} (store : Store σ) (now : Instant) (registry : Registry) (settings : Settings)
  (state : σ) (draws : Draws)

/-- Whatever the store answers, a listing foretells the generation for the same selection. -/
theorem foretells :
    let selected := registry.select settings.exclude settings.authApp
    let run := Generation.runRegistry store now registry settings { store := state, draws }
    Foretells registry selected (lines registry selected) run.1 run.2.lines := by
  intro selected run
  cases horder : Order.dependencyOrder selected with
  | error failure =>
      obtain ⟨hresult, -⟩ :=
        Generation.runRegistry_unordered store now registry settings state draws horder
      have hlisting : lines registry selected = .error failure := lines_of_error horder
      refine ⟨fun other => ?_, fun other hother => ?_, fun hempty => ?_, fun _ shown hshown => ?_⟩
      · rw [hlisting, hresult]
        simp
      · rw [hlisting] at hother
        cases hother
        exact Order.exists_circular_of_error horder
      · rw [hempty] at horder
        cases horder
      · rw [hlisting] at hshown
        cases hshown
  | ok ordered =>
      obtain ⟨treatments, linked, hresult, rfl, hprinted⟩ :=
        Generation.runRegistry_lines store now registry settings state draws horder
      have hannounced := (congrArg (List.filterMap announced?) hprinted).trans
        (Generation.announced_flatMap_lines settings.count treatments)
      have hlisting : ∃ shown, lines registry selected = .ok shown := by
        by_cases hempty : selected = []
        · exact ⟨_, by rw [hempty]; rfl⟩
        · exact ⟨_, lines_of_ok hempty horder⟩
      obtain ⟨shown, hshown⟩ := hlisting
      refine ⟨fun other => ?_, fun other hother => ?_, fun hempty => ?_, fun hne all hall => ?_⟩
      · rw [hshown, hresult]
        simp
      · rw [hshown] at hother
        cases hother
      · rw [hempty] at horder ⊢
        obtain rfl := List.map_eq_nil_iff.1 (Except.ok.inj horder).symm
        exact ⟨rfl, hannounced, _, hresult, rfl, rfl⟩
      · rw [lines_of_ok hne horder] at hall
        exact ⟨_, _, (Except.ok.inj hall).symm, hannounced, hresult,
          Generation.summarize_interleaved settings.count treatments linked⟩

end

end Listing

/-! ## Commands -/

section

variable {tree : FileTree} {config : Config} {registry : Registry} {failure : Failure}

theorem Listing.ofProject_of_ok (hconfig : Config.load tree = .ok config)
    (hregistry : Project.registry tree config.manifest config.schemaDir = .ok registry)
    (exclude : List String) :
    ofProject tree exclude =
      lines registry (registry.select (config.exclude ++ exclude) config.authApp) := by
  rw [ofProject, hconfig]
  change (Project.registry tree config.manifest config.schemaDir >>= _) = _
  rw [hregistry]
  rfl

theorem Listing.ofProject_of_error (hconfig : Config.load tree = .ok config)
    (hregistry : Project.registry tree config.manifest config.schemaDir = .error failure)
    (exclude : List String) : ofProject tree exclude = .error failure := by
  rw [ofProject, hconfig]
  change (Project.registry tree config.manifest config.schemaDir >>= _) = _
  rw [hregistry]
  rfl

theorem Listing.ofProject_unconfigured (hconfig : Config.load tree = .error failure)
    (exclude : List String) : ofProject tree exclude = .error failure := by
  rw [ofProject, hconfig]
  rfl

end

namespace Program

open Listing

variable {δ : Type} (server : Server δ) (now : Instant) (draws : Draws)

theorem announced_emptyLines (registry : Registry) :
    (emptyLines registry).filterMap announced? = [] := by
  unfold emptyLines
  split <;> rfl

theorem generateFor_foretells (environment : Environment) (registry : Registry) (settings : Settings)
    (dryRun : Bool) (session : Session δ)
    (hreached : dryRun = false →
      (Database.connect server (.ofEnvironment environment) session).1 = .ok ()) :
    let selected := registry.select settings.exclude settings.authApp
    let report := (generateFor server now draws environment registry settings dryRun session).1
    Foretells registry selected (lines registry selected) report.result report.lines := by
  intro selected report
  have hempty := announced_emptyLines registry
  cases dryRun with
  | true =>
      have hbefore : (emptyLines registry ++ [dryRunLine]).filterMap announced? = [] := by
        rw [List.filterMap_append, hempty]
        rfl
      exact (foretells MemoryStore.store now registry settings {} draws).after hbefore
  | false =>
      have hconnected := hreached rfl
      obtain ⟨reached, hconnect⟩ : ∃ reached,
          Database.connect server (.ofEnvironment environment) session = (.ok (), reached) :=
        ⟨_, Prod.ext hconnected rfl⟩
      have hreport : report = .ofRun (emptyLines registry)
          (fillDatabase server now draws registry settings reached).1
          (fillDatabase server now draws registry settings reached).2 := by
        simp only [report, generateFor, Bool.false_eq_true, if_false, hconnect]
      rw [hreport]
      exact (foretells (Database.store server) now registry settings reached draws).after hempty

theorem generate_failures (tree : FileTree) (options : GenerateOptions) (session : Session δ)
    (hforetells : ∀ config registry, Config.load tree = .ok config →
      Project.registry tree config.manifest config.schemaDir = .ok registry →
        ∀ failure, ofProject tree options.exclude = .error failure ↔
          (generate server now draws tree options session).1.result = .error failure)
    (failure : Failure) :
    ofProject tree options.exclude = .error failure ↔
      (generate server now draws tree options session).1.result = .error failure := by
  cases hconfig : Config.load tree with
  | error reason =>
      have hresult : (generate server now draws tree options session).1.result = .error reason := by
        simp only [generate, hconfig]
        rfl
      rw [ofProject_unconfigured hconfig, hresult]
      simp
  | ok config =>
      cases hregistry : Project.registry tree config.manifest config.schemaDir with
      | error reason =>
          have hresult : (generate server now draws tree options session).1.result =
              .error reason := by
            simp only [generate, hconfig, hregistry]
            rfl
          rw [ofProject_of_error hconfig hregistry, hresult]
          simp
      | ok registry => exact hforetells config registry hconfig hregistry failure

theorem generate_of_ok {tree : FileTree} {config : Config} {registry : Registry}
    (hconfig : Config.load tree = .ok config)
    (hregistry : Project.registry tree config.manifest config.schemaDir = .ok registry)
    (options : GenerateOptions) (session : Session δ) :
    let environment := Project.environment tree
    generate server now draws tree options session =
      generateFor server now (stream options draws) environment registry
        (settings config environment options) options.dryRun session := by
  simp only [generate, hconfig, hregistry]

theorem generate_foretells {tree : FileTree} {config : Config} {registry : Registry}
    (hconfig : Config.load tree = .ok config)
    (hregistry : Project.registry tree config.manifest config.schemaDir = .ok registry)
    (options : GenerateOptions) (session : Session δ)
    (hreached : options.dryRun = false →
      (Database.connect server (.ofEnvironment (Project.environment tree)) session).1 = .ok ()) :
    let report := (generate server now draws tree options session).1
    Foretells registry (registry.select (config.exclude ++ options.exclude) config.authApp)
      (ofProject tree options.exclude) report.result report.lines := by
  rw [generate_of_ok server now draws hconfig hregistry, ofProject_of_ok hconfig hregistry]
  exact generateFor_foretells server now _ (Project.environment tree) registry
    (settings config (Project.environment tree) options) options.dryRun session hreached

end Program

/--
A listing foretells every generation with the same patterns.  For any configuration, registry and
options, any store and any draws, both fail with the same circle of required links; otherwise the
models that are listed are announced in the same order, each of them filled or left out in turn, and
nothing is filled or left out when nothing is selected.  So it is for the commands of a project, as
long as the generation runs dry or reaches its database.
-/
theorem Listing.foretells_generation :
    (∀ (config : Config) (environment : Environment) (options : GenerateOptions) (registry : Registry)
      {σ : Type} (store : Store σ) (now : Instant) (state : σ) (draws : Draws),
      let selected := registry.select (config.exclude ++ options.exclude) config.authApp
      let run := Generation.runRegistry store now registry
        (Program.settings config environment options) { store := state, draws }
      Foretells registry selected (lines registry selected) run.1 run.2.lines) ∧
    ∀ (tree : FileTree) (options : GenerateOptions) {δ : Type} (server : Server δ) (now : Instant)
      (draws : Draws) (session : Session δ),
      (options.dryRun = false →
        (Database.connect server (.ofEnvironment (Project.environment tree)) session).1 = .ok ()) →
      let listing := ofProject tree options.exclude
      let report := (Program.generate server now draws tree options session).1
      (∀ failure, listing = .error failure ↔ report.result = .error failure) ∧
        ∀ config registry, Config.load tree = .ok config →
          Project.registry tree config.manifest config.schemaDir = .ok registry →
            Foretells registry (registry.select (config.exclude ++ options.exclude) config.authApp)
              listing report.result report.lines := by
  constructor
  · intro config environment options registry σ store now state draws
    exact foretells store now registry (Program.settings config environment options) state draws
  · intro tree options δ server now draws session hreached listing report
    have hforetells : ∀ config registry, Config.load tree = .ok config →
        Project.registry tree config.manifest config.schemaDir = .ok registry →
          Foretells registry (registry.select (config.exclude ++ options.exclude) config.authApp)
            listing report.result report.lines := fun _ _ hconfig hregistry =>
      Program.generate_foretells server now draws hconfig hregistry options session hreached
    exact ⟨Program.generate_failures server now draws tree options session
      fun config registry hconfig hregistry =>
        (hforetells config registry hconfig hregistry).failures, hforetells⟩

/--
A manifest lists pages, whose table is no plain name, and authors: pages are left out, authors
are filled.
-/
theorem Listing.foretells_generation_pages_and_authors :
    let manifest := "[[models]]\napp = \"blog\"\nname = \"page\"\ntable = \"web page\"\n" ++
      "[[models]]\napp = \"blog\"\nname = \"author\"\n"
    let tree : FileTree :=
      { entries := [(["database"], .directory),
          (["database", "models.toml"], .file manifest.toUTF8)] }
    let page : Model := { app := "blog", name := "page", table := "web page" }
    let registry : Registry := ⟨[page, Model.ofName "blog" "author"]⟩
    let options : GenerateOptions := { count := some 2 }
    let server : Server Unit := { reply := fun _ => pure (.answered none) }
    let report := (Program.generate server ⟨0, 0⟩ (.ofSeed 7) tree options { server := () }).1
    Config.load tree = .ok {} ∧
      Project.registry tree "database/models.toml" "database/schema" = .ok registry ∧
      ofProject tree options.exclude = .ok ["2 models discovered, 2 selected. Generation order:",
        "blog.page (web page)", "blog.author (author)"] ∧
      report.result = .ok { processed := [⟨"blog.author", 2, 2⟩], skipped := ["blog.page"] } ∧
      Foretells registry registry.models (ofProject tree options.exclude) report.result
        report.lines := by
  intro manifest tree page registry options server report
  have hconfig : Config.load tree = .ok {} := by decide +kernel
  have hregistry : Project.registry tree "database/models.toml" "database/schema" = .ok registry := by
    decide +kernel
  have hlisting : ofProject tree options.exclude =
      .ok ["2 models discovered, 2 selected. Generation order:", "blog.page (web page)",
        "blog.author (author)"] := by
    rw [ofProject_of_ok hconfig hregistry]
    decide +kernel
  have hresult : report.result =
      .ok { processed := [⟨"blog.author", 2, 2⟩], skipped := ["blog.page"] } := by
    have hreport : report = _ := congrArg Prod.fst
      (Program.generate_of_ok server ⟨0, 0⟩ (.ofSeed 7) hconfig hregistry options { server := () })
    rw [hreport]
    decide +kernel
  obtain ⟨-, hcommands⟩ := foretells_generation
  obtain ⟨-, hforetells⟩ :=
    hcommands tree options server ⟨0, 0⟩ (.ofSeed 7) { server := () } fun _ => rfl
  exact ⟨hconfig, hregistry, hlisting, hresult, hforetells {} registry hconfig hregistry⟩

end SampleData
