import SampleData.Program
import SampleData.Proofs.Run.Accounting

/-!
# Leaving out more models

More patterns only take models away from a selection, and with models only dependencies go.  A
selection without a circle of required links therefore stays one, and a generation that works
goes on to work with further patterns on top.
-/

namespace SampleData

namespace Order

variable {models others : List Model}

theorem exists_dependencyOrder_of_sublist (distinct : (others.map Model.table).Nodup)
    (h : models.Sublist others) (horder : ∃ order, dependencyOrder others = .ok order) :
    ∃ order, dependencyOrder models = .ok order := by
  have hdistinct : (models.map Model.table).Nodup := distinct.sublist (h.map Model.table)
  have hacyclic : ¬ Cyclic others := (exists_dependencyOrder_iff distinct).1 horder
  exact (exists_dependencyOrder_iff hdistinct).2 fun hcyclic => hacyclic (hcyclic.mono h.subset)

end Order

namespace Registry

theorem isExcluded_append (first second : List String) (label : String) :
    isExcluded (first ++ second) label = (isExcluded first label || isExcluded second label) :=
  List.any_append

/-- Further patterns leave of a selection the models whose labels match none of them. -/
theorem select_append (registry : Registry) (first second : List String) (authApp : String) :
    registry.select (first ++ second) authApp =
      (registry.select first authApp).filter fun model => !isExcluded second model.label := by
  rw [select, select, List.filter_filter]
  refine List.filter_congr fun model _ => ?_
  rw [isExcluded_append, Bool.not_or, ← Bool.and_assoc, Bool.and_comm]

theorem select_append_sublist (registry : Registry) (first second : List String) (authApp : String) :
    (registry.select (first ++ second) authApp).Sublist (registry.select first authApp) :=
  registry.select_append first second authApp ▸ List.filter_sublist

theorem exists_dependencyOrder_append {models : List Model} {registry : Registry}
    (hregistry : ofModels models = .ok registry) {first : List String} {authApp : String}
    (horder : ∃ order, Order.dependencyOrder (registry.select first authApp) = .ok order)
    (second : List String) :
    ∃ order, Order.dependencyOrder (registry.select (first ++ second) authApp) = .ok order :=
  Order.exists_dependencyOrder_of_sublist (select_nodup hregistry first authApp)
    (registry.select_append_sublist first second authApp) horder

end Registry

theorem Listing.exists_lines_iff (registry : Registry) (selected : List Model) :
    (∃ printed, lines registry selected = .ok printed) ↔
      ∃ order, Order.dependencyOrder selected = .ok order := by
  unfold lines
  split
  · next hempty =>
    obtain rfl := List.isEmpty_iff.1 hempty
    exact ⟨fun _ => ⟨[], by decide⟩, fun _ => ⟨_, rfl⟩⟩
  · cases Order.dependencyOrder selected with
    | error failure =>
        constructor
        · rintro ⟨printed, hprinted⟩
          cases hprinted
        · rintro ⟨order, horder⟩
          cases horder
    | ok ordered => exact ⟨fun _ => ⟨ordered, rfl⟩, fun _ => ⟨_, rfl⟩⟩

namespace Program

variable {δ : Type}

/--
A generation works when its database is reached, unless it runs dry, and the selected models
have an order.
-/
theorem exists_generateFor_iff (server : Server δ) (now : Instant) (draws : Draws)
    (environment : Environment) (registry : Registry) (settings : Settings) (dryRun : Bool)
    (session : Session δ) :
    (∃ summary, (generateFor server now draws environment registry settings dryRun session).1.result =
        .ok summary) ↔
      (dryRun = false →
        (Database.connect server (.ofEnvironment environment) session).1 = .ok ()) ∧
      ∃ order, Order.dependencyOrder (registry.select settings.exclude settings.authApp) =
        .ok order := by
  cases dryRun with
  | true =>
      simp only [reduceCtorEq, false_implies, true_and]
      exact Generation.exists_summary_iff MemoryStore.store now registry settings _
  | false =>
      simp only [forall_true_left]
      rw [← Generation.exists_summary_iff (Database.store server) now registry settings
        ⟨(Database.connect server (.ofEnvironment environment) session).2, draws, {}, []⟩]
      rw [generateFor]
      simp only [Bool.false_eq_true, if_false]
      rcases Database.connect server (.ofEnvironment environment) session with ⟨_ | _, reached⟩
      · simp
      · simp [fillDatabase, Report.ofRun]

/--
Further patterns leave of a selection the models whose labels match none of them, in their order.
If the selection has a dependency order it keeps having one, so that it can be listed as before, and
a generation that works with the patterns of a configuration works with those of the command on top.
-/
theorem excluding_more {models : List Model} {registry : Registry}
    (hregistry : Registry.ofModels models = .ok registry) (exclude more : List String)
    (authApp : String) :
    registry.select (exclude ++ more) authApp =
        ((registry.select exclude authApp).filter fun model =>
          more.all fun pattern => !Glob.test pattern model.label) ∧
      ((∃ order, Order.dependencyOrder (registry.select exclude authApp) = .ok order) →
        ∃ order, Order.dependencyOrder (registry.select (exclude ++ more) authApp) = .ok order) ∧
      ((∃ printed, Listing.lines registry (registry.select exclude authApp) = .ok printed) →
        ∃ printed, Listing.lines registry (registry.select (exclude ++ more) authApp) = .ok printed) ∧
      ∀ {δ : Type} (server : Server δ) (now : Instant) (draws : Draws) (config : Config)
        (environment : Environment) (options : GenerateOptions) (dryRun : Bool) (session : Session δ),
        (∃ summary, (generateFor server now draws environment registry
          (settings config environment { options with exclude := [] }) dryRun session).1.result =
            .ok summary) →
        ∃ summary, (generateFor server now draws environment registry
          (settings config environment options) dryRun session).1.result = .ok summary := by
  have hordered : (∃ order, Order.dependencyOrder (registry.select exclude authApp) = .ok order) →
      ∃ order, Order.dependencyOrder (registry.select (exclude ++ more) authApp) = .ok order :=
    fun horder => Registry.exists_dependencyOrder_append hregistry horder more
  refine ⟨?_, hordered, ?_, ?_⟩
  · rw [Registry.select_append]
    refine List.filter_congr fun model _ => ?_
    rw [Registry.isExcluded, List.not_any_eq_all_not]
  · rw [Listing.exists_lines_iff, Listing.exists_lines_iff]
    exact hordered
  · intro δ server now draws config environment options dryRun session hworks
    rw [exists_generateFor_iff] at hworks ⊢
    obtain ⟨hreached, horder⟩ := hworks
    rw [settings, List.append_nil] at horder
    exact ⟨hreached, Registry.exists_dependencyOrder_append hregistry horder options.exclude⟩

/-- Drafts of posts are left out on top of users, and posts still come behind their authors. -/
theorem excluding_more_drafts :
    let author := Model.ofName "blog" "author"
    let post := (Model.ofName "blog" "post").addField
      { name := "author", kind := .foreignKey, target := some "author" }
    let draft := (Model.ofName "blog" "draft").addField
      { name := "post", kind := .foreignKey, target := some "post" }
    let models := [draft, post, Model.ofName "auth" "user", author]
    Registry.ofModels models = .ok ⟨models⟩ ∧
      Order.dependencyOrder (Registry.select ⟨models⟩ ["shop.*"] "auth") = .ok [author, post, draft] ∧
      Registry.select ⟨models⟩ (["shop.*"] ++ ["*.draft"]) "auth" = [post, author] ∧
      ∃ order, Order.dependencyOrder (Registry.select ⟨models⟩ (["shop.*"] ++ ["*.draft"]) "auth") =
        .ok order := by
  intro author post draft models
  have hregistry : Registry.ofModels models = .ok ⟨models⟩ := by decide
  have horder : Order.dependencyOrder (Registry.select ⟨models⟩ ["shop.*"] "auth") =
      .ok [author, post, draft] := by decide
  obtain ⟨hselected, hordered, -⟩ := excluding_more hregistry ["shop.*"] ["*.draft"] "auth"
  exact ⟨hregistry, horder, hselected.trans (by decide), hordered ⟨_, horder⟩⟩

end Program

end SampleData
