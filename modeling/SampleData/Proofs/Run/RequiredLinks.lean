import SampleData.Proofs.Registry
import SampleData.Proofs.Run.Sequence
import SampleData.Store.Memory

/-!
# Required links

In a run, the instances of a model come after those of the models that it requires.  As soon as
one instance of a required model is saved, every instance that requires one gets one of the run's
own, and the store is not asked for any.
-/

namespace SampleData

namespace Generation

variable {σ : Type} {models : List Model} {registry : Registry}

/-- No instance comes before one of a model that its own model depends on. -/
theorem savedModels_pairwise (store : Store σ) (now : Instant)
    (hregistry : Registry.ofModels models = .ok registry) (settings : Settings) (state : σ)
    (draws : Draws) :
    let selected := registry.select settings.exclude settings.authApp
    let run := (runRegistry store now registry settings { store := state, draws }).2
    (savedModels run.journal).Pairwise fun later earlier =>
      ¬ Order.DependsOn selected earlier later := by
  intro selected run
  have hsaved : savedModels run.journal = _ :=
    savedModels_runRegistry store now registry settings state draws
  cases horder : Order.dependencyOrder (registry.select settings.exclude settings.authApp) with
  | error failure =>
      rw [hsaved, horder]
      exact List.Pairwise.nil
  | ok ordered =>
      rw [hsaved, horder, List.pairwise_reverse, List.pairwise_flatMap]
      have hordered := Order.dependencyOrder_pairwise (Registry.select_nodup hregistry _ _) horder
      constructor
      · intro model _
        refine List.pairwise_of_forall_mem_list fun first hfirst second hsecond hdepends => ?_
        exact hdepends.2.2.1 ((mem_attempted hsecond).trans (mem_attempted hfirst).symm)
      · refine hordered.imp fun hindependent first hfirst second hsecond => ?_
        rw [mem_attempted hfirst, mem_attempted hsecond]
        exact hindependent

/-- What is saved of a required model is saved before any instance that requires it. -/
theorem mem_past_of_dependsOn {selected : List Model} {journal later past : List Event}
    (hpairwise : (savedModels journal).Pairwise fun later earlier =>
      ¬ Order.DependsOn selected earlier later)
    {record saved : Record} {model other : Model} {values held : Values}
    {answer granted : Except Failure Unit} (hdepends : Order.DependsOn selected model other)
    (hsplit : journal = later ++ .saved record model values answer :: past)
    (hsaved : .saved saved other held granted ∈ journal) : .saved saved other held granted ∈ past := by
  rw [hsplit] at hsaved hpairwise
  rcases List.mem_append.1 hsaved with hlater | hrest
  · have hother : other ∈ savedModels later := List.mem_filterMap.2 ⟨_, hlater, rfl⟩
    unfold savedModels at hpairwise hother
    rw [List.filterMap_append, List.pairwise_append] at hpairwise
    exact absurd hdepends (hpairwise.2.2 other hother model (by simp [Event.model?]))
  · rcases List.mem_cons.1 hrest with hsame | hpast
    · cases hsame
      exact absurd rfl hdepends.2.2.1
    · exact hpast

theorem created_ne_nil {journal : List Event} {record : Record} {model : Model} {values : Values}
    {table : String} (hsaved : .saved record model values (.ok ()) ∈ journal)
    (htable : record.table = table) : (Ledger.ofJournal journal).created table ≠ [] :=
  List.ne_nil_of_mem
    (Ledger.mem_created_iff.2 ⟨Ledger.mem_ofJournal_iff.2 ⟨model, values, hsaved⟩, htable⟩)

/-- Every record of a ledger is one of a saved instance of the model of its table. -/
theorem saved_of_mem_created {selected : List Model}
    (distinct : (selected.map Model.table).Nodup) {journal : List Event}
    (hlawful : Lawful selected journal) {other : Model} (hother : other ∈ selected)
    {target : Record} (hmem : target ∈ (Ledger.ofJournal journal).created other.table) :
    target.table = other.table ∧ ∃ held, .saved target other held (.ok ()) ∈ journal := by
  obtain ⟨hrecords, htable⟩ := Ledger.mem_created_iff.1 hmem
  obtain ⟨model, held, hsaved⟩ := Ledger.mem_ofJournal_iff.1 hrecords
  obtain ⟨later, past, hsplit⟩ := List.append_of_mem hsaved
  obtain ⟨hmodel, hrecord, -⟩ := (hlawful.of_split hsplit).1
  obtain rfl : model = other :=
    Registry.eq_of_table_eq distinct hmodel hother (hrecord.symm.trans htable)
  exact ⟨htable, held, hsaved⟩

/--
Required links find their records in the run.  If a selected model requires a link to another one
and some instance of that one is saved, then all instances of the first that are to be saved hold
the link, to a record that was saved before; and no look for a record of that table is for one of
these instances.
-/
theorem requiredLink_resolved (store : Store σ) (now : Instant)
    (hregistry : Registry.ofModels models = .ok registry) (settings : Settings) (state : σ)
    (draws : Draws) {model other : Model} {field : Field}
    (hmodel : model ∈ registry.select settings.exclude settings.authApp)
    (hother : other ∈ registry.select settings.exclude settings.authApp) (hne : other ≠ model)
    (hfield : field ∈ model.fields) (hname : field.name ≠ keyField)
    (hkind : field.kind = .foreignKey) (hrequired : field.required = true)
    (htarget : field.target = some other.table) :
    let run := (runRegistry store now registry settings { store := state, draws }).2
    (∃ saved held, .saved saved other held (.ok ()) ∈ run.journal) →
      (∀ later record values answer past,
        run.journal = later ++ .saved record model values answer :: past →
          ∃ target held, (field.name, Value.record target) ∈ values ∧
            target.table = other.table ∧ .saved target other held (.ok ()) ∈ past) ∧
      ∀ later answer past, run.journal = later ++ .picked other.table answer :: past →
        ∃ owner, nextModel? later = some owner ∧ owner ≠ model := by
  rintro run ⟨saved, held, hsaved⟩
  let selected := registry.select settings.exclude settings.authApp
  have hwritten : Written selected run.journal :=
    (runRegistry_written store now registry settings state draws).2
  have hlawful := hwritten.lawful
  have hdistinct : (selected.map Model.table).Nodup := Registry.select_nodup hregistry _ _
  have hdepends : Order.DependsOn selected model other :=
    ⟨hmodel, hother, hne, field, hfield, hkind, hrequired, htarget⟩
  have hpairwise := savedModels_pairwise store now hregistry settings state draws
  have hbefore : ∀ later record values answer past,
      run.journal = later ++ .saved record model values answer :: past →
        .saved saved other held (.ok ()) ∈ past := fun later record values answer past hsplit =>
    mem_past_of_dependsOn hpairwise hdepends hsplit hsaved
  have htable : saved.table = other.table := by
    obtain ⟨later, past, hsplit⟩ := List.append_of_mem hsaved
    exact (hlawful.of_split hsplit).1.2.1
  constructor
  · intro later record values answer past hsplit
    obtain ⟨⟨-, -, -, made, earlier, rfl, hmade⟩, hpast⟩ := hlawful.of_split hsplit
    have hcreated := created_ne_nil (hbefore _ _ _ _ _ hsplit) htable
    rw [Ledger.ofJournal_append hmade.isAside] at hcreated
    obtain ⟨events, value, hvalue, hgiven⟩ := hmade.exists_value hfield hname
    obtain ⟨target, hmem, rfl⟩ := hvalue.created_of_ne_nil hkind htarget hcreated
    rw [← Ledger.ofJournal_append hmade.isAside] at hmem
    obtain ⟨htargetTable, targetHeld, htargetSaved⟩ :=
      saved_of_mem_created hdistinct hpast hother hmem
    exact ⟨target, targetHeld, hgiven _ rfl, htargetTable, htargetSaved⟩
  · intro later answer past hsplit
    obtain ⟨owner, howner⟩ := exists_nextModel? (hwritten.saved_after_picked hsplit)
    refine ⟨owner, howner, ?_⟩
    rintro rfl
    obtain ⟨front, record, values, given, between, rfl, hbetween⟩ := nextModel?_eq_some howner
    have hempty := (hlawful.of_split hsplit).1
    rw [List.append_assoc, List.cons_append] at hsplit
    -- What was saved of the other model was saved before the look, for nothing was in between.
    have hin := hbefore _ _ _ _ _ hsplit
    have hpast : .saved saved other held (.ok ()) ∈ past := by
      rcases List.mem_append.1 hin with hmem | hmem
      · cases hbetween _ hmem
      · rcases List.mem_cons.1 hmem with hsame | hmem
        · cases hsame
        · exact hmem
    exact created_ne_nil hpast htable hempty

theorem exists_saved (store : Store σ) (now : Instant)
    (hregistry : Registry.ofModels models = .ok registry) (settings : Settings) (state : σ)
    (draws : Draws) {other : Model}
    (hother : other ∈ registry.select settings.exclude settings.authApp) :
    let run := (runRegistry store now registry settings { store := state, draws }).2
    run.ledger.created other.table ≠ [] →
      ∃ saved held, .saved saved other held (.ok ()) ∈ run.journal := by
  intro run hcreated
  obtain ⟨hledger, hwritten⟩ := runRegistry_written store now registry settings state draws
  obtain ⟨saved, hmem⟩ := List.exists_mem_of_ne_nil _ hcreated
  rw [show run.ledger = _ from hledger] at hmem
  obtain ⟨-, held, hsaved⟩ :=
    saved_of_mem_created (Registry.select_nodup hregistry _ _) hwritten.lawful hother hmem
  exact ⟨saved, held, hsaved⟩

/-- Posts require authors, and an author is saved: every post has an author of the run. -/
theorem requiredLink_resolved_author_of_post :
    let author := Model.ofName "blog" "author"
    let post := (Model.ofName "blog" "post").addField
      { name := "author", kind := .foreignKey, target := some "author" }
    let settings : Settings :=
      { count := 1, exclude := [], authApp := "auth", bootstrap := {}, admin := default }
    let run := (runRegistry MemoryStore.store ⟨0, 0⟩ ⟨[post, author]⟩ settings
      { store := {}, draws := .ofSeed 7 }).2
    (∃ saved held, .saved saved author held (.ok ()) ∈ run.journal) ∧
      ∀ later record values answer past,
        run.journal = later ++ .saved record post values answer :: past →
          ∃ target held, ("author", Value.record target) ∈ values ∧
            target.table = author.table ∧ .saved target author held (.ok ()) ∈ past := by
  intro author post settings run
  have hregistry : Registry.ofModels [post, author] = .ok ⟨[post, author]⟩ := by decide
  have hauthor : author ∈ Registry.select ⟨[post, author]⟩ settings.exclude settings.authApp := by
    decide
  have hpost : post ∈ Registry.select ⟨[post, author]⟩ settings.exclude settings.authApp := by
    decide
  have hne : author ≠ post := by decide
  have hfield : { name := "author", kind := .foreignKey, target := some "author" } ∈ post.fields :=
    List.mem_cons_self
  have hcreated : run.ledger.created author.table ≠ [] := by decide +kernel
  have hsaved : ∃ saved held, .saved saved author held (.ok ()) ∈ run.journal :=
    exists_saved MemoryStore.store ⟨0, 0⟩ hregistry settings {} (.ofSeed 7) hauthor hcreated
  refine ⟨hsaved, ?_⟩
  exact (requiredLink_resolved MemoryStore.store ⟨0, 0⟩ hregistry settings {} (.ofSeed 7)
    hpost hauthor hne hfield (by decide) rfl rfl rfl hsaved).1

end Generation

end SampleData
