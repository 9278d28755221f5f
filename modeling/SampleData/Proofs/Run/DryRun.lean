import SampleData.Proofs.Registry
import SampleData.Proofs.Run.Replay

/-!
# Dry runs

What a run over an accepted registry keeps up in a store in memory, from the first call to the
last: the store and the ledger agree, and every link leads to a record that was saved before.
The store is never asked for a record that it could give.
-/

namespace SampleData

namespace MemoryStore

def LinksTo (store : MemoryStore) (record target : Record) : Prop :=
  ∃ values, (record, values) ∈ store.rows ∧ ∃ name, (name, Value.record target) ∈ values

/-- What holds of the store and of the ledger of a dry run when a journal has come about. -/
structure Integrity (registry : Registry) (journal : List Event) : Prop where
  /-- The keys of a table are those that the ledger has of it, each once. -/
  keys : ∀ table, ((after journal).keysOf table).Nodup ∧
    ((after journal).keysOf table).Perm
      (((Ledger.ofJournal journal).created table).map Record.key)
  /--
  A link is held for a link field of its model, and leads to the field's table and to an older
  row.
  -/
  links : ∀ newer record values older,
    (after journal).rows = newer ++ (record, values) :: older →
      ∃ model ∈ registry.models, model.table = record.table ∧
        ∀ name target, (name, Value.record target) ∈ values →
          (∃ field ∈ model.fields, field.name = name ∧ field.kind = .foreignKey ∧
            field.target = some target.table) ∧ target ∈ older.map Prod.fst
  acyclic : ∀ record, ¬ Relation.TransGen (LinksTo (after journal)) record record
  /-- A look for a record found nothing and could not, whatever was to be drawn. -/
  looks : ∀ table answer past, journal = .picked table answer :: past →
    answer = .ok none ∧ ∀ draws, pick table draws (after past) = (.ok none, draws, after past)
  /-- No instance was turned down for a missing link. -/
  saves : ∀ record model values failure past,
    journal = .saved record model values (.error failure) :: past →
      ∀ name target, failure ≠ .linkMissing name target

section

variable {models : List Model} {journal : List Event}

theorem keysOf_perm_created (hanswered : Answered journal) (table : String) :
    ((after journal).keysOf table).Perm
      (((Ledger.ofJournal journal).created table).map Record.key) := by
  refine (keysOf_perm _ table).trans ?_
  rw [after_records hanswered]
  exact ((List.reverse_perm _).map Record.key).symm

theorem created_nodup (hanswered : Answered journal) (table : String) :
    (((Ledger.ofJournal journal).created table).map Record.key).Nodup := by
  have hnodup : ((Ledger.ofJournal journal).created table).Nodup := by
    have hrecords := after_records_nodup hanswered
    rw [after_records hanswered] at hrecords
    exact List.nodup_reverse.2 (hrecords.filter _)
  refine hnodup.map_on fun first hfirst second hsecond hkey => ?_
  have htable := (Ledger.mem_created_iff.1 hfirst).2.trans (Ledger.mem_created_iff.1 hsecond).2.symm
  cases first
  cases second
  simp_all

/-- A look comes only when the table is empty, and then it finds nothing. -/
theorem pick_of_lawful (hanswered : Answered journal) (hlawful : Lawful models journal)
    {later past : List Event} {table : String} {answer : Except Failure (Option Record)}
    (hsplit : journal = later ++ .picked table answer :: past) :
    answer = .ok none ∧ ∀ draws, pick table draws (after past) = (.ok none, draws, after past) := by
  obtain ⟨⟨draws, hanswer⟩, hpast⟩ := hanswered.of_split hsplit
  have hempty : (Ledger.ofJournal past).created table = [] := (hlawful.of_split hsplit).1
  have hkeys := keysOf_perm_created hpast table
  rw [hempty, List.map_nil] at hkeys
  have hpick := pick_of_keysOf_eq_nil hkeys.eq_nil
  rw [hpick draws] at hanswer
  exact ⟨hanswer.symm, hpick⟩

/-- Every link of an instance that is to be saved leads to a record that is saved already. -/
theorem link_of_lawful (hanswered : Answered journal) (hlawful : Lawful models journal)
    {later past : List Event} {record : Record} {model : Model} {values : Values}
    {answer : Except Failure Unit}
    (hsplit : journal = later ++ .saved record model values answer :: past) {name : String}
    {target : Record} (hentry : (name, Value.record target) ∈ values) :
    (∃ field ∈ model.fields, field.name = name ∧ field.kind = .foreignKey ∧
      field.target = some target.table) ∧ target ∈ (after past).records := by
  have hpast : Answered past := (hanswered.of_split hsplit).2
  obtain ⟨-, -, -, made, earlier, hmadePast, hmade⟩ := (hlawful.of_split hsplit).1
  obtain ⟨field, hfield, hname, events, hevents, hvalue⟩ := hmade.exists_field hentry
  obtain ⟨hkind, table, htarget, ⟨-, hcreated⟩ | ⟨-, notes, -, rfl⟩⟩ := hvalue.of_record
  · obtain ⟨hmem, rfl⟩ := Ledger.mem_created_iff.1 hcreated
    refine ⟨⟨field, hfield, hname, hkind, htarget⟩, ?_⟩
    rw [after_records hpast, hmadePast, Ledger.ofJournal_append hmade.isAside]
    exact hmem
  · -- A look is among the events of making, so it found nothing.
    have hin : Event.picked table (.ok (some target)) ∈ journal := by
      have hmem := hevents (List.mem_append_right notes List.mem_cons_self)
      rw [hsplit, hmadePast]
      simp [hmem]
    obtain ⟨newer, older, hlook⟩ := List.append_of_mem hin
    cases (pick_of_lawful hanswered hlawful hlook).1

theorem saved_of_lawful (hanswered : Answered journal) (hlawful : Lawful models journal)
    {later past : List Event} {record : Record} {model : Model} {values : Values}
    {failure : Failure}
    (hsplit : journal = later ++ .saved record model values (.error failure) :: past)
    (name : String) (target : Record) : failure ≠ .linkMissing name target := by
  rintro rfl
  have hanswer : (save record model values (after past)).1 = .error (.linkMissing name target) :=
    (hanswered.of_split hsplit).1
  rcases save_cases (after past) record model values with ⟨-, hsave⟩ | ⟨failure, hfault, hsave⟩
  · rw [hsave] at hanswer
    cases hanswer
  · rw [hsave] at hanswer
    cases hanswer
    obtain ⟨field, -, hvalue, hmissing⟩ := saveFault?_eq_linkMissing hfault
    have hlink := link_of_lawful hanswered hlawful hsplit (Values.mem_of_get?_eq_some hvalue)
    exact hmissing hlink.2

theorem links_of_lawful (hanswered : Answered journal) (hlawful : Lawful models journal)
    {newer older : List (Record × Values)} {record : Record} {values : Values}
    (hrows : (after journal).rows = newer ++ (record, values) :: older) :
    ∃ model ∈ models, model.table = record.table ∧
      ∀ name target, (name, Value.record target) ∈ values →
        (∃ field ∈ model.fields, field.name = name ∧ field.kind = .foreignKey ∧
          field.target = some target.table) ∧ target ∈ older.map Prod.fst := by
  obtain ⟨later, model, past, hsplit, rfl⟩ := exists_saved_of_rows hanswered hrows
  obtain ⟨hmodel, htable, -⟩ := (hlawful.of_split hsplit).1
  exact ⟨model, hmodel, htable.symm, fun name target hentry =>
    link_of_lawful hanswered hlawful hsplit hentry⟩

/-- Links lead to older rows, and so never around. -/
theorem acyclic_of_lawful (hanswered : Answered journal) (hlawful : Lawful models journal)
    (record : Record) : ¬ Relation.TransGen (LinksTo (after journal)) record record := by
  refine Order.not_transGen_of_ordered (List.nodup_reverse.2 (after_records_nodup hanswered)) ?_ record
  rintro first second ⟨values, hrow, name, hentry⟩
  obtain ⟨newer, older, hrows⟩ := List.append_of_mem hrow
  obtain ⟨model, -, -, hlinks⟩ := links_of_lawful hanswered hlawful hrows
  refine ⟨(older.map Prod.fst).reverse, (newer.map Prod.fst).reverse, ?_, ?_⟩
  · rw [records, hrows]
    simp
  · exact List.mem_reverse.2 (hlinks name second hentry).2

theorem integrity_of_lawful {registry : Registry} (hsubset : models ⊆ registry.models)
    (hanswered : Answered journal) (hlawful : Lawful models journal) :
    Integrity registry journal where
  keys := fun table =>
    have hperm := keysOf_perm_created hanswered table
    ⟨hperm.nodup_iff.2 (created_nodup hanswered table), hperm⟩
  links := fun newer record values older hrows => by
    obtain ⟨model, hmodel, hlinks⟩ := links_of_lawful hanswered hlawful hrows
    exact ⟨model, hsubset hmodel, hlinks⟩
  acyclic := acyclic_of_lawful hanswered hlawful
  looks := fun _ _ past hsplit =>
    pick_of_lawful hanswered hlawful (hsplit.trans (List.nil_append _).symm)
  saves := fun _ _ _ _ _ hsplit =>
    saved_of_lawful hanswered hlawful (hsplit.trans (List.nil_append _).symm)

end

/--
A dry run over an accepted registry keeps its store and its ledger together: at every point of
it, the store is what the calls so far have made of it and every record there is in the ledger,
every link leads to an older record of the table that its field targets, and no look for a
record finds one or draws for it.
-/
theorem dryRun_integrity {models : List Model} {registry : Registry}
    (h : Registry.ofModels models = .ok registry) (now : Instant) (settings : Settings)
    (draws : Draws) :
    let run := (Generation.runRegistry store now registry settings { store := {}, draws }).2
    (registry.models.map Model.table).Nodup ∧
      run.store = after run.journal ∧ Answered run.journal ∧
      run.ledger = .ofJournal run.journal ∧
      ∀ past, past <:+ run.journal → Integrity registry past := by
  intro run
  obtain ⟨hstore, hanswered⟩ := runRegistry_replayed now registry settings draws
  obtain ⟨hledger, hwritten⟩ := Generation.runRegistry_written store now registry settings {} draws
  have hlawful := hwritten.lawful
  refine ⟨Registry.ofModels_nodup h, hstore, hanswered, hledger, ?_⟩
  rintro past ⟨later, hsplit⟩
  rw [← hsplit] at hanswered hlawful
  exact integrity_of_lawful (registry.select_sublist _ _).subset hanswered.of_append hlawful.of_append

/-- Two authors, who may have mentors, and then two posts, which must have authors. -/
theorem dryRun_integrity_authors_posts :
    let author := (Model.ofName "blog" "author").addField
      { name := "mentor", kind := .foreignKey, required := false, target := some "author" }
    let post := (Model.ofName "blog" "post").addField
      { name := "author", kind := .foreignKey, target := some "author" }
    let settings : Settings :=
      { count := 2, exclude := [], authApp := "auth", bootstrap := {}, admin := default }
    let run := (Generation.runRegistry store ⟨0, 0⟩ ⟨[post, author]⟩ settings
      { store := {}, draws := .ofSeed 7 }).2
    Registry.ofModels [post, author] = .ok ⟨[post, author]⟩ ∧
      run.store.rows.map (fun row => row.1.table) = ["post", "post", "author", "author"] ∧
      ∀ past, past <:+ run.journal → Integrity ⟨[post, author]⟩ past := by
  intro author post settings run
  have hregistry : Registry.ofModels [post, author] = .ok ⟨[post, author]⟩ := by decide
  refine ⟨hregistry, by decide +kernel, ?_⟩
  exact (dryRun_integrity hregistry ⟨0, 0⟩ settings (.ofSeed 7)).2.2.2.2

end MemoryStore

end SampleData
