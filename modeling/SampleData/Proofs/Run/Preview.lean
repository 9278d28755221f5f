import SampleData.Proofs.Run.Coupling
import SampleData.Proofs.Run.Course
import SampleData.Proofs.Run.Replay
import SampleData.Proofs.Store.Obliging

/-!
# Dry runs preview real ones

A run in memory side by side with one against a server that finds nothing and creates just what
the store in memory saves.  The store in memory is never asked for a record that it has, so it
draws nothing that the server does not.
-/

namespace SampleData

/-! ## What events come to -/

def verdicts (events : List Event) : List Bool :=
  (events.filterMap Event.answer?).map Except.isOk

def writtenCreations (events : List Event) : List (Except Failure Statement) :=
  (events.filterMap Event.row?).map fun row => Statement.createRecord row.1 row.2

def writtenLinks (events : List Event) : List Statement :=
  (events.filterMap Event.linked?).map fun set => Statement.setLinks set.1 set.2.1 set.2.2

theorem writtenCreations_reverse (journal : List Event) :
    writtenCreations journal.reverse = (writtenCreations journal).reverse := by
  rw [writtenCreations, List.filterMap_reverse, List.map_reverse, writtenCreations]

theorem writtenLinks_reverse (journal : List Event) :
    writtenLinks journal.reverse = (writtenLinks journal).reverse := by
  rw [writtenLinks, List.filterMap_reverse, List.map_reverse, writtenLinks]

theorem Event.IsAside.row?_eq_none {event : Event} (h : event.IsAside) : event.row? = none := by
  cases event <;> first | rfl | cases h

namespace Generation

open Run

variable {σ : Type} (store : Store σ) {now : Instant}

/-! ## Values that can be written -/

theorem plainValue_datable (hnow : now.date.HasFourDigits) {field : Field} {run : Run σ}
    {made : Value} (h : (plainValue now field run).1 = some made) : made.Datable := by
  have hsampled : ∀ value, (Synthesis.value now field run.draws).1 = .ok (some value) →
      value.Datable := fun _ => Synthesis.value_datable hnow
  simp only [plainValue, bind_apply, draw_apply] at h
  generalize Synthesis.value now field run.draws = sampled at h hsampled
  rcases sampled with ⟨failure | value, draws⟩
  · cases h
  · exact hsampled made (congrArg Except.ok h)

theorem fieldValue_datable (hnow : now.date.HasFourDigits) {field : Field} {run : Run σ}
    {made : Value} (h : (fieldValue store now field run).1 = some made) : made.Datable := by
  unfold fieldValue at h
  split at h
  · change (resolveLink store field run).1.map Value.record = some made at h
    obtain ⟨target, -, rfl⟩ := Option.map_eq_some_iff.1 h
    trivial
  · exact plainValue_datable hnow h

theorem fieldValues_datable (hnow : now.date.HasFourDigits) (fields : List Field) (run : Run σ) :
    ∀ entry ∈ (fieldValues store now fields run).1, entry.2.Datable := by
  induction fields generalizing run with
  | nil => exact nofun
  | cons field rest ih =>
      unfold fieldValues
      split
      · exact ih run
      · have hown : ∀ made, (fieldValue store now field run).1 = some made → made.Datable :=
          fun _ => fieldValue_datable store hnow
        simp only [bind_apply, pure_apply]
        generalize fieldValue store now field run = valued at hown ⊢
        obtain ⟨value, later⟩ := valued
        cases value with
        | none => exact ih later
        | some made => exact List.forall_mem_cons.2 ⟨hown made rfl, ih later⟩

end Generation

/-! ## Alike runs -/

namespace Preview

open Run Generation Database

variable {δ : Type}

/-- A dry run and a real one that have come to the same, each in its own store. -/
structure Alike (run : Run MemoryStore) (other : Run (Session δ)) : Prop where
  draws : run.draws = other.draws
  ledger : run.ledger = other.ledger
  /-- The store in memory has the records of the ledger. -/
  records : run.store.records = run.ledger.records
  attempts : (repliesTo .creation other.store.exchanges).length = (verdicts run.journal).length
  created : writtenCreations run.journal = (carriedOut .creation other.store.exchanges).map .ok
  linked : writtenLinks run.journal = carriedOut .links other.store.exchanges

/-- A dry run and a real one on the way to the journal of the one and the exchanges of the other. -/
def comparison (journal : List Event) (exchanges : List (Request × Reply)) :
    Comparison MemoryStore (Session δ) where
  left := fun run => run.journal <:+ journal
  right := fun run => run.store.exchanges <:+ exchanges
  alike := Alike

theorem Alike.extend {run later : Run MemoryStore} {other next : Run (Session δ)}
    (h : Alike run other) (hdraws : later.draws = next.draws)
    {made : List Event} (hlater : Extends made run later)
    (hrecords : later.store.records = run.store.records)
    (hmade : ∀ event ∈ made, event.IsAside) {sent : List (Request × Reply)}
    (hledger : next.ledger = other.ledger)
    (hexchanges : next.store.exchanges = sent ++ other.store.exchanges) (hsent : Idle sent) :
    Alike later next where
  draws := hdraws
  ledger := by rw [hlater.ledger, h.ledger, hledger]
  records := by rw [hrecords, hlater.ledger, h.records]
  attempts := by
    have hnone : repliesTo .creation sent = [] := repliesTo_eq_nil fun exchange hmem statement
      hquery => (hsent exchange hmem statement hquery).1
    rw [hexchanges, repliesTo_append, hnone, List.nil_append, h.attempts, hlater.journal, verdicts,
      verdicts, Event.filterMap_append_aside Event.IsAside.answer?_eq_none hmade]
  created := by
    have hnone : carriedOut .creation sent = [] := carriedOut_eq_nil fun exchange hmem statement
      hquery => (hsent exchange hmem statement hquery).1
    rw [hexchanges, carriedOut_append, hnone, List.nil_append, ← h.created, hlater.journal,
      writtenCreations, Event.filterMap_append_aside Event.IsAside.row?_eq_none hmade]
    rfl
  linked := by
    have hnone : carriedOut .links sent = [] := carriedOut_eq_nil fun exchange hmem statement
      hquery => (hsent exchange hmem statement hquery).2
    rw [hexchanges, carriedOut_append, hnone, List.nil_append, ← h.linked, hlater.journal,
      writtenLinks, Event.filterMap_append_aside Event.IsAside.linked?_eq_none hmade]
    rfl

theorem Alike.withDraws {run : Run MemoryStore} {other : Run (Session δ)} (h : Alike run other)
    (draws : Draws) : Alike { run with draws } { other with draws } :=
  ⟨rfl, h.ledger, h.records, h.attempts, h.created, h.linked⟩

theorem idle_nil : Idle [] := nofun

/-! ## Steps -/

variable (server : Server δ) {now : Instant} {journal : List Event}
  {exchanges : List (Request × Reply)}

theorem backs_journal {α : Type} {program : StateM (Run MemoryStore) α}
    (h : ∀ start, Keeps (KeptByCalls.ofRun fun _ journal => start <:+ journal) program) :
    Backs (fun run => run.journal <:+ journal) program :=
  fun run hlater => (h run.journal run (List.suffix_refl _)).trans hlater

theorem backs_exchanges {α : Type} {program : StateM (Run (Session δ)) α}
    (h : ∀ start, Keeps (KeptByCalls.ofRun fun session _ => start <:+ session.exchanges) program) :
    Backs (fun run => run.store.exchanges <:+ exchanges) program :=
  fun run hlater => (h run.store.exchanges run (List.suffix_refl _)).trans hlater

theorem sparesNotes : (comparison (δ := δ) journal exchanges).SparesNotes := by
  intro event other hevent hother
  refine ⟨fun run h => (List.suffix_cons _ _).trans h, fun _ h => h, ?_⟩
  intro run twin halike _ _
  have hlater : Extends [event] run (note event run).2 := ⟨rfl, rfl⟩
  have hmade : ∀ made ∈ [event], made.IsAside := by simpa using hevent.isAside
  exact ⟨rfl, halike.extend halike.draws hlater rfl hmade rfl rfl idle_nil⟩

theorem draw_coupled {α : Type} (sampler : Sampler α) :
    Coupled (comparison (δ := δ) journal exchanges) (draw sampler) (draw sampler) := by
  refine ⟨fun _ h => h, fun _ h => h, ?_⟩
  intro run twin halike _ _
  rw [draw_apply, draw_apply, ← halike.draws]
  exact ⟨rfl, halike.withDraws _⟩

/-! ## Fields -/

theorem plainValue_coupled (field : Field) :
    Coupled (comparison (δ := δ) journal exchanges) (plainValue now field) (plainValue now field) := by
  refine (draw_coupled _).bind fun result => ?_
  cases result with
  | ok value => exact .pure value
  | error failure => exact (sparesNotes (.log _) (.log _) trivial trivial).bind fun _ => .pure none

/-- A table of which the ledger has nothing is empty in the store too. -/
theorem Alike.keysOf_eq_nil {run : Run MemoryStore} {other : Run (Session δ)} (h : Alike run other)
    {table : String} (hempty : run.ledger.created table = []) : run.store.keysOf table = [] := by
  have hnone : (run.ledger.records.filter fun record => record.table == table) = [] :=
    List.reverse_eq_nil_iff.1 hempty
  have hkeys := MemoryStore.keysOf_perm run.store table
  rw [h.records, hnone, List.map_nil] at hkeys
  exact hkeys.eq_nil

section

variable {told : List Bool} (hobliging : Obliging told exchanges.reverse)

include hobliging

theorem pick_of_obliging {table : String} {session : Session δ}
    (hfits : (Database.pick server table session).2.exchanges <:+ exchanges) :
    (Database.pick server table session).1 = .ok none ∧ ∃ sent, Idle sent ∧
      (Database.pick server table session).2.exchanges = sent ++ session.exchanges := by
  obtain ⟨sent, hsent, hexchanges⟩ := pick_sent server table session
  obtain ⟨reply, hanswer, rfl⟩ := hsent.of_picked
  rw [hexchanges] at hfits
  have hreply : reply = .answered none := hobliging.look hfits (Statement.kind_findAny table)
  rw [hreply] at hanswer
  exact ⟨hanswer, _, idle_of_look (Statement.kind_findAny table) reply, hexchanges⟩

/-- A target is chosen with the same draw, or not found in either store. -/
theorem resolveTarget_step {table : String} {run : Run MemoryStore} {other : Run (Session δ)}
    (halike : Alike run other)
    (hfits : (resolveTarget (Database.store server) table other).2.store.exchanges <:+ exchanges) :
    (resolveTarget MemoryStore.store table run).1 =
        (resolveTarget (Database.store server) table other).1 ∧
      Alike (resolveTarget MemoryStore.store table run).2
        (resolveTarget (Database.store server) table other).2 := by
  obtain ⟨session, draws, ledger, events⟩ := other
  obtain rfl : run.draws = draws := halike.draws
  obtain rfl : run.ledger = ledger := halike.ledger
  simp only [resolveTarget, bind_apply, get_apply, draw_apply] at hfits ⊢
  -- Only a table of which the ledger has nothing is looked up, and it is empty in both stores.
  by_cases hempty : run.ledger.created table = []
  · have hmemory : MemoryStore.store.pick table run.draws run.store = (.ok none, run.draws, run.store) :=
      MemoryStore.pick_of_keysOf_eq_nil (halike.keysOf_eq_nil hempty) run.draws
    have hserver : (Database.store server).pick table run.draws session =
        ((Database.pick server table session).1, run.draws, (Database.pick server table session).2) := rfl
    have hpick := @pick_of_obliging _ server _ _ hobliging table session
    rw [Ledger.choose_of_created_eq_nil hempty] at hfits ⊢
    simp only [bind_apply, pick_apply, hmemory, hserver] at hfits ⊢
    generalize Database.pick server table session = picked at hfits hpick ⊢
    obtain ⟨answer, later⟩ := picked
    have hlater : later.exchanges <:+ exchanges := by
      cases answer <;> exact hfits
    obtain ⟨rfl, sent, hidle, hexchanges⟩ := hpick hlater
    have hmade : ∀ event ∈ [Event.picked table (.ok none)], event.IsAside := by
      simp [Event.IsAside]
    exact ⟨rfl, halike.extend rfl ⟨rfl, rfl⟩ rfl hmade rfl hexchanges hidle⟩
  · obtain ⟨target, -, hchosen⟩ := Draws.exists_choose hempty run.draws
    change (run.ledger.choose table run.draws).1 = some target at hchosen
    rw [hchosen] at hfits ⊢
    exact ⟨rfl, halike.withDraws _⟩

theorem fieldValue_coupled (field : Field) :
    Coupled (comparison journal exchanges) (fieldValue MemoryStore.store now field)
      (fieldValue (Database.store server) now field) where
  left := backs_journal fun start => (KeptByCalls.journal MemoryStore.store start).fieldValue field
  right := backs_exchanges fun start => (exchanges_kept server start).fieldValue field
  step := by
    intro run other halike hleft hright
    unfold fieldValue at hleft hright ⊢
    by_cases hkind : field.kind = .foreignKey
    · rw [if_pos hkind] at hleft hright
      rw [if_pos hkind, if_pos hkind]
      cases htarget : field.target with
      | none =>
          simp only [resolveLink, htarget, bind_apply, pure_apply]
          exact ⟨trivial, halike⟩
      | some table =>
          simp only [resolveLink, htarget, bind_apply, pure_apply] at hright ⊢
          obtain ⟨hresult, hagain⟩ := resolveTarget_step server hobliging halike hright
          exact ⟨congrArg _ hresult, hagain⟩
    · rw [if_neg hkind] at hleft hright
      rw [if_neg hkind, if_neg hkind]
      exact (plainValue_coupled field).step run other halike hleft hright

end

/-! ## Instances -/

theorem verdicts_of_suffix {record : Record} {model : Model} {values : Values}
    {answer : Except Failure Unit} {past : List Event}
    (h : .saved record model values answer :: past <:+ journal) :
    ∃ later, verdicts journal.reverse = verdicts past.reverse ++ answer.isOk :: later := by
  obtain ⟨newer, rfl⟩ := h
  refine ⟨verdicts newer.reverse, ?_⟩
  simp [verdicts, Event.answer?]

section

variable {run : Run MemoryStore} {other : Run (Session δ)} {record : Record} {model : Model}
  {values : Values} {statement : Statement} {reply : Reply} {later : Session δ}

theorem Alike.saved (h : Alike run other)
    (hstatement : Statement.createRecord record values = .ok statement)
    (hreply : reply.isAnswered = true)
    (hexchanges : later.exchanges = (.query statement, reply) :: other.store.exchanges)
    (events : List Event) :
    Alike
      { run with
        store := { run.store with rows := (record, values) :: run.store.rows },
        ledger := run.ledger.add record,
        journal := .saved record model values (.ok ()) :: run.journal }
      { other with store := later, ledger := other.ledger.add record, journal := events } where
  draws := h.draws
  ledger := congrArg (Ledger.add · record) h.ledger
  records := congrArg (record :: ·) h.records
  attempts := by
    rw [hexchanges, repliesTo_query (Statement.kind_createRecord hstatement)]
    exact congrArg (· + 1) h.attempts
  created := by
    rw [hexchanges, carriedOut_query (Statement.kind_createRecord hstatement) hreply,
      List.map_cons, ← hstatement, ← h.created]
    rfl
  linked := by
    have hkind := Statement.kind_createRecord hstatement
    rw [hexchanges, carriedOut_query_of_not (by simp [hkind]), ← h.linked]
    rfl

theorem Alike.failed (h : Alike run other)
    (hstatement : Statement.createRecord record values = .ok statement)
    (hreply : reply.isAnswered = false)
    (hexchanges : later.exchanges = (.query statement, reply) :: other.store.exchanges)
    (failure : Failure) (entry : LogEntry) (events : List Event) :
    Alike
      { run with
        journal := .log entry :: .saved record model values (.error failure) :: run.journal }
      { other with store := later, journal := events } where
  draws := h.draws
  ledger := h.ledger
  records := h.records
  attempts := by
    rw [hexchanges, repliesTo_query (Statement.kind_createRecord hstatement)]
    exact congrArg (· + 1) h.attempts
  created := by
    rw [hexchanges, carriedOut_query_of_not (by simp [hreply]), ← h.created]
    rfl
  linked := by
    rw [hexchanges, carriedOut_query_of_not (by simp [hreply]), ← h.linked]
    rfl

/-- The server creates an instance if the store in memory saves it. -/
theorem Alike.isAnswered_eq (h : Alike run other)
    (hobliging : Obliging (verdicts journal.reverse) exchanges.reverse)
    {answer : Except Failure Unit}
    (hjournal : .saved record model values answer :: run.journal <:+ journal)
    (hexchanges : (.query statement, reply) :: other.store.exchanges <:+ exchanges)
    (hkind : statement.kind = .creation) : reply.isAnswered = answer.isOk := by
  obtain ⟨after, hverdicts⟩ := verdicts_of_suffix hjournal
  -- There were as many creations as verdicts so far, so the next of both belong together.
  have hplace : (repliesTo .creation other.store.exchanges).length =
      (verdicts run.journal.reverse).length := by
    rw [h.attempts]
    simp [verdicts]
  exact hobliging.creation hexchanges hkind hverdicts hplace

end

theorem keepInstance_step
    (hobliging : Obliging (verdicts journal.reverse) exchanges.reverse) {record : Record}
    {model : Model} {values : Values} (hvalues : ∀ entry ∈ values, entry.2.Datable) {number : Nat}
    {run : Run MemoryStore} {other : Run (Session δ)} (halike : Alike run other)
    (hleft : (keepInstance MemoryStore.store record model values number run).2.journal <:+ journal)
    (hright : (keepInstance (Database.store server) record model values number other).2.store.exchanges
      <:+ exchanges) :
    (keepInstance MemoryStore.store record model values number run).1 =
        (keepInstance (Database.store server) record model values number other).1 ∧
      Alike (keepInstance MemoryStore.store record model values number run).2
        (keepInstance (Database.store server) record model values number other).2 := by
  obtain ⟨statement, hstatement⟩ := Statement.exists_createRecord record hvalues
  obtain ⟨reply, hanswer, hexchanges⟩ := save_of_written server hstatement other.store
  have hjournal := (keepInstance_journal MemoryStore.store record model values number run).trans hleft
  rw [keepInstance_store] at hright
  change (Database.save server record values other.store).2.exchanges <:+ exchanges at hright
  rw [hexchanges] at hright
  have hsame := halike.isAnswered_eq hobliging hjournal hright
    (Statement.kind_createRecord hstatement)
  have hserver : ∀ answer, Database.executed none reply = answer →
      (Database.store server).save record model values other.store =
        (answer, (Database.save server record values other.store).2) :=
    fun answer h => Prod.ext (hanswer.trans h) rfl
  rcases MemoryStore.save_cases run.store record model values with ⟨-, hsave⟩ | ⟨failure, -, hsave⟩
  · have hreply : reply.isAnswered = true :=
      hsame.trans (congrArg (fun saved => saved.1.isOk) hsave)
    have hok := hserver _ (Reply.executed_of_answered hreply none)
    rw [keepInstance_of_ok hsave, keepInstance_of_ok hok]
    exact ⟨rfl, halike.saved hstatement hreply hexchanges _⟩
  · have hreply : reply.isAnswered = false :=
      hsame.trans (congrArg (fun saved => saved.1.isOk) hsave)
    obtain ⟨refusal, hrefusal⟩ := Reply.executed_of_not_answered hreply none
    have herror := hserver _ hrefusal
    rw [keepInstance_of_error hsave, keepInstance_of_error herror]
    exact ⟨rfl, halike.failed hstatement hreply hexchanges failure _ _⟩

theorem keepInstance_coupled
    (hobliging : Obliging (verdicts journal.reverse) exchanges.reverse) (record : Record)
    (model : Model) {values : Values} (hvalues : ∀ entry ∈ values, entry.2.Datable) (number : Nat) :
    Coupled (comparison journal exchanges) (keepInstance MemoryStore.store record model values number)
      (keepInstance (Database.store server) record model values number) where
  left := backs_journal fun start =>
    (KeptByCalls.journal MemoryStore.store start).keepInstance record model values number
  right := backs_exchanges fun start =>
    (exchanges_kept server start).keepInstance record model values number
  step := fun _ _ halike hleft hright =>
    keepInstance_step server hobliging hvalues halike hleft hright

theorem treatModels_coupled
    (hobliging : Obliging (verdicts journal.reverse) exchanges.reverse)
    (hnow : now.date.HasFourDigits) (count : Nat) (models : List Model) :
    Coupled (comparison journal exchanges) (treatModels MemoryStore.store now count models)
      (treatModels (Database.store server) now count models) := by
  refine Generation.treatModels_coupled sparesNotes fun model number => ?_
  exact makeInstance_coupled (fieldValues_datable MemoryStore.store hnow model.fields)
    (fieldValues_datable (Database.store server) hnow model.fields)
    (fieldValue_coupled server hobliging) (draw_coupled Fake.recordKey)
    fun record values hvalues => keepInstance_coupled server hobliging record model hvalues number

/-! ## Links -/

theorem Alike.related {run : Run MemoryStore} {other : Run (Session δ)} (h : Alike run other)
    {record : Record} {name : String} {targets : List Record} {reply : Reply} {later : Session δ}
    (hreply : reply.isAnswered = true)
    (hexchanges : later.exchanges =
      (.query (.setLinks record name targets), reply) :: other.store.exchanges)
    (links : List ((Record × String) × List Record)) (draws : Draws) (events : List Event) :
    Alike
      { run with
        store := { run.store with links }, draws,
        journal := .related record name targets (.ok ()) :: run.journal }
      { other with store := later, draws, journal := events } where
  draws := rfl
  ledger := h.ledger
  records := h.records
  attempts := by
    have hkind := Statement.kind_setLinks record name targets
    rw [hexchanges, repliesTo_query_ne (by simp [hkind]), h.attempts]
    rfl
  created := by
    have hkind := Statement.kind_setLinks record name targets
    rw [hexchanges, carriedOut_query_of_not (by simp [hkind]), ← h.created]
    rfl
  linked := by
    rw [hexchanges, carriedOut_query (Statement.kind_setLinks record name targets) hreply,
      ← h.linked]
    rfl

theorem linkInstance_coupled {told : List Bool} (hobliging : Obliging told exchanges.reverse)
    {ledger : Ledger} {record : Record} (hrecord : record ∈ ledger.records) (field : Field)
    (table : String) :
    Coupled ((comparison journal exchanges).within ledger)
      (linkInstance MemoryStore.store field table record)
      (linkInstance (Database.store server) field table record) where
  left := backs_journal fun start =>
    (KeptByCalls.journal MemoryStore.store start).linkInstance field table record
  right := backs_exchanges fun start =>
    (exchanges_kept server start).linkInstance field table record
  step := by
    rintro run ⟨session, draws, records, events⟩ ⟨halike, rfl⟩ - hright
    obtain rfl : run.draws = draws := halike.draws
    obtain rfl : run.ledger = records := halike.ledger
    let targets := (run.ledger.sample table run.draws).1
    obtain ⟨links, hmemory⟩ :=
      MemoryStore.relate_of_mem (halike.records.symm ▸ hrecord) field.name targets
    obtain ⟨reply, hanswer, hexchanges⟩ :=
      execute_sent server none (.setLinks record field.name targets) session
    have hfits : (linkInstance (Database.store server) field table record
        ⟨session, run.draws, run.ledger, events⟩).2.store.exchanges <:+ exchanges := hright
    rw [linkInstance_store] at hfits
    have hreply : reply.isAnswered = true :=
      hobliging.link (hexchanges ▸ hfits) (Statement.kind_setLinks record field.name targets)
    have hserver : (Database.store server).relate record field.name targets session = (.ok (), _) :=
      Prod.ext (hanswer.trans (Reply.executed_of_answered hreply none)) rfl
    rw [linkInstance_of_ok hmemory, linkInstance_of_ok hserver]
    exact ⟨rfl, halike.related hreply hexchanges links _ _, rfl⟩

theorem linkModels_coupled {told : List Bool} (hobliging : Obliging told exchanges.reverse)
    (models : List Model) :
    Coupled (comparison journal exchanges) (linkModels MemoryStore.store models)
      (linkModels (Database.store server) models) := by
  refine Coupled.of_within fun ledger => Generation.linkModels_coupled fun model field => ?_
  refine linkField_coupled (sparesNotes.within ledger) (fun run other h => h.1.ledger) ?_ ?_ ?_
  · exact fun field table record => backs_journal fun start =>
      (KeptByCalls.journal MemoryStore.store start).linkInstance field table record
  · exact fun field table record => backs_exchanges fun start =>
      (exchanges_kept server start).linkInstance field table record
  · rintro run other ⟨-, rfl⟩ table record hrecord
    exact linkInstance_coupled server hobliging (Ledger.mem_created_iff.1 hrecord).1 field table

/-! ## Whole runs -/

theorem bootstrap_alike (settings : Settings) (state : δ) (draws : Draws) :
    Alike (bootstrap MemoryStore.store settings { store := {}, draws }).2
      (bootstrap (Database.store server) settings { store := { server := state }, draws }).2 := by
  let start : Run MemoryStore := { store := {}, draws }
  let twin : Run (Session δ) := { store := { server := state }, draws }
  have halike : Alike start twin := ⟨rfl, rfl, rfl, rfl, rfl, rfl⟩
  obtain ⟨made, hextends, hfree⟩ := bootstrap_free MemoryStore.store settings start
  obtain ⟨_, hother, -⟩ := bootstrap_free (Database.store server) settings twin
  have hrows : KeptByBootstrap MemoryStore.store fun state _ => state.rows = [] :=
    { note := fun _ _ h => h
      group := fun table name h => (MemoryStore.ensureGroup_rows table name _).trans h
      admin := fun account h => (MemoryStore.ensureAdmin_rows account _).trans h }
  have hempty := hrows.bootstrap settings start rfl
  have hidle := (idle_kept server).bootstrap settings twin nofun
  refine halike.extend ?_ hextends (congrArg (List.map Prod.fst) hempty) ?_ hother.ledger
    (List.append_nil _).symm hidle
  · rw [KeptByBootstrap.bootstrap_eq, KeptByBootstrap.bootstrap_eq]
  · exact fun event hmem => (hfree event hmem).isAside

/-- What a dry run tells of a real one, each with its result. -/
structure Tells (dry : Except Failure Summary × Run MemoryStore)
    (real : Except Failure Summary × Run (Session δ)) : Prop where
  result : real.1 = dry.1
  ledger : real.2.ledger = dry.2.ledger
  draws : real.2.draws = dry.2.draws
  /-- The records that are created are those that were saved, in order and with their values. -/
  created : (carriedOut .creation real.2.sent).map .ok = writtenCreations dry.2.events
  linked : carriedOut .links real.2.sent = writtenLinks dry.2.events

/--
A dry run tells what a real one does, if the server finds nothing, sets all links and creates just
the instances that the store in memory saves: both runs give the same result and end with the same
ledger and draws, and what the server carries out is what was saved and linked, written out.
-/
theorem dryRun_previews (server : Server δ) (state : δ) {now : Instant}
    (hnow : now.date.HasFourDigits) (registry : Registry) (settings : Settings) (draws : Draws) :
    let dry := runRegistry MemoryStore.store now registry settings { store := {}, draws }
    let real := runRegistry (Database.store server) now registry settings
      { store := { server := state }, draws }
    Obliging (verdicts dry.2.events) real.2.sent → Tells dry real := by
  intro dry real hobliging
  have hready := bootstrap_alike server settings state draws
  let models := registry.select settings.exclude settings.authApp
  have hfill : Coupled (comparison dry.2.journal real.2.store.exchanges)
      (fill MemoryStore.store now settings.count models)
      (fill (Database.store server) now settings.count models) :=
    fill_coupled (treatModels_coupled server hobliging hnow settings.count)
      (linkModels_coupled server hobliging)
  obtain ⟨hresult, halike⟩ := hfill.step _ _ hready (List.suffix_refl _) (List.suffix_refl _)
  have hcreated : writtenCreations dry.2.journal =
      (carriedOut .creation real.2.store.exchanges).map .ok := halike.created
  have hlinked : writtenLinks dry.2.journal = carriedOut .links real.2.store.exchanges :=
    halike.linked
  refine ⟨hresult.symm, halike.ledger.symm, halike.draws.symm, ?_, ?_⟩
  · rw [Run.sent, carriedOut_reverse, List.map_reverse, ← hcreated, ← writtenCreations_reverse]
    rfl
  · rw [Run.sent, carriedOut_reverse, ← hlinked, ← writtenLinks_reverse]
    rfl

/--
Three flags, no two of which may be both up or both down: the third is turned down in both
stores.
-/
theorem dryRun_previews_unique_flags :
    let flag := (((Model.ofName "shop" "flag").addField
      { name := "up", kind := .boolean, unique := true }).addField
      { name := "owner", kind := .foreignKey, required := false, target := some "user" }).addField
      { name := "peers", kind := .manyToMany, target := some "flag" }
    let settings : Settings :=
      { count := 3, exclude := [], authApp := "auth", bootstrap := { groups := [] },
        admin := default }
    let server : Server (List Bool) :=
      { reply := fun request told =>
          match request with
          | .query statement =>
              if statement.kind = .creation then
                (if told.headD false then .answered none else .refused "repeated", told.tail)
              else (.answered none, told)
          | _ => (.answered none, told) }
    let dry := runRegistry MemoryStore.store ⟨0, 0⟩ ⟨[flag]⟩ settings
      { store := {}, draws := .ofSeed 1 }
    let real := runRegistry (Database.store server) ⟨0, 0⟩ ⟨[flag]⟩ settings
      { store := { server := [true, true, false] }, draws := .ofSeed 1 }
    verdicts dry.2.events = [true, true, false] ∧
      Obliging (verdicts dry.2.events) real.2.sent ∧ Tells dry real := by
  intro flag settings server dry real
  have hnow : (Instant.date ⟨0, 0⟩).HasFourDigits := ⟨by decide, by decide⟩
  have hverdicts : verdicts dry.2.events = [true, true, false] := by decide +kernel
  have hobliging : Obliging (verdicts dry.2.events) real.2.sent := by
    rw [hverdicts]
    exact ⟨by decide +kernel, by decide +kernel, by decide +kernel⟩
  exact ⟨hverdicts, hobliging,
    dryRun_previews server [true, true, false] hnow ⟨[flag]⟩ settings (.ofSeed 1) hobliging⟩

end Preview

end SampleData
