import SampleData.Proofs.Run.Journal
import SampleData.Proofs.Store.Database

/-!
# What a run against a database refers to

Whatever a server replies, a run names only records that the server has told of: those whose
creation it answered with success, and those that it found for the field at hand.
-/

namespace SampleData

namespace Database

def Persisted (past : List Call) (record : Record) : Prop :=
  ∃ model values statement identity, Statement.createRecord record values = .ok statement ∧
    (.saved record model values (.ok ()), [(.query statement, .answered identity)]) ∈ past

/-- Where a link of an instance leads, by the calls made for its field. -/
inductive Origin (earlier : List Call) (field : Field) (target : Record) : List Call → Prop
  /-- To a record of the run in the table that the field targets; nothing is sent for it. -/
  | persisted (htarget : field.target = some target.table) (h : Persisted earlier target) :
      Origin earlier field target []
  /-- To the record that the server found when it was asked for one of that table. -/
  | found {table identity : String} {notes : List Call} (htarget : field.target = some table)
      (hnotes : ∀ call ∈ notes, call.1.IsNote) (hread : Record.read identity = .ok target) :
      Origin earlier field target (notes ++ [(.picked table (.ok (some target)),
        [(.query (.findAny table), .answered (some identity))])])

/-- All records that the statements of a trace refer to are known to the server. -/
structure Grounded (trace : List Call) : Prop where
  /-- Links are set when no instance is left to create, of records and to records of the run. -/
  updates : ∀ later record name targets answer sent past,
    trace = later ++ (.related record name targets answer, sent) :: past →
      (∀ call ∈ later, call.1.model? = none) ∧ Persisted past record ∧
        ∀ target ∈ targets, Persisted past target
  /-- Every record in an instance is a link of one of the fields, made at the turn of the field. -/
  creates : ∀ later record model values answer sent past,
    trace = later ++ (.saved record model values answer, sent) :: past →
      ∃ made earlier, past = made ++ earlier ∧
        ∀ before name target after, values = before ++ (name, Value.record target) :: after →
          ∃ front field rest first own others, model.fields = front ++ field :: rest ∧
            field.name = name ∧ field.kind = .foreignKey ∧ made = others ++ own ++ first ∧
            FieldsMade (.ofJournal (earlier.map Prod.fst)) front (first.map Prod.fst) before ∧
            FieldsMade (.ofJournal (earlier.map Prod.fst)) rest (others.map Prod.fst) after ∧
            Origin earlier field target own
  /-- A record of a table is looked for only while no instance in the table was created. -/
  looks : ∀ later table answer sent past,
    trace = later ++ (.picked table answer, sent) :: past →
      ∀ record, Persisted past record → record.table ≠ table

section

variable {trace : List Call} {models : List Model}

theorem persisted_iff (hsent : ∀ call ∈ trace, Sent call.1 call.2) {record : Record} :
    Persisted trace record ↔ record ∈ (Ledger.ofJournal (trace.map Prod.fst)).records := by
  rw [Ledger.mem_ofJournal_iff]
  constructor
  · rintro ⟨model, values, statement, identity, -, hmem⟩
    exact ⟨model, values, List.mem_map.2 ⟨_, hmem, rfl⟩⟩
  · rintro ⟨model, values, hmem⟩
    obtain ⟨⟨event, sent⟩, hcall, rfl⟩ := List.mem_map.1 hmem
    rcases (hsent _ hcall).of_saved with ⟨failure, -, hanswer, -⟩ | ⟨statement, reply, hstatement, hanswer, rfl⟩
    · cases hanswer
    · obtain ⟨identity, rfl⟩ := executed_eq_ok hanswer.symm
      exact ⟨model, values, statement, identity, hstatement, hcall⟩

theorem persisted_of_mem_created (hsent : ∀ call ∈ trace, Sent call.1 call.2) {table : String}
    {record : Record} (h : record ∈ (Ledger.ofJournal (trace.map Prod.fst)).created table) :
    Persisted trace record :=
  (persisted_iff hsent).2 (Ledger.mem_created_iff.1 h).1

theorem origin_of_fieldMade {earlier own : List Call} (hearlier : ∀ call ∈ earlier, Sent call.1 call.2)
    (hown : ∀ call ∈ own, Sent call.1 call.2) {field : Field} {target : Record}
    (h : FieldMade (.ofJournal (earlier.map Prod.fst)) field (own.map Prod.fst)
      (some (.record target))) :
    field.kind = .foreignKey ∧ Origin earlier field target own := by
  obtain ⟨hkind, table, htarget, ⟨hnil, hcreated⟩ | ⟨-, notes, hnotes, hlook⟩⟩ := h.of_record
  · obtain rfl := List.map_eq_nil_iff.1 hnil
    obtain rfl := (Ledger.mem_created_iff.1 hcreated).2
    exact ⟨hkind, .persisted htarget (persisted_of_mem_created hearlier hcreated)⟩
  · obtain ⟨front, back, rfl, rfl, hback⟩ := List.map_eq_append_iff.1 hlook
    obtain ⟨⟨event, sent⟩, rfl, hevent⟩ := List.map_eq_singleton_iff.1 hback
    obtain rfl : event = .picked table (.ok (some target)) := hevent
    have hpicked : Sent (.picked table (.ok (some target))) sent :=
      hown _ (List.mem_append_right _ List.mem_cons_self)
    obtain ⟨reply, hanswer, hquery⟩ := hpicked.of_picked
    obtain ⟨identity, rfl, hread⟩ := found_eq_some hanswer.symm
    obtain rfl : sent = _ := hquery
    refine ⟨hkind, .found htarget (fun call hcall => ?_) hread⟩
    exact hnotes call.1 (List.mem_map_of_mem hcall)

theorem grounded_of_lawful (hsent : ∀ call ∈ trace, Sent call.1 call.2)
    (hlawful : Lawful models (trace.map Prod.fst)) : Grounded trace where
  updates := by
    rintro later record name targets answer sent past rfl
    have hpast : ∀ call ∈ past, Sent call.1 call.2 := fun call hcall => hsent call (by simp [hcall])
    rw [List.map_append, List.map_cons] at hlawful
    obtain ⟨model, -, field, -, -, table, -, hrecord, htargets⟩ := (hlawful.of_split rfl).1
    refine ⟨?_, persisted_of_mem_created hpast hrecord, fun target htarget =>
      persisted_of_mem_created hpast (htargets target htarget)⟩
    intro call hcall
    obtain ⟨newer, older, rfl⟩ := List.append_of_mem hcall
    obtain ⟨event, told⟩ := call
    cases event with
    | saved saved model values granted =>
        -- An instance is saved only when nothing was linked before.
        simp only [List.map_append, List.map_cons, List.append_assoc, List.cons_append] at hlawful
        have hunrelated := (hlawful.of_split rfl).1.2.2.1
        exact absurd trivial (hunrelated (.related record name targets answer) (by simp))
    | _ => rfl
  creates := by
    rintro later record model values answer sent past rfl
    rw [List.map_append, List.map_cons] at hlawful
    obtain ⟨-, -, -, made, earlier, hpast, hmade⟩ := (hlawful.of_split rfl).1
    obtain ⟨made, earlier, rfl, rfl, rfl⟩ := List.map_eq_append_iff.1 hpast
    refine ⟨made, earlier, rfl, fun before name target after hvalues => ?_⟩
    obtain ⟨front, field, rest, first, own, others, hfields, hname, hparts, hfront, hown, hrest⟩ :=
      hmade.madeAt hvalues
    obtain ⟨newer, first, rfl, hnewer, rfl⟩ := List.map_eq_append_iff.1 hparts
    obtain ⟨others, own, rfl, rfl, rfl⟩ := List.map_eq_append_iff.1 hnewer
    obtain ⟨hkind, horigin⟩ := origin_of_fieldMade
      (fun call hcall => hsent call (by simp [hcall]))
      (fun call hcall => hsent call (by simp [hcall])) hown
    exact ⟨front, field, rest, first, own, others, hfields, hname, hkind, rfl, hfront, hrest, horigin⟩
  looks := by
    rintro later table answer sent past rfl record hrecord htable
    have hpast : ∀ call ∈ past, Sent call.1 call.2 := fun call hcall => hsent call (by simp [hcall])
    rw [List.map_append, List.map_cons] at hlawful
    have hempty : (Ledger.ofJournal (past.map Prod.fst)).created table = [] :=
      (hlawful.of_split rfl).1
    have hmem := Ledger.mem_created_iff.2 ⟨(persisted_iff hpast).1 hrecord, htable⟩
    rw [hempty] at hmem
    cases hmem

end

/--
All that is sent in a run belongs to the calls of its journal, and those refer only to records
whose creation the server answered with success before, or that it found for the field at hand.
-/
theorem runRegistry_grounded {δ : Type} (server : Server δ) (state : δ) (now : Instant)
    (registry : Registry) (settings : Settings) (draws : Draws) :
    let run := (Generation.runRegistry (store server) now registry settings
      { store := { server := state }, draws }).2
    ∃ trace, Traces trace run.store run.journal ∧ Grounded trace := by
  intro run
  obtain ⟨trace, htrace⟩ := (traced server).runRegistry registry settings
    ({ store := { server := state }, draws } : Run (Session δ)) ⟨[], rfl, rfl, nofun⟩
  have hlawful := (Generation.runRegistry_written (store server) now registry settings
    { server := state } draws).2.lawful
  rw [← htrace.events] at hlawful
  exact ⟨trace, htrace, grounded_of_lawful htrace.sent hlawful⟩

/--
The administrator is no instance: a post looks for its author in the table of accounts, although
a row was created there at the start of the same run.
-/
theorem look_after_admin_created :
    let post := (Model.ofName "blog" "post").addField
      { name := "author", kind := .foreignKey, target := some "user" }
    let admin : Account := { table := "user", username := "admin", email := "", password := "" }
    let settings : Settings :=
      { count := 1, exclude := [], authApp := "auth", bootstrap := { groups := [] }, admin }
    let server : Server Unit := { reply := fun _ state => (.answered none, state) }
    let run := (Generation.runRegistry (store server) ⟨0, 0⟩ ⟨[post]⟩ settings
      { store := { server := () }, draws := .ofSeed 1 }).2
    Registry.ofModels [post] = .ok ⟨[post]⟩ ∧
      ∃ later past, run.store.exchanges =
          later ++ (.query (.findAny admin.table), .answered none) :: past ∧
        (.query (.createAdmin admin), .answered none) ∈ past := by
  intro post admin settings server run
  refine ⟨by decide, run.store.exchanges.take 1, run.store.exchanges.drop 2, ?_, ?_⟩
  · decide +kernel
  · decide +kernel

end Database

end SampleData
