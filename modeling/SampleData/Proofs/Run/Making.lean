import SampleData.Proofs.Fake
import SampleData.Proofs.Run.Keeping
import SampleData.Proofs.Synthesis

/-!
# Making and linking an instance

What it takes to make an instance, told by the events of it.  An instance is made from the
ledger as it stands when its making begins: a link leads to a record of the ledger, or else to
what the store found, and the store is asked only for tables of which the ledger has nothing.
-/

namespace SampleData

namespace Event

def created? : Event → Option Record
  | saved record _ _ (.ok _) => some record
  | _ => none

def model? : Event → Option Model
  | saved _ model _ _ => some model
  | _ => none

def IsRelated : Event → Prop
  | related _ _ _ _ => True
  | _ => False

/-- Whether an event neither saves an instance nor sets links. -/
def IsAside : Event → Prop
  | saved _ _ _ _ => False
  | related _ _ _ _ => False
  | _ => True

def IsFree : Event → Prop
  | saved _ _ _ _ => False
  | picked _ _ => False
  | related _ _ _ _ => False
  | _ => True

variable {event : Event}

theorem IsNote.isFree (h : event.IsNote) : event.IsFree := by
  cases event <;> trivial

theorem IsFree.isAside (h : event.IsFree) : event.IsAside := by
  cases event <;> trivial

theorem IsNote.isAside (h : event.IsNote) : event.IsAside := by
  cases event <;> trivial

theorem IsAside.created?_eq_none (h : event.IsAside) : event.created? = none := by
  cases event <;> first | rfl | cases h

theorem IsAside.model?_eq_none (h : event.IsAside) : event.model? = none := by
  cases event <;> first | rfl | cases h

theorem IsAside.not_isRelated (h : event.IsAside) : ¬ event.IsRelated := by
  cases event <;> first | exact id | exact fun _ => h

theorem filterMap_aside {α : Type} {read : Event → Option α} {events : List Event}
    (hread : ∀ {event : Event}, event.IsAside → read event = none)
    (h : ∀ event ∈ events, event.IsAside) : events.filterMap read = [] :=
  List.filterMap_eq_nil_iff.2 fun event hmem => hread (h event hmem)

/-- What is read off a journal does not change with events that it is not read off. -/
theorem filterMap_append_aside {α : Type} {read : Event → Option α} {events : List Event}
    (hread : ∀ {event : Event}, event.IsAside → read event = none)
    (h : ∀ event ∈ events, event.IsAside) (journal : List Event) :
    (events ++ journal).filterMap read = journal.filterMap read := by
  rw [List.filterMap_append, filterMap_aside hread h, List.nil_append]

end Event

def Ledger.ofJournal (journal : List Event) : Ledger :=
  ⟨journal.filterMap Event.created?⟩

theorem Ledger.ofJournal_append {events journal : List Event}
    (h : ∀ event ∈ events, event.IsAside) :
    Ledger.ofJournal (events ++ journal) = Ledger.ofJournal journal := by
  unfold ofJournal
  rw [Event.filterMap_append_aside Event.IsAside.created?_eq_none h]

def Ledger.afterSave (ledger : Ledger) (record : Record) : Except Failure Unit → Ledger
  | .ok _ => ledger.add record
  | .error _ => ledger

theorem Ledger.ofJournal_saved (record : Record) (model : Model) (values : Values)
    (answer : Except Failure Unit) (journal : List Event) :
    Ledger.ofJournal (.saved record model values answer :: journal) =
      (Ledger.ofJournal journal).afterSave record answer := by
  cases answer <;> rfl

theorem Ledger.mem_ofJournal_iff {journal : List Event} {record : Record} :
    record ∈ (Ledger.ofJournal journal).records ↔
      ∃ model values, .saved record model values (.ok ()) ∈ journal := by
  unfold ofJournal
  rw [List.mem_filterMap]
  constructor
  · rintro ⟨event, hmem, hcreated⟩
    cases event with
    | saved found model values answer =>
        cases answer with
        | error failure => cases hcreated
        | ok _ =>
            cases hcreated
            exact ⟨model, values, hmem⟩
    | _ => cases hcreated
  · rintro ⟨model, values, hmem⟩
    exact ⟨_, hmem, rfl⟩

/-! ## How values are made -/

def foundRecord? : Except Failure (Option Record) → Option Record
  | .ok record => record
  | .error _ => none

/-- How a field gets its value from a ledger, with the events of that, the latest first. -/
inductive FieldMade (ledger : Ledger) (field : Field) : List Event → Option Value → Prop
  /-- The value is no link. -/
  | plain {notes : List Event} {value : Option Value} (hkind : field.kind ≠ .foreignKey)
      (hnotes : ∀ event ∈ notes, event.IsNote) (hvalue : ∀ target, value ≠ some (.record target)) :
      FieldMade ledger field notes value
  /-- The link leads nowhere. -/
  | untargeted (hkind : field.kind = .foreignKey) (htarget : field.target = none) :
      FieldMade ledger field [] none
  /-- The link leads to a record of the ledger. -/
  | created {table : String} {target : Record} (hkind : field.kind = .foreignKey)
      (htarget : field.target = some table) (hcreated : target ∈ ledger.created table) :
      FieldMade ledger field [] (some (.record target))
  /-- The ledger has no record to link to, and the store is asked for one. -/
  | picked {table : String} {answer : Except Failure (Option Record)} {notes : List Event}
      (hkind : field.kind = .foreignKey) (htarget : field.target = some table)
      (hempty : ledger.created table = []) (hnotes : ∀ event ∈ notes, event.IsNote) :
      FieldMade ledger field (notes ++ [.picked table answer])
        ((foundRecord? answer).map Value.record)

inductive FieldsMade (ledger : Ledger) : List Field → List Event → Values → Prop
  | nil : FieldsMade ledger [] [] []
  /-- The key is no field of its own. -/
  | key {field : Field} {rest : List Field} {events : List Event} {values : Values}
      (hname : field.name = Generation.keyField) (hrest : FieldsMade ledger rest events values) :
      FieldsMade ledger (field :: rest) events values
  | cons {field : Field} {rest : List Field} {events later : List Event} {value : Option Value}
      {values : Values} (hname : field.name ≠ Generation.keyField)
      (hfield : FieldMade ledger field events value) (hrest : FieldsMade ledger rest later values) :
      FieldsMade ledger (field :: rest) (later ++ events)
        ((value.map fun value => (field.name, value)).toList ++ values)

theorem FieldMade.isAside {ledger : Ledger} {field : Field} {made : List Event}
    {value : Option Value} (h : FieldMade ledger field made value) :
    ∀ event ∈ made, event.IsAside := by
  intro event hmem
  cases h with
  | plain _ hnotes _ => exact (hnotes event hmem).isAside
  | untargeted _ _ => cases hmem
  | created _ _ _ => cases hmem
  | picked _ _ _ hnotes =>
      rcases List.mem_append.1 hmem with hmem | hmem
      · exact (hnotes event hmem).isAside
      · rw [List.mem_singleton.1 hmem]
        trivial

theorem FieldsMade.isAside {ledger : Ledger} {fields : List Field} {made : List Event}
    {values : Values} (h : FieldsMade ledger fields made values) :
    ∀ event ∈ made, event.IsAside := by
  induction h with
  | nil => exact nofun
  | key _ _ ih => exact ih
  | cons _ hfield _ ih =>
      intro event hmem
      rcases List.mem_append.1 hmem with hmem | hmem
      · exact ih event hmem
      · exact hfield.isAside event hmem

theorem foundRecord?_eq_some {answer : Except Failure (Option Record)} {record : Record}
    (h : foundRecord? answer = some record) : answer = .ok (some record) := by
  cases answer with
  | error failure => cases h
  | ok found => exact congrArg Except.ok h

/--
A link leads to a record of the ledger, or to what was found for a table of which the ledger has
nothing.
-/
theorem FieldMade.of_record {ledger : Ledger} {field : Field} {made : List Event} {target : Record}
    (h : FieldMade ledger field made (some (.record target))) :
    field.kind = .foreignKey ∧ ∃ table, field.target = some table ∧
      (made = [] ∧ target ∈ ledger.created table ∨
        ledger.created table = [] ∧ ∃ notes, (∀ event ∈ notes, event.IsNote) ∧
          made = notes ++ [.picked table (.ok (some target))]) := by
  generalize hvalue : some (Value.record target) = value at h
  cases h with
  | plain _ _ hplain => exact absurd hvalue.symm (hplain target)
  | untargeted _ _ => cases hvalue
  | created hkind htarget hcreated =>
      cases hvalue
      exact ⟨hkind, _, htarget, .inl ⟨rfl, hcreated⟩⟩
  | picked hkind htarget hempty hnotes =>
      obtain ⟨found, hfound, hrecord⟩ := Option.map_eq_some_iff.1 hvalue.symm
      cases hrecord
      rw [foundRecord?_eq_some hfound]
      exact ⟨hkind, _, htarget, .inr ⟨hempty, _, hnotes, rfl⟩⟩

/-- A value was made for a field, at the turn of that field between those in front and the rest. -/
def MadeAt (ledger : Ledger) (fields : List Field) (made : List Event) (before : Values)
    (name : String) (value : Value) (after : Values) : Prop :=
  ∃ front field rest first own later, fields = front ++ field :: rest ∧ field.name = name ∧
    made = later ++ own ++ first ∧ FieldsMade ledger front first before ∧
    FieldMade ledger field own (some value) ∧ FieldsMade ledger rest later after

theorem MadeAt.key {ledger : Ledger} {field : Field} {fields : List Field} {made : List Event}
    {before after : Values} {name : String} {value : Value}
    (hname : field.name = Generation.keyField)
    (h : MadeAt ledger fields made before name value after) :
    MadeAt ledger (field :: fields) made before name value after := by
  obtain ⟨front, other, rest, first, own, later, rfl, hother, hmade, hfront, hown, hrest⟩ := h
  exact ⟨field :: front, other, rest, first, own, later, rfl, hother, hmade, .key hname hfront,
    hown, hrest⟩

theorem MadeAt.cons {ledger : Ledger} {field : Field} {fields : List Field}
    {events made : List Event} {given : Option Value} {before after : Values} {name : String}
    {value : Value} (hname : field.name ≠ Generation.keyField)
    (hfield : FieldMade ledger field events given)
    (h : MadeAt ledger fields made before name value after) :
    MadeAt ledger (field :: fields) (made ++ events)
      ((given.map fun value => (field.name, value)).toList ++ before) name value after := by
  obtain ⟨front, other, rest, first, own, later, rfl, hother, rfl, hfront, hown, hrest⟩ := h
  exact ⟨field :: front, other, rest, first ++ events, own, later, rfl, hother, by simp,
    .cons hname hfield hfront, hown, hrest⟩

theorem FieldsMade.madeAt {ledger : Ledger} {fields : List Field} {made : List Event}
    {values : Values} (h : FieldsMade ledger fields made values) {before after : Values}
    {name : String} {value : Value} (hsplit : values = before ++ (name, value) :: after) :
    MadeAt ledger fields made before name value after := by
  induction h generalizing before with
  | nil => cases before <;> cases hsplit
  | key hkey _ ih => exact (ih hsplit).key hkey
  | @cons field rest events later given values hname hfield hrest ih =>
      cases given with
      | none => exact (ih hsplit).cons hname hfield
      | some given =>
          cases before with
          | nil =>
              obtain ⟨hentry, rfl⟩ := List.cons.inj hsplit
              cases hentry
              exact ⟨[], field, rest, [], events, later, rfl, rfl, by simp, .nil, hfield, hrest⟩
          | cons entry others =>
              obtain ⟨rfl, hvalues⟩ := List.cons.inj hsplit
              exact (ih hvalues).cons hname hfield

theorem FieldsMade.exists_field {ledger : Ledger} {fields : List Field} {made : List Event}
    {values : Values} (h : FieldsMade ledger fields made values) {name : String} {value : Value}
    (hentry : (name, value) ∈ values) :
    ∃ field ∈ fields, field.name = name ∧
      ∃ events ⊆ made, FieldMade ledger field events (some value) := by
  obtain ⟨before, after, hsplit⟩ := List.append_of_mem hentry
  obtain ⟨front, field, rest, first, own, later, rfl, hname, rfl, -, hown, -⟩ := h.madeAt hsplit
  refine ⟨field, by simp, hname, own, fun event hevent => ?_, hown⟩
  simp [hevent]

/-- Every field but the key is made, and its value is among those of the instance if it has one. -/
theorem FieldsMade.exists_value {ledger : Ledger} {fields : List Field} {made : List Event}
    {values : Values} (h : FieldsMade ledger fields made values) {field : Field}
    (hfield : field ∈ fields) (hname : field.name ≠ Generation.keyField) :
    ∃ events value, FieldMade ledger field events value ∧
      ∀ given, value = some given → (field.name, given) ∈ values := by
  induction h with
  | nil => cases hfield
  | key hkey _ ih =>
      rcases List.mem_cons.1 hfield with rfl | hfield
      · exact absurd hkey hname
      · exact ih hfield
  | @cons _ _ events _ value _ _ hmade _ ih =>
      rcases List.mem_cons.1 hfield with rfl | hfield
      · refine ⟨events, value, hmade, fun given hgiven => ?_⟩
        rw [hgiven]
        exact List.mem_append_left _ List.mem_cons_self
      · obtain ⟨others, other, hothers, hgiven⟩ := ih hfield
        exact ⟨others, other, hothers, fun given h => List.mem_append_right _ (hgiven given h)⟩

/-- A link to a table of which the ledger has records leads to one of these. -/
theorem FieldMade.created_of_ne_nil {ledger : Ledger} {field : Field} {made : List Event}
    {value : Option Value} (h : FieldMade ledger field made value) (hkind : field.kind = .foreignKey)
    {table : String} (htarget : field.target = some table) (hcreated : ledger.created table ≠ []) :
    ∃ target ∈ ledger.created table, value = some (.record target) := by
  cases h with
  | plain hplain _ _ => exact absurd hkind hplain
  | untargeted _ hnone =>
      rw [hnone] at htarget
      cases htarget
  | @created found target _ hfound hmem =>
      obtain rfl : table = found := Option.some.inj (htarget.symm.trans hfound)
      exact ⟨target, hmem, rfl⟩
  | @picked found _ _ _ hfound hempty _ =>
      obtain rfl : table = found := Option.some.inj (htarget.symm.trans hfound)
      exact absurd hempty hcreated

namespace Run

variable {σ : Type}

/-- A run goes on: events come in front of its journal, and its ledger stays as it is. -/
structure Extends (events : List Event) (run later : Run σ) : Prop where
  journal : later.journal = events ++ run.journal
  ledger : later.ledger = run.ledger

theorem Extends.trans {events others : List Event} {first second third : Run σ}
    (hsecond : Extends events first second) (hthird : Extends others second third) :
    Extends (others ++ events) first third where
  journal := by rw [hthird.journal, hsecond.journal, List.append_assoc]
  ledger := hthird.ledger.trans hsecond.ledger

/-! ## Steps taken from a run -/

variable {α : Type}

@[simp] theorem get_apply (run : Run σ) : (get : StateM (Run σ) (Run σ)) run = (run, run) := rfl

@[simp] theorem note_apply (event : Event) (run : Run σ) :
    note event run = ((), { run with journal := event :: run.journal }) := rfl

@[simp] theorem draw_apply (sampler : Sampler α) (run : Run σ) :
    draw sampler run =
      ((sampler run.draws).1, { run with draws := (sampler run.draws).2 }) := rfl

@[simp] theorem save_apply (store : Store σ) (record : Record) (model : Model) (values : Values)
    (run : Run σ) :
    save store record model values run =
      let saved := store.save record model values run.store
      (saved.1, { run with
        store := saved.2, journal := .saved record model values saved.1 :: run.journal }) := rfl

@[simp] theorem pick_apply (store : Store σ) (table : String) (run : Run σ) :
    pick store table run =
      let picked := store.pick table run.draws run.store
      (picked.1, { run with
        store := picked.2.2, draws := picked.2.1,
        journal := .picked table picked.1 :: run.journal }) := rfl

@[simp] theorem relate_apply (store : Store σ) (record : Record) (field : String)
    (targets : List Record) (run : Run σ) :
    relate store record field targets run =
      let related := store.relate record field targets run.store
      (related.1, { run with
        store := related.2,
        journal := .related record field targets related.1 :: run.journal }) := rfl

end Run

namespace Generation

open Run

variable {σ : Type} (store : Store σ) (now : Instant)

/-! ## Making an instance -/

theorem plainValue_made {field : Field} (hkind : field.kind ≠ .foreignKey) (run : Run σ) :
    ∃ made, Extends made run (plainValue now field run).2 ∧
      FieldMade run.ledger field made (plainValue now field run).1 := by
  have hne := Synthesis.value_ne_record now field run.draws
  simp only [plainValue, bind_apply, draw_apply]
  generalize Synthesis.value now field run.draws = sampled at hne ⊢
  rcases sampled with ⟨failure | value, draws⟩
  · exact ⟨[_], ⟨rfl, rfl⟩, .plain hkind (by simp [Event.IsNote]) nofun⟩
  · exact ⟨[], ⟨rfl, rfl⟩, .plain hkind (by simp) fun target h => hne target (congrArg _ h)⟩

theorem resolveTarget_of_created {table : String} {run : Run σ}
    (hcreated : run.ledger.created table ≠ []) :
    ∃ target ∈ run.ledger.created table, ∃ draws,
      resolveTarget store table run = (some target, { run with draws }) := by
  obtain ⟨target, hmem, hchosen⟩ := Draws.exists_choose hcreated run.draws
  refine ⟨target, hmem, (run.ledger.choose table run.draws).2, ?_⟩
  change (run.ledger.choose table run.draws).1 = some target at hchosen
  simp [resolveTarget, hchosen]

theorem resolveTarget_of_created_eq_nil {table : String} {run : Run σ}
    (hempty : run.ledger.created table = []) :
    ∃ answer notes, (∀ event ∈ notes, event.IsNote) ∧
      (resolveTarget store table run).1 = foundRecord? answer ∧
      Extends (notes ++ [.picked table answer]) run (resolveTarget store table run).2 := by
  simp only [resolveTarget, bind_apply, get_apply, draw_apply, pick_apply,
    Ledger.choose_of_created_eq_nil hempty]
  generalize store.pick table run.draws run.store = picked
  rcases picked with ⟨failure | record, draws, state⟩
  · refine ⟨.error failure, [_], ?_, rfl, ⟨rfl, rfl⟩⟩
    simp [Event.IsNote]
  · exact ⟨.ok record, [], by simp, rfl, ⟨rfl, rfl⟩⟩

theorem resolveLink_made {field : Field} (hkind : field.kind = .foreignKey) (run : Run σ) :
    ∃ made, Extends made run (resolveLink store field run).2 ∧
      FieldMade run.ledger field made ((resolveLink store field run).1.map Value.record) := by
  unfold resolveLink
  cases htarget : field.target with
  | none => exact ⟨[], ⟨rfl, rfl⟩, .untargeted hkind htarget⟩
  | some table =>
      by_cases hempty : run.ledger.created table = []
      · obtain ⟨answer, notes, hnotes, hresult, hextends⟩ :=
          resolveTarget_of_created_eq_nil store hempty
        refine ⟨_, hextends, ?_⟩
        change FieldMade _ _ _ ((resolveTarget store table run).1.map Value.record)
        rw [hresult]
        exact .picked hkind htarget hempty hnotes
      · obtain ⟨target, hmem, draws, hresult⟩ := resolveTarget_of_created store hempty
        refine ⟨[], ?_, ?_⟩
        · change Extends [] run (resolveTarget store table run).2
          rw [hresult]
          exact ⟨rfl, rfl⟩
        · change FieldMade _ _ _ ((resolveTarget store table run).1.map Value.record)
          rw [hresult]
          exact .created hkind htarget hmem

theorem fieldValue_made (field : Field) (run : Run σ) :
    ∃ made, Extends made run (fieldValue store now field run).2 ∧
      FieldMade run.ledger field made (fieldValue store now field run).1 := by
  unfold fieldValue
  split
  · next hkind => exact resolveLink_made store hkind run
  · next hkind => exact plainValue_made now hkind run

theorem fieldValues_made (fields : List Field) (run : Run σ) :
    ∃ made, Extends made run (fieldValues store now fields run).2 ∧
      FieldsMade run.ledger fields made (fieldValues store now fields run).1 := by
  induction fields generalizing run with
  | nil => exact ⟨[], ⟨rfl, rfl⟩, .nil⟩
  | cons field rest ih =>
      unfold fieldValues
      split
      · next hname =>
        obtain ⟨made, hextends, hmade⟩ := ih run
        exact ⟨made, hextends, .key hname hmade⟩
      · next hname =>
        obtain ⟨made, hextends, hmade⟩ := fieldValue_made store now field run
        obtain ⟨later, hlater, hrest⟩ := ih (fieldValue store now field run).2
        rw [hextends.ledger] at hrest
        exact ⟨later ++ made, hextends.trans hlater, .cons hname hmade hrest⟩

theorem makeInstance_made (model : Model) (number : Nat) (run : Run σ) :
    ∃ made values key answer notes, FieldsMade run.ledger model.fields made values ∧
      (∀ event ∈ notes, event.IsNote) ∧
      (makeInstance store now model number run).2.journal =
        notes ++ .saved ⟨model.table, key⟩ model values answer :: (made ++ run.journal) ∧
      (makeInstance store now model number run).2.ledger =
        run.ledger.afterSave ⟨model.table, key⟩ answer ∧
      (makeInstance store now model number run).1 = answer.isOk ∧ Fake.IsKey key := by
  obtain ⟨made, hextends, hmade⟩ :=
    fieldValues_made store now model.fields run
  refine ⟨made, (fieldValues store now model.fields run).1, ?_⟩
  rw [← hextends.ledger] at hmade
  rw [← hextends.journal, ← hextends.ledger]
  simp only [makeInstance, instanceValues, bind_apply, draw_apply, save_apply]
  generalize fieldValues store now model.fields run = valued at hmade ⊢
  have hkey := Fake.isKey_recordKey valued.2.draws
  generalize Fake.recordKey valued.2.draws = drawn at hkey ⊢
  generalize store.save ⟨model.table, drawn.1⟩ model valued.1 valued.2.store = saved
  rcases saved with ⟨failure | _, state⟩
  · refine ⟨drawn.1, .error failure, [_], hmade, ?_, rfl, rfl, rfl, hkey⟩
    simp [Event.IsNote]
  · exact ⟨drawn.1, .ok (), [], hmade, nofun, rfl, rfl, rfl, hkey⟩

/-! ## Linking an instance -/

theorem linkInstance_store (field : Field) (table : String) (record : Record) (run : Run σ) :
    (linkInstance store field table record run).2.store =
      (store.relate record field.name (run.ledger.sample table run.draws).1 run.store).2 := by
  simp only [linkInstance, bind_apply, get_apply, draw_apply, relate_apply]
  generalize store.relate record field.name (run.ledger.sample table run.draws).1 run.store = related
  rcases related with ⟨failure | _, state⟩ <;> rfl

theorem linkInstance_of_ok {store : Store σ} {field : Field} {table : String} {record : Record}
    {run : Run σ} {state : σ}
    (h : store.relate record field.name (run.ledger.sample table run.draws).1 run.store =
      (.ok (), state)) :
    linkInstance store field table record run =
      (true, { run with
        store := state, draws := (run.ledger.sample table run.draws).2,
        journal := .related record field.name (run.ledger.sample table run.draws).1 (.ok ()) ::
          run.journal }) := by
  simp only [linkInstance, bind_apply, get_apply, draw_apply, relate_apply, h]
  rfl

theorem linkInstance_made (field : Field) (table : String) (record : Record) (run : Run σ) :
    ∃ targets answer notes, (∀ target ∈ targets, target ∈ run.ledger.created table) ∧
      (∀ event ∈ notes, event.IsNote) ∧
      Extends (notes ++ [.related record field.name targets answer]) run
        (linkInstance store field table record run).2 ∧
      (linkInstance store field table record run).1 = answer.isOk ∧
      (run.ledger.created table ≠ [] → targets ≠ []) := by
  have hsample : ∀ target ∈ (run.ledger.sample table run.draws).1,
      target ∈ run.ledger.created table := fun _ hmem => Ledger.mem_created_of_mem_sample hmem
  have hsome : run.ledger.created table ≠ [] → (run.ledger.sample table run.draws).1 ≠ [] :=
    fun hcreated => Ledger.sample_ne_nil hcreated run.draws
  simp only [linkInstance, bind_apply, get_apply, draw_apply, relate_apply]
  generalize run.ledger.sample table run.draws = sampled at hsample hsome ⊢
  generalize store.relate record field.name sampled.1 run.store = related
  rcases related with ⟨failure | _, state⟩
  · refine ⟨sampled.1, .error failure, [_], hsample, ?_, ⟨rfl, rfl⟩, rfl, hsome⟩
    simp [Event.IsNote]
  · exact ⟨sampled.1, .ok (), [], hsample, nofun, ⟨rfl, rfl⟩, rfl, hsome⟩

end Generation

end SampleData
