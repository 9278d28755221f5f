import SampleData.Proofs.Naming
import SampleData.Proofs.Registry
import SampleData.Proofs.Run.Replay
import SampleData.Proofs.Run.Retelling
import SampleData.Proofs.Store.Constraints

/-!
# The key as a field

A model may say that its records have a key, by a field of that name.  No value is ever made for
the field, so that a model with it passes for the model without it, in memory as long as instances
may do without a value for the key.
-/

namespace SampleData

structure Field.TellsKey (field : Field) : Prop where
  name : field.name = Generation.keyField
  scalar : field.kind.isLink = false
  target : ∀ target ∈ field.target, Identifier.Plain target

/-- A model with one more field, behind so many of its own. -/
def Model.withField (place : Nat) (field : Field) (model : Model) : Model :=
  { model with fields := model.fields.take place ++ field :: model.fields.drop place }

def Model.withFieldIn (table : String) (place : Nat) (field : Field) (model : Model) : Model :=
  if model.table = table then model.withField place field else model

theorem Model.table_withFieldIn (table : String) (place : Nat) (field : Field) (model : Model) :
    (model.withFieldIn table place field).table = model.table := by
  unfold withFieldIn
  split <;> rfl

theorem Model.label_withFieldIn (table : String) (place : Nat) (field : Field) (model : Model) :
    (model.withFieldIn table place field).label = model.label := by
  unfold withFieldIn
  split <;> rfl

theorem FieldsMade.name_ne_keyField {ledger : Ledger} {fields : List Field} {made : List Event}
    {values : Values} (h : FieldsMade ledger fields made values) :
    ∀ entry ∈ values, entry.1 ≠ Generation.keyField := by
  induction h with
  | nil => exact nofun
  | key _ _ ih => exact ih
  | @cons _ _ _ _ value _ hname _ _ ih =>
      refine List.forall_mem_append.2 ⟨?_, ih⟩
      intro entry hentry
      rw [Option.mem_toList] at hentry
      obtain ⟨given, -, rfl⟩ := Option.map_eq_some_iff.1 hentry
      exact hname

theorem FieldsMade.get?_keyField {ledger : Ledger} {fields : List Field} {made : List Event}
    {values : Values} (h : FieldsMade ledger fields made values) :
    values.get? Generation.keyField = none :=
  Values.get?_eq_none_iff.2 h.name_ne_keyField

namespace Generation

variable {σ : Type} {store : Store σ} {now : Instant} {key : Field}

/-! ## Values -/

theorem fieldValues_keyField (hname : key.name = keyField) (front back : List Field) :
    fieldValues store now (front ++ key :: back) = fieldValues store now (front ++ back) := by
  induction front with
  | nil => exact if_pos hname
  | cons field rest ih =>
      rw [List.cons_append, List.cons_append]
      unfold fieldValues
      rw [ih]

/-! ## Names -/

theorem checkFields_append {front back : List Field} (h : checkField key = .ok ()) :
    checkFields (front ++ key :: back) = checkFields (front ++ back) := by
  induction front with
  | nil =>
      change (checkField key >>= fun _ => checkFields back) = _
      rw [h]
      rfl
  | cons field rest ih =>
      change (checkField field >>= fun _ => checkFields (rest ++ key :: back)) = _
      rw [ih]
      rfl

theorem checkModel_withField (hkey : key.TellsKey) (place : Nat) (model : Model) :
    checkModel (model.withField place key) = checkModel model := by
  have hcheck : checkField key = .ok () := by
    refine checkField_eq_ok_iff.2 ⟨?_, hkey.target⟩
    rw [hkey.name]
    decide
  have hown : model.allFields =
      model.fields.take place ++ (model.fields.drop place ++ model.manyToMany) := by
    rw [Model.allFields, ← List.append_assoc, List.take_append_drop]
  have hother : (model.withField place key).allFields =
      model.fields.take place ++ key :: (model.fields.drop place ++ model.manyToMany) := by
    rw [Model.allFields, Model.withField, List.append_assoc, List.cons_append]
  unfold checkModel
  rw [hown, hother, checkFields_append hcheck]
  rfl

/-! ## Order -/

theorem requiredTargets_withField (hkey : key.TellsKey) (place : Nat) (model : Model) :
    (model.withField place key).requiredTargets = model.requiredTargets := by
  have hkind : (key.kind == .foreignKey && key.required) = false := by
    have hscalar := hkey.scalar
    cases hkind : key.kind <;> simp_all [FieldKind.isLink]
  simp only [Model.requiredTargets, Model.withField, List.filter_append, List.filter_cons, hkind]
  conv_rhs => rw [← List.take_append_drop place model.fields, List.filter_append]
  rfl

end Generation

namespace MemoryStore

open Run Generation

variable {now : Instant} {key : Field}

/-! ## Saving -/

theorem findSome?_middle {α β : Type} {f : α → Option β} {element : α} (h : f element = none)
    (front back : List α) : (front ++ element :: back).findSome? f = (front ++ back).findSome? f := by
  rw [List.findSome?_append, List.findSome?_append, List.findSome?_cons, h]

/-- A key that need not have a value does not stand against an instance without one. -/
theorem save_withField (hname : key.name = keyField) (hoptional : key.required = false) {values : Values}
    (hvalues : values.get? keyField = none) (place : Nat) (model : Model) (record : Record) :
    save record (model.withField place key) values = save record model values := by
  funext state
  have hfault : state.fieldFault? model.table values key = none := by
    rw [← hname] at hvalues
    refine fieldFault?_eq_none_iff.2 ⟨?_, ?_, ?_⟩
    · simp [hoptional]
    · simp [hvalues]
    · simp [hvalues]
  have hsame : state.saveFault? record (model.withField place key) values =
      state.saveFault? record model values := by
    unfold saveFault?
    have hfields := findSome?_middle hfault (model.fields.take place) (model.fields.drop place)
    rw [List.take_append_drop] at hfields
    change (if record.table ≠ model.table then _ else if _ then _ else
      (model.fields.take place ++ key :: model.fields.drop place).findSome?
        (state.fieldFault? model.table values)) = _
    rw [hfields]
    rfl
  rw [save, save, hsame]

/-! ## Passing for another -/

theorem passesFor_withField (hkey : key.TellsKey) (hoptional : key.required = false) (place : Nat)
    (model : Model) : PassesFor store now (model.withField place key) model where
  app := rfl
  label := rfl
  table := rfl
  manyToMany := rfl
  required := requiredTargets_withField hkey place model
  check := checkModel_withField hkey place model
  values := by
    change fieldValues store now (model.fields.take place ++ key :: model.fields.drop place) = _
    rw [fieldValues_keyField hkey.name, List.take_append_drop]
  save := by
    intro record run state
    obtain ⟨made, -, hmade⟩ := fieldValues_made store now model.fields run
    exact congrFun (save_withField hkey.name hoptional hmade.get?_keyField place
      model record) state

theorem passesFor_withFieldIn (hkey : key.TellsKey) (hoptional : key.required = false)
    (table : String) (place : Nat) (model : Model) :
    PassesFor store now (model.withFieldIn table place key) model := by
  unfold Model.withFieldIn
  split
  · exact passesFor_withField hkey hoptional place model
  · exact ⟨rfl, rfl, rfl, rfl, rfl, rfl, rfl, fun _ _ _ => rfl⟩

end MemoryStore

/-! ## Registries -/

namespace Registry

theorem map_withFieldIn {front back : List Model} {model : Model}
    (distinct : ((front ++ model :: back).map Model.table).Nodup) (place : Nat) (key : Field) :
    (front ++ model :: back).map (Model.withFieldIn model.table place key) =
      front ++ model.withField place key :: back := by
  have hothers : ∀ other ∈ front ++ back, other.withFieldIn model.table place key = other := by
    intro other hother
    refine if_neg fun htable => ?_
    have hnot := (List.nodup_cons.1 ((List.perm_middle.map Model.table).nodup_iff.1 distinct)).1
    exact hnot (htable ▸ List.mem_map_of_mem hother)
  rw [List.forall_mem_append] at hothers
  have hown : model.withFieldIn model.table place key = model.withField place key := if_pos rfl
  rw [List.map_append, List.map_cons, hown, List.map_congr_left hothers.1,
    List.map_congr_left hothers.2, List.map_id', List.map_id']

/-- Links are resolved by the labels and tables of models alone. -/
theorem resolvedModel_map {f : Model → Model} (hlabel : ∀ model, (f model).label = model.label)
    (htable : ∀ model, (f model).table = model.table) (models : List Model) :
    resolvedModel (models.map f) = resolvedModel models := by
  have htargets : resolveTarget (models.map f) = resolveTarget models := by
    funext target
    simp [resolveTarget, tableOfLabel?, ← List.map_reverse, List.find?_map, Function.comp_def, hlabel,
      htable]
  have hfields : resolvedField (models.map f) = resolvedField models := by
    funext field
    rw [resolvedField, resolvedField, htargets]
  funext model
  rw [resolvedModel, resolvedModel, hfields]

theorem resolvedModel_withField {key : Field} (hscalar : key.kind.isLink = false) (models : List Model)
    (place : Nat) (model : Model) :
    resolvedModel models (model.withField place key) =
      (resolvedModel models model).withField place key := by
  have hkey : resolvedField models key = key := by
    rw [resolvedField, hscalar]
    rfl
  simp only [resolvedModel, Model.withField, List.map_append, List.map_cons, List.map_take,
    List.map_drop, hkey]

theorem hasTarget_withField {model : Model} (h : ∀ field ∈ model.allFields, HasTarget field)
    {key : Field} (hscalar : key.kind.isLink = false) (place : Nat) :
    ∀ field ∈ (model.withField place key).allFields, HasTarget field := by
  intro field hfield
  simp only [Model.allFields, Model.withField, List.mem_append, List.mem_cons] at hfield
  rcases hfield with (hfront | rfl | hback) | hlink
  · exact h field (List.mem_append_left _ (List.mem_of_mem_take hfront))
  · intro hlink
    rw [hscalar] at hlink
    cases hlink
  · exact h field (List.mem_append_left _ (List.mem_of_mem_drop hback))
  · exact h field (List.mem_append_right _ hlink)

theorem ofModels_withField {front back : List Model} {model : Model} {registry : Registry}
    (h : ofModels (front ++ model :: back) = .ok registry) {key : Field} (hkey : key.TellsKey)
    (place : Nat) :
    ofModels (front ++ model.withField place key :: back) =
      .ok ⟨registry.models.map (Model.withFieldIn model.table place key)⟩ := by
  obtain ⟨hdistinct, htargets, rfl⟩ := ofModels_eq_ok_iff.1 h
  generalize hmodels : front ++ model :: back = models at hdistinct htargets
  have hmap := @map_withFieldIn front back model (hmodels ▸ hdistinct) place key
  rw [hmodels] at hmap
  rw [← hmap, ofModels_eq_ok_iff]
  have hresolved := resolvedModel_map (Model.label_withFieldIn model.table place key)
    (Model.table_withFieldIn model.table place key) models
  refine ⟨?_, ?_, ?_⟩
  · have htables : Model.table ∘ Model.withFieldIn model.table place key = Model.table :=
      funext (Model.table_withFieldIn model.table place key)
    rw [List.map_map, htables]
    exact hdistinct
  · intro other hother
    obtain ⟨own, hown, rfl⟩ := List.mem_map.1 hother
    unfold Model.withFieldIn
    split
    · exact hasTarget_withField (htargets own hown) hkey.scalar place
    · exact htargets own hown
  · rw [hresolved, List.map_map, List.map_map]
    refine congrArg Registry.mk (List.map_congr_left fun other _ => ?_)
    simp only [Function.comp_apply, Model.withFieldIn]
    by_cases htable : other.table = model.table
    · rw [if_pos htable, resolvedModel_withField hkey.scalar]
      exact if_pos htable
    · rw [if_neg htable]
      exact if_neg htable

end Registry

namespace MemoryStore

open Run Generation

/--
A field for the key in one model of an accepted registry, wherever it stands among the fields of
that model, changes nothing of a run in memory as long as it need not have a value: the store, the
draws, all that is printed and logged, and the summary are the same.
-/
theorem run_withKey {front back : List Model} {model : Model} {registry : Registry}
    (h : Registry.ofModels (front ++ model :: back) = .ok registry) {key : Field}
    (hkey : key.TellsKey) (hoptional : key.required = false) (place : Nat) (now : Instant)
    (settings : Settings) (state : MemoryStore) (draws : Draws) :
    ∃ other, Registry.ofModels (front ++ model.withField place key :: back) = .ok other ∧
      let run := runRegistry store now registry settings { store := state, draws }
      let twin := runRegistry store now other settings { store := state, draws }
      twin.1 = run.1 ∧ twin.2.store = run.2.store ∧ twin.2.ledger = run.2.ledger ∧
        twin.2.draws = run.2.draws ∧ twin.2.lines = run.2.lines ∧ twin.2.log = run.2.log := by
  refine ⟨_, Registry.ofModels_withField h hkey place, ?_⟩
  intro run twin
  have htwin : twin = (run.1, run.2.retold (Model.withFieldIn model.table place key)) :=
    runRegistry_retells (passesFor_withFieldIn hkey hoptional model.table place) registry settings
      { store := state, draws }
  rw [htwin]
  exact ⟨rfl, rfl, rfl, rfl, lines_retold _ run.2, log_retold _ run.2⟩

/-- Authors with a key that they may do without. -/
theorem run_withKey_author :
    let author := (Model.ofName "blog" "author").addField { name := "age", kind := .integer }
    let key : Field := { name := "id", kind := .integer, required := false }
    let settings : Settings :=
      { count := 1, exclude := [], authApp := "auth", bootstrap := {}, admin := default }
    let run := runRegistry store ⟨0, 0⟩ ⟨[author]⟩ settings { store := {}, draws := .ofSeed 1 }
    Registry.ofModels [author] = .ok ⟨[author]⟩ ∧ key.TellsKey ∧ key.required = false ∧
      ∃ other, Registry.ofModels [author.withField 0 key] = .ok other ∧
        let twin := runRegistry store ⟨0, 0⟩ other settings { store := {}, draws := .ofSeed 1 }
        twin.1 = run.1 ∧ twin.2.store = run.2.store ∧ twin.2.ledger = run.2.ledger ∧
          twin.2.draws = run.2.draws ∧ twin.2.lines = run.2.lines ∧ twin.2.log = run.2.log := by
  intro author key settings run
  have hregistry : Registry.ofModels ([] ++ author :: []) = .ok ⟨[author]⟩ := by decide
  have hkey : key.TellsKey := ⟨rfl, rfl, nofun⟩
  exact ⟨hregistry, hkey, rfl, run_withKey hregistry hkey rfl 0 ⟨0, 0⟩ settings {} (.ofSeed 1)⟩

/--
A key that an instance must have a value for is never given one, so that no instance is created.
-/
theorem created_of_required_key {models : List Model} {registry : Registry}
    (h : Registry.ofModels models = .ok registry) {model : Model} (hmodel : model ∈ registry.models)
    {key : Field} (hkey : key ∈ model.fields) (hname : key.name = keyField)
    (hrequired : key.required = true) (now : Instant) (settings : Settings) (draws : Draws) :
    (runRegistry store now registry settings { store := {}, draws }).2.ledger.created model.table = [] := by
  obtain ⟨-, hanswered⟩ := runRegistry_replayed now registry settings draws
  obtain ⟨hledger, hwritten⟩ := runRegistry_written store now registry settings {} draws
  rw [List.eq_nil_iff_forall_not_mem, hledger]
  intro record hrecord
  obtain ⟨hmem, htable⟩ := Ledger.mem_created_iff.1 hrecord
  obtain ⟨maker, values, hsaved⟩ := Ledger.mem_ofJournal_iff.1 hmem
  obtain ⟨later, past, hsplit⟩ := List.append_of_mem hsaved
  obtain ⟨hmaker, hof, -, made, earlier, -, hmade⟩ := (hwritten.lawful.of_split hsplit).1
  obtain rfl : maker = model := Registry.eq_of_table_eq (Registry.ofModels_nodup h)
    ((registry.select_sublist _ _).subset hmaker) hmodel (hof.symm.trans htable)
  have hanswer : (save record maker values (after past)).1 = .ok () := (hanswered.of_split hsplit).1
  obtain ⟨value, hvalue⟩ := exists_value_of_save hanswer hkey hrequired
  rw [hname, hmade.get?_keyField] at hvalue
  cases hvalue

/-- One author is created, but none as soon as authors must have a key. -/
theorem run_withKey_required_author :
    let author := (Model.ofName "blog" "author").addField { name := "age", kind := .integer }
    let key : Field := { name := "id", kind := .integer }
    let settings : Settings :=
      { count := 1, exclude := [], authApp := "auth", bootstrap := {}, admin := default }
    let run := runRegistry store ⟨0, 0⟩ ⟨[author]⟩ settings { store := {}, draws := .ofSeed 1 }
    let twin := runRegistry store ⟨0, 0⟩ ⟨[author.withField 0 key]⟩ settings
      { store := {}, draws := .ofSeed 1 }
    Registry.ofModels [author] = .ok ⟨[author]⟩ ∧
      Registry.ofModels [author.withField 0 key] = .ok ⟨[author.withField 0 key]⟩ ∧
      key.TellsKey ∧ key.unique = false ∧
      run.1 = .ok { processed := [⟨"blog.author", 1, 1⟩] } ∧
      twin.1 = .ok { processed := [⟨"blog.author", 1, 0⟩] } ∧
      run.2.store.records.length = 1 ∧ twin.2.store.records = [] := by
  intro author key settings run twin
  refine ⟨by decide, by decide, ⟨rfl, rfl, nofun⟩, rfl, ?_, ?_, ?_, ?_⟩
  · decide +kernel
  · decide +kernel
  · decide +kernel
  · decide +kernel

end MemoryStore

end SampleData
