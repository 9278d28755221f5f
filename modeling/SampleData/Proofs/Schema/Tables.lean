import SampleData.Proofs.Order.Search
import SampleData.Schema.Discovery

/-!
# What is said of a table

The model of a table is put together from what statements say of that table alone: its app, its
fields, each name with its last definition, and the columns that hold no value twice.  So two
neighbouring statements may change places when they are about different tables, and also when
they are of different sorts.
-/

namespace SampleData

theorem Model.addFields_eq (model : Model) (fields : List Field) :
    model.addFields fields =
      { model with
        fields := model.fields ++ fields.filter fun field => field.kind != .manyToMany,
        manyToMany := model.manyToMany ++ fields.filter fun field => field.kind == .manyToMany } := by
  induction fields generalizing model with
  | nil => simp [addFields]
  | cons field fields ih =>
      have hstep : model.addFields (field :: fields) = (model.addField field).addFields fields := rfl
      rw [hstep, ih, addField]
      by_cases hkind : field.kind = .manyToMany <;> simp [hkind]

namespace Schema

/-! ## Statements with their apps -/

/-- The statements of sources in their order, each with the app of its source. -/
def statedIn (sources : List Source) : List (String × List Char) :=
  sources.flatMap fun source =>
    (statements (withoutComments source.text.toList)).map fun statement => (source.app, statement)

def defined? (stated : String × List Char) : Option Definition :=
  Definition.ofStatement? stated.1 stated.2

def definitionsOf (sources : List Source) : List Definition :=
  (statedIn sources).filterMap defined?

theorem flatMap_definitions (sources : List Source) :
    sources.flatMap Source.definitions = definitionsOf sources := by
  rw [definitionsOf, statedIn, List.filterMap_flatMap]
  refine List.flatMap_congr fun source _ => ?_
  rw [List.filterMap_map]
  rfl

theorem exists_of_ofStatement?_eq_table {app table given : String} {statement : List Char}
    (h : Definition.ofStatement? app statement = some (.table table given)) :
    given = app ∧ ∃ tokens, tableOf? tokens = some table := by
  rw [Definition.ofStatement?] at h
  split at h <;> try cases h
  dsimp only at h
  split_ifs at h
  · obtain ⟨name, hname, hmade⟩ := Option.map_eq_some_iff.1 h
    cases hmade
    exact ⟨rfl, _, hname⟩
  · obtain ⟨_, -, hfield⟩ := Option.map_eq_some_iff.1 h
    cases hfield
  · obtain ⟨_, -, hcolumn⟩ := Option.map_eq_some_iff.1 h
    cases hcolumn

def Defines (sources : List Source) (table : String) : Prop :=
  ∃ app statement, (app, statement) ∈ statedIn sources ∧
    Definition.ofStatement? app statement = some (.table table app)

theorem mem_definitionsOf_iff {sources : List Source} {definition : Definition} :
    definition ∈ definitionsOf sources ↔
      ∃ app statement, (app, statement) ∈ statedIn sources ∧
        Definition.ofStatement? app statement = some definition := by
  rw [definitionsOf, List.mem_filterMap, Prod.exists]
  rfl

theorem exists_table_mem_definitionsOf_iff {sources : List Source} {table : String} :
    (∃ app, .table table app ∈ definitionsOf sources) ↔ Defines sources table := by
  simp only [mem_definitionsOf_iff]
  constructor
  · rintro ⟨given, app, statement, hmem, h⟩
    obtain ⟨rfl, -⟩ := exists_of_ofStatement?_eq_table h
    exact ⟨given, statement, hmem, h⟩
  · rintro ⟨app, statement, hmem, h⟩
    exact ⟨app, app, statement, hmem, h⟩

theorem models_eq (sources : List Source) : models sources = modelsOf (definitionsOf sources) := by
  rw [models, flatMap_definitions]

/-! ## What is said of a table -/

def appSaid? (table : String) : Definition → Option String
  | .table name app => if name = table then some app else none
  | _ => none

def fieldSaid? (table : String) : Definition → Option Field
  | .field name field => if name = table then some field else none
  | _ => none

def columnSaid? (table : String) : Definition → Option String
  | .uniqueColumn name column => if name = table then some column else none
  | _ => none

theorem appOf?_eq (definitions : List Definition) (table : String) :
    appOf? definitions table = (definitions.filterMap (appSaid? table)).getLast? := by
  rw [← List.head?_reverse, ← List.filterMap_reverse, List.head?_filterMap]
  rfl

theorem fieldsOf_eq (definitions : List Definition) (table : String) :
    fieldsOf definitions table = (definitions.filterMap (fieldSaid? table)).foldl redefine [] :=
  rfl

theorem uniqueColumnsOf_eq (definitions : List Definition) (table : String) :
    uniqueColumnsOf definitions table = definitions.filterMap (columnSaid? table) :=
  rfl

theorem appSaid?_eq_some_iff {table app : String} {definition : Definition} :
    appSaid? table definition = some app ↔ definition = .table table app := by
  cases definition <;> simp [appSaid?]

theorem fieldSaid?_eq_some_iff {table : String} {field : Field} {definition : Definition} :
    fieldSaid? table definition = some field ↔ definition = .field table field := by
  cases definition <;> simp [fieldSaid?]

theorem columnSaid?_eq_some_iff {table column : String} {definition : Definition} :
    columnSaid? table definition = some column ↔ definition = .uniqueColumn table column := by
  cases definition <;> simp [columnSaid?]

/-- Nothing is said of a table that a definition is not about. -/
theorem said_of_about_ne {table : String} {definition : Definition} (h : definition.about ≠ table) :
    appSaid? table definition = none ∧ fieldSaid? table definition = none ∧
      columnSaid? table definition = none := by
  cases definition with
  | table name app => exact ⟨if_neg h, rfl, rfl⟩
  | field name field => exact ⟨rfl, if_neg h, rfl⟩
  | uniqueColumn name column => exact ⟨rfl, rfl, if_neg h⟩

theorem mem_fieldsSaid_iff {definitions : List Definition} {table : String} {field : Field} :
    field ∈ definitions.filterMap (fieldSaid? table) ↔ .field table field ∈ definitions := by
  simp [List.mem_filterMap, fieldSaid?_eq_some_iff]

theorem mem_columnsSaid_iff {definitions : List Definition} {table column : String} :
    column ∈ definitions.filterMap (columnSaid? table) ↔ .uniqueColumn table column ∈ definitions := by
  simp [List.mem_filterMap, columnSaid?_eq_some_iff]

/-! ## Fields -/

/-- The last field of each name, where it stands. -/
def lastOfNames : List Field → List Field
  | [] => []
  | field :: later =>
      if later.any fun other => other.name == field.name then lastOfNames later
      else field :: lastOfNames later

/-- Of the fields before, those remain whose names do not come again. -/
theorem foldl_redefine_eq (earlier fields : List Field) :
    fields.foldl redefine earlier =
      (earlier.filter fun field => !fields.any fun later => later.name == field.name) ++
        lastOfNames fields := by
  induction fields generalizing earlier with
  | nil => simp [lastOfNames]
  | cons field fields ih =>
      have hearlier : (redefine earlier field).filter
          (fun other => !fields.any fun later => later.name == other.name) =
            (earlier.filter fun other => !(field :: fields).any fun later => later.name == other.name) ++
              [field].filter fun other => !fields.any fun later => later.name == other.name := by
        rw [redefine, List.filter_append, List.filter_filter]
        congr 1
        refine List.filter_congr fun other _ => ?_
        rw [List.any_cons, Bool.not_or, Bool.and_comm, bne, Bool.beq_comm]
      -- the field itself is now the last of those before, and remains unless its name comes again
      rw [List.foldl_cons, ih, hearlier, List.append_assoc, lastOfNames]
      by_cases hagain : (fields.any fun later => later.name == field.name) = true
      · simp [hagain]
      · simp [hagain]

theorem fieldsOf_eq_lastOfNames (definitions : List Definition) (table : String) :
    fieldsOf definitions table = lastOfNames (definitions.filterMap (fieldSaid? table)) := by
  rw [fieldsOf_eq, foldl_redefine_eq, List.filter_nil, List.nil_append]

theorem mem_lastOfNames_iff {fields : List Field} {field : Field} :
    field ∈ lastOfNames fields ↔
      ∃ front back, fields = front ++ field :: back ∧ ∀ later ∈ back, later.name ≠ field.name := by
  induction fields with
  | nil => simp [lastOfNames]
  | cons first fields ih =>
      have hagain : (fields.any fun other => other.name == first.name) = true ↔
          ∃ later ∈ fields, later.name = first.name := by simp
      have hfront : field ∈ lastOfNames fields →
          ∃ front back, first :: fields = front ++ field :: back ∧
            ∀ later ∈ back, later.name ≠ field.name := by
        intro hmem
        obtain ⟨front, back, rfl, hlast⟩ := ih.1 hmem
        exact ⟨first :: front, back, rfl, hlast⟩
      rw [lastOfNames]
      constructor
      · split
        · exact hfront
        · rename_i hnone
          intro hmem
          rcases List.mem_cons.1 hmem with rfl | hmem
          · exact ⟨[], fields, rfl, fun later hlater heq => hnone (hagain.2 ⟨later, hlater, heq⟩)⟩
          · exact hfront hmem
      · rintro ⟨front, back, hsplit, hlast⟩
        cases front with
        | nil =>
            obtain ⟨rfl, rfl⟩ := List.cons_eq_cons.1 hsplit
            have hnone : (fields.any fun other => other.name == first.name) ≠ true := fun htrue => by
              obtain ⟨later, hlater, heq⟩ := hagain.1 htrue
              exact hlast later hlater heq
            rw [if_neg hnone]
            exact List.mem_cons_self
        | cons other front =>
            obtain ⟨rfl, rfl⟩ := List.cons_eq_cons.1 hsplit
            have hmem : field ∈ lastOfNames (front ++ field :: back) := ih.2 ⟨front, back, rfl, hlast⟩
            split
            · exact hmem
            · exact List.mem_cons_of_mem _ hmem

theorem nodup_names_lastOfNames (fields : List Field) : ((lastOfNames fields).map Field.name).Nodup := by
  induction fields with
  | nil => exact List.nodup_nil
  | cons first fields ih =>
      rw [lastOfNames]
      split
      · exact ih
      · rename_i hnone
        rw [List.map_cons, List.nodup_cons]
        refine ⟨fun hmem => hnone ?_, ih⟩
        obtain ⟨later, hlater, hname⟩ := List.mem_map.1 hmem
        obtain ⟨front, back, rfl, -⟩ := mem_lastOfNames_iff.1 hlater
        exact List.any_eq_true.2 ⟨later, by simp, beq_iff_eq.2 hname⟩

theorem lastOfNames_eq_self {fields : List Field} (h : (fields.map Field.name).Nodup) :
    lastOfNames fields = fields := by
  induction fields with
  | nil => rfl
  | cons first fields ih =>
      rw [List.map_cons, List.nodup_cons] at h
      have hnone : (fields.any fun other => other.name == first.name) ≠ true := by
        intro hagain
        obtain ⟨other, hother, heq⟩ := List.any_eq_true.1 hagain
        apply h.1
        rw [← beq_iff_eq.1 heq]
        exact List.mem_map_of_mem hother
      rw [lastOfNames, if_neg hnone, ih h.2]

/-! ## Models -/

/-- A field with the mark that it is unique when its name is one of the columns. -/
def marked (unique : List String) (field : Field) : Field :=
  { field with unique := decide (field.name ∈ unique) }

theorem unique_iff_of_mem_map_marked {unique : List String} {fields : List Field} {field : Field}
    (h : field ∈ fields.map (marked unique)) : field.unique = true ↔ field.name ∈ unique := by
  obtain ⟨field, -, rfl⟩ := List.mem_map.1 h
  exact decide_eq_true_iff

/-- The model that a table has by its app, its fields and its unique columns. -/
def modelSaid (table app : String) (fields : List Field) (unique : List String) : Model :=
  { app, name := table, table,
    fields := (fields.map (marked unique)).filter fun field => field.kind != .manyToMany,
    manyToMany := (fields.map (marked unique)).filter fun field => field.kind == .manyToMany }

/-- The order of the columns does not matter, nor how often each is named. -/
theorem modelSaid_congr {unique others : List String} (h : ∀ column, column ∈ unique ↔ column ∈ others)
    (table app : String) (fields : List Field) :
    modelSaid table app fields unique = modelSaid table app fields others := by
  have hmarked : marked unique = marked others := by
    funext field
    rw [marked, marked]
    simp only [h]
  rw [modelSaid, modelSaid, hmarked]

theorem allFields_modelSaid_perm (table app : String) (fields : List Field) (unique : List String) :
    (modelSaid table app fields unique).allFields.Perm (fields.map (marked unique)) := by
  have hkinds : (fun field : Field => field.kind == .manyToMany) =
      fun field => !(field.kind != .manyToMany) := by
    funext field
    rw [bne, Bool.not_not]
  rw [Model.allFields, modelSaid, hkinds]
  exact List.filter_append_perm _ _

theorem mem_allFields_modelSaid_iff {table app : String} {fields : List Field} {unique : List String}
    {field : Field} :
    field ∈ (modelSaid table app fields unique).allFields ↔ field ∈ fields.map (marked unique) :=
  (allFields_modelSaid_perm table app fields unique).mem_iff

theorem modelOf?_eq (definitions : List Definition) (table : String) :
    modelOf? definitions table =
      (definitions.filterMap (appSaid? table)).getLast?.map fun app =>
        modelSaid table app (lastOfNames (definitions.filterMap (fieldSaid? table)))
          (definitions.filterMap (columnSaid? table)) := by
  have hmarked : ∀ unique : List String,
      (fun field : Field => { field with unique := unique.contains field.name }) = marked unique := by
    intro unique
    funext field
    rw [marked, List.contains_eq_mem]
  rw [modelOf?, appOf?_eq]
  simp only [Model.addFields_eq, fieldsOf_eq_lastOfNames, uniqueColumnsOf_eq, hmarked]
  rfl

theorem table_of_modelOf?_eq_some {definitions : List Definition} {table : String} {model : Model}
    (h : modelOf? definitions table = some model) : model.table = table := by
  rw [modelOf?_eq, Option.map_eq_some_iff] at h
  obtain ⟨app, -, rfl⟩ := h
  rfl

theorem exists_modelOf?_iff {definitions : List Definition} {table : String} :
    (∃ model, modelOf? definitions table = some model) ↔ ∃ app, .table table app ∈ definitions := by
  rw [modelOf?_eq]
  constructor
  · rintro ⟨model, hmodel⟩
    obtain ⟨app, happ, -⟩ := Option.map_eq_some_iff.1 hmodel
    obtain ⟨definition, hmem, h⟩ := List.mem_filterMap.1 (List.mem_of_getLast? happ)
    exact ⟨app, appSaid?_eq_some_iff.1 h ▸ hmem⟩
  · rintro ⟨app, hmem⟩
    have hne : definitions.filterMap (appSaid? table) ≠ [] :=
      List.ne_nil_of_mem (List.mem_filterMap.2 ⟨_, hmem, if_pos rfl⟩)
    rw [List.getLast?_eq_some_getLast hne]
    exact ⟨_, rfl⟩

/-- The models of definitions are those of the tables that they define, each once. -/
theorem mem_modelsOf_iff {definitions : List Definition} {model : Model} :
    model ∈ modelsOf definitions ↔ modelOf? definitions model.table = some model := by
  rw [modelsOf, List.mem_filterMap]
  constructor
  · rintro ⟨table, -, h⟩
    rwa [table_of_modelOf?_eq_some h]
  · intro h
    obtain ⟨app, hmem⟩ := exists_modelOf?_iff.1 ⟨model, h⟩
    exact ⟨model.table, List.mem_eraseDups.2 (List.mem_map_of_mem hmem), h⟩

theorem nodup_tables_modelsOf (definitions : List Definition) :
    ((modelsOf definitions).map Model.table).Nodup := by
  rw [modelsOf, List.map_filterMap]
  refine (nodup_eraseDups _).filterMap fun first second table hfirst hsecond => ?_
  obtain ⟨model, hmodel, rfl⟩ := Option.map_eq_some_iff.1 hfirst
  obtain ⟨other, hother, htable⟩ := Option.map_eq_some_iff.1 hsecond
  rw [← table_of_modelOf?_eq_some hmodel, ← table_of_modelOf?_eq_some hother, htable]

/-- A model of a schema is what the schema says of its table. -/
theorem eq_modelSaid_of_mem_models {sources : List Source} {model : Model} (h : model ∈ models sources) :
    ((definitionsOf sources).filterMap (appSaid? model.table)).getLast? = some model.app ∧
      model = modelSaid model.table model.app
        (lastOfNames ((definitionsOf sources).filterMap (fieldSaid? model.table)))
        ((definitionsOf sources).filterMap (columnSaid? model.table)) := by
  rw [models_eq, mem_modelsOf_iff, modelOf?_eq, Option.map_eq_some_iff] at h
  obtain ⟨app, happ, hsaid⟩ := h
  obtain rfl : app = model.app := by rw [← hsaid]; rfl
  exact ⟨happ, hsaid.symm⟩

theorem exists_mem_models_iff {sources : List Source} {table : String} :
    (∃ model ∈ models sources, model.table = table) ↔ Defines sources table := by
  rw [← exists_table_mem_definitionsOf_iff, ← exists_modelOf?_iff, models_eq]
  constructor
  · rintro ⟨model, hmem, rfl⟩
    exact ⟨model, mem_modelsOf_iff.1 hmem⟩
  · rintro ⟨model, h⟩
    have htable := table_of_modelOf?_eq_some h
    exact ⟨model, mem_modelsOf_iff.2 (by rwa [htable]), htable⟩

theorem nodup_tables_models (sources : List Source) : ((models sources).map Model.table).Nodup := by
  rw [models_eq]
  exact nodup_tables_modelsOf _

/-- Of the statements that define a field of one name in a table, the last one's field remains. -/
theorem mem_lastOfNames_of_stated {sources : List Source} {front back : List (String × List Char)}
    {app table : String} {statement : List Char} {made : Field}
    (hstated : statedIn sources = front ++ (app, statement) :: back)
    (hmade : Definition.ofStatement? app statement = some (.field table made))
    (hlast : ∀ later ∈ back, ∀ field, defined? later = some (.field table field) → field.name ≠ made.name) :
    made ∈ lastOfNames ((definitionsOf sources).filterMap (fieldSaid? table)) := by
  have hdefined : defined? (app, statement) = some (.field table made) := hmade
  have hsaid : fieldSaid? table (.field table made) = some made := if_pos rfl
  refine mem_lastOfNames_iff.2 ⟨(front.filterMap defined?).filterMap (fieldSaid? table),
    (back.filterMap defined?).filterMap (fieldSaid? table), ?_, fun later hlater => ?_⟩
  · rw [definitionsOf, hstated, List.filterMap_append, List.filterMap_cons_some hdefined,
      List.filterMap_append, List.filterMap_cons_some hsaid]
  · obtain ⟨stated, hmem, hread⟩ := List.mem_filterMap.1 (mem_fieldsSaid_iff.1 hlater)
    exact hlast stated hmem later hread

theorem exists_marked_of_stated {sources : List Source} {front back : List (String × List Char)}
    {app : String} {statement : List Char} {model : Model} {made : Field}
    (hstated : statedIn sources = front ++ (app, statement) :: back) (hmodel : model ∈ models sources)
    (hmade : Definition.ofStatement? app statement = some (.field model.table made))
    (hlast : ∀ later ∈ back, ∀ field, defined? later = some (.field model.table field) →
      field.name ≠ made.name) :
    ∃ columns, marked columns made ∈ model.allFields ∧
      ∀ other ∈ model.allFields, other.name = made.name → other = marked columns made := by
  have hsaid := (eq_modelSaid_of_mem_models hmodel).2
  have hremains := mem_lastOfNames_of_stated hstated hmade hlast
  have hdistinct := nodup_names_lastOfNames ((definitionsOf sources).filterMap (fieldSaid? model.table))
  generalize (definitionsOf sources).filterMap (columnSaid? model.table) = columns at hsaid
  generalize lastOfNames ((definitionsOf sources).filterMap (fieldSaid? model.table)) = fields
    at hsaid hremains hdistinct
  refine ⟨columns, ?_, fun other hother heq => ?_⟩
  · rw [hsaid, mem_allFields_modelSaid_iff]
    exact List.mem_map_of_mem hremains
  · rw [hsaid, mem_allFields_modelSaid_iff] at hother
    obtain ⟨said, hmem, rfl⟩ := List.mem_map.1 hother
    rw [List.inj_on_of_nodup_map hdistinct hmem hremains heq]

theorem exists_stated_of_mem_allFields {sources : List Source} {model : Model} (hmodel : model ∈ models sources)
    {field : Field} (hfield : field ∈ model.allFields) :
    ∃ app statement made columns, Definition.ofStatement? app statement = some (.field model.table made) ∧
      field = marked columns made := by
  rw [(eq_modelSaid_of_mem_models hmodel).2, mem_allFields_modelSaid_iff] at hfield
  obtain ⟨made, hsaid, rfl⟩ := List.mem_map.1 hfield
  obtain ⟨front, back, hsplit, -⟩ := mem_lastOfNames_iff.1 hsaid
  have hmem : made ∈ (definitionsOf sources).filterMap (fieldSaid? model.table) := by
    rw [hsplit]
    simp
  obtain ⟨app, statement, -, hmade⟩ := mem_definitionsOf_iff.1 (mem_fieldsSaid_iff.1 hmem)
  exact ⟨app, statement, made, _, hmade, rfl⟩

theorem nodup_names_of_mem_models {sources : List Source} {model : Model} (hmodel : model ∈ models sources) :
    (model.allFields.map Field.name).Nodup := by
  rw [(eq_modelSaid_of_mem_models hmodel).2,
    ((allFields_modelSaid_perm _ _ _ _).map Field.name).nodup_iff, List.map_map]
  exact nodup_names_lastOfNames _

theorem mem_fields_of_mem_models {sources : List Source} {model : Model} (hmodel : model ∈ models sources)
    {field : Field} (hfield : field ∈ model.allFields) (hkind : field.kind ≠ .manyToMany) :
    field ∈ model.fields := by
  rw [(eq_modelSaid_of_mem_models hmodel).2] at hfield ⊢
  refine (List.mem_append.1 hfield).resolve_right fun hmany => hkind ?_
  exact eq_of_beq (List.mem_filter.1 hmany).2

/-! ## Exchanging statements -/

inductive DefinitionSort where
  | table
  | field
  | uniqueColumn
  deriving DecidableEq, Repr, Inhabited

def Definition.sort : Definition → DefinitionSort
  | table .. => .table
  | field .. => .field
  | uniqueColumn .. => .uniqueColumn

/-- Two statements that do not define things of one sort for one table. -/
def Apart (one two : String × List Char) : Prop :=
  ∀ first ∈ defined? one, ∀ second ∈ defined? two,
    first.about ≠ second.about ∨ first.sort ≠ second.sort

instance (one two : String × List Char) : Decidable (Apart one two) :=
  inferInstanceAs (Decidable (∀ _ ∈ _, ∀ _ ∈ _, _))

theorem about_and_sort_of_said (table : String) (definition : Definition) :
    (appSaid? table definition ≠ none → definition.about = table ∧ definition.sort = .table) ∧
      (fieldSaid? table definition ≠ none → definition.about = table ∧ definition.sort = .field) ∧
        (columnSaid? table definition ≠ none →
          definition.about = table ∧ definition.sort = .uniqueColumn) := by
  cases definition <;> simp [appSaid?, fieldSaid?, columnSaid?, Definition.about, Definition.sort]

variable {β : Type} {one two : String × List Char}

theorem Apart.bind_eq_none (h : Apart one two) {sought : Definition → Option β} {table : String}
    {sort : DefinitionSort}
    (hsought : ∀ definition, sought definition ≠ none → definition.about = table ∧ definition.sort = sort) :
    (defined? one).bind sought = none ∨ (defined? two).bind sought = none := by
  by_contra hboth
  obtain ⟨hone, htwo⟩ := not_or.1 hboth
  obtain ⟨found, hfound⟩ := Option.ne_none_iff_exists'.1 hone
  obtain ⟨other, hother⟩ := Option.ne_none_iff_exists'.1 htwo
  obtain ⟨first, hfirst, hfound⟩ := Option.bind_eq_some_iff.1 hfound
  obtain ⟨second, hsecond, hother⟩ := Option.bind_eq_some_iff.1 hother
  obtain ⟨habout, hsort⟩ := hsought first (by simp [hfound])
  obtain ⟨habout', hsort'⟩ := hsought second (by simp [hother])
  rcases h first hfirst second hsecond with hne | hne
  · exact hne (habout.trans habout'.symm)
  · exact hne (hsort.trans hsort'.symm)

theorem filterMap_exchange {α : Type} {sought : α → Option β} {first second : α}
    (h : sought first = none ∨ sought second = none) (front back : List α) :
    (front ++ first :: second :: back).filterMap sought =
      (front ++ second :: first :: back).filterMap sought := by
  rcases h with h | h <;> simp [List.filterMap_append, List.filterMap_cons, h]

theorem Apart.said_exchange (h : Apart one two) {sought : Definition → Option β} {table : String}
    {sort : DefinitionSort}
    (hsought : ∀ definition, sought definition ≠ none → definition.about = table ∧ definition.sort = sort)
    (front back : List (String × List Char)) :
    ((front ++ one :: two :: back).filterMap defined?).filterMap sought =
      ((front ++ two :: one :: back).filterMap defined?).filterMap sought := by
  rw [List.filterMap_filterMap, List.filterMap_filterMap]
  exact filterMap_exchange (h.bind_eq_none hsought) front back

/-- Every table keeps its model when two statements that are apart change places. -/
theorem Apart.modelOf?_exchange (h : Apart one two) (front back : List (String × List Char))
    (table : String) :
    modelOf? ((front ++ one :: two :: back).filterMap defined?) table =
      modelOf? ((front ++ two :: one :: back).filterMap defined?) table := by
  have happ := h.said_exchange (fun definition => (about_and_sort_of_said table definition).1)
    front back
  have hfield := h.said_exchange (fun definition => (about_and_sort_of_said table definition).2.1)
    front back
  have hcolumn := h.said_exchange (fun definition => (about_and_sort_of_said table definition).2.2)
    front back
  rw [modelOf?_eq, modelOf?_eq, happ, hfield, hcolumn]

theorem mentionedTables_perm {definitions others : List Definition} (h : definitions.Perm others) :
    (mentionedTables definitions).Perm (mentionedTables others) := by
  refine (List.perm_ext_iff_of_nodup (nodup_eraseDups _) (nodup_eraseDups _)).2 fun table => ?_
  rw [List.mem_eraseDups, List.mem_eraseDups, (h.map Definition.about).mem_iff]

/--
A schema has a model for each table that some statement defines and for no other.  The model is
that of the app which the last of these statements gives, of the last definition of each field,
and of the set of columns of the unique indexes, wherever any of them stands; a field is unique
when it is one of these columns.  So when two neighbouring statements change places that do not
define things of one sort for one table, the models are the same but for their order.
-/
theorem models_local (sources : List Source) :
    ((models sources).map Model.table).Nodup ∧
      (∀ table, (∃ model ∈ models sources, model.table = table) ↔ Defines sources table) ∧
      (∀ model ∈ models sources,
        ((definitionsOf sources).filterMap (appSaid? model.table)).getLast? = some model.app ∧
          (∀ columns : List String,
            (∀ column, column ∈ columns ↔ .uniqueColumn model.table column ∈ definitionsOf sources) →
              model = modelSaid model.table model.app
                (lastOfNames ((definitionsOf sources).filterMap (fieldSaid? model.table))) columns) ∧
          ∀ field ∈ model.allFields,
            (field.unique = true ↔ .uniqueColumn model.table field.name ∈ definitionsOf sources)) ∧
      ∀ (others : List Source) (front back : List (String × List Char)) (one two : String × List Char),
        Apart one two → statedIn sources = front ++ one :: two :: back →
          statedIn others = front ++ two :: one :: back → (models others).Perm (models sources) := by
  refine ⟨nodup_tables_models sources, fun table => exists_mem_models_iff, fun model hmem => ?_,
    fun others front back one two hapart hone htwo => ?_⟩
  · obtain ⟨happ, hsaid⟩ := eq_modelSaid_of_mem_models hmem
    refine ⟨happ, fun columns hcolumns => ?_, fun field hfield => ?_⟩
    · have hsame : ∀ column, column ∈ (definitionsOf sources).filterMap (columnSaid? model.table) ↔
          column ∈ columns := fun column => mem_columnsSaid_iff.trans (hcolumns column).symm
      rw [← modelSaid_congr hsame]
      exact hsaid
    · rw [← mem_columnsSaid_iff]
      rw [hsaid] at hfield
      exact unique_iff_of_mem_map_marked (mem_allFields_modelSaid_iff.1 hfield)
  · have hperm : ((front ++ one :: two :: back).filterMap defined?).Perm
        ((front ++ two :: one :: back).filterMap defined?) :=
      ((List.Perm.swap two one back).append_left front).filterMap defined?
    have hmodels := funext (hapart.modelOf?_exchange front back)
    rw [models_eq, models_eq, definitionsOf, definitionsOf, hone, htwo, modelsOf, modelsOf, hmodels]
    exact ((mentionedTables_perm hperm).filterMap _).symm

/--
An index that stands before the field it is about, which is before its table's own definition.
-/
theorem models_local_backwards :
    Apart ("blog", "DEFINE INDEX one ON post FIELDS title UNIQUE".toList)
        ("blog", "DEFINE FIELD title ON post TYPE string".toList) ∧
      (models [⟨"blog", "DEFINE FIELD title ON post TYPE string;\nDEFINE INDEX one ON post FIELDS title UNIQUE;\nDEFINE TABLE post;"⟩]).Perm
        (models [⟨"blog", "DEFINE INDEX one ON post FIELDS title UNIQUE;\nDEFINE FIELD title ON post TYPE string;\nDEFINE TABLE post;"⟩]) := by
  have hapart : Apart ("blog", "DEFINE INDEX one ON post FIELDS title UNIQUE".toList)
      ("blog", "DEFINE FIELD title ON post TYPE string".toList) := by decide +kernel
  refine ⟨hapart, (models_local _).2.2.2 _ [] [("blog", "DEFINE TABLE post".toList)] _ _ hapart ?_ ?_⟩
  · decide +kernel
  · decide +kernel

end Schema

end SampleData
