import Mathlib.Data.List.Nodup
import SampleData.Proofs.Schema.Comments
import SampleData.Proofs.Schema.Cutting
import SampleData.Proofs.Schema.Tables

/-!
# Recovering declared schemas

A schema that is written down is found again.  Each of its statements defines what it was written
for, and the models that are put together from the definitions are those that are meant, in
their order.
-/

namespace SampleData

namespace Schema

open Text

/-! ## Definitions of declared tables -/

/-- What a field is defined as: the index that makes it unique is defined apart. -/
def FieldDeclaration.definition (table : String) (declared : FieldDeclaration) : Definition :=
  .field table { declared.field with unique := false }

def TableDeclaration.uniqueNames (declared : TableDeclaration) : List String :=
  (declared.fields.filter fun field => field.index.isSome).map FieldDeclaration.name

def TableDeclaration.definitions (app : String) (declared : TableDeclaration) : List Definition :=
  .table declared.name app :: (declared.fields.map (FieldDeclaration.definition declared.name) ++
    declared.uniqueNames.map (.uniqueColumn declared.name))

theorem TableDeclaration.filterMap_statements (app : String) {declared : TableDeclaration}
    (h : declared.WellFormed)
    (hwords : ∀ statement ∈ declared.statements, words (spaced statement) = statement) :
    (declared.statements.filterMap fun statement => Definition.ofStatement? app (spaced statement)) =
      declared.definitions app := by
  unfold TableDeclaration.statements at hwords ⊢
  obtain ⟨htable, hothers⟩ := List.forall_mem_cons.1 hwords
  obtain ⟨hfields, hindexes⟩ := List.forall_mem_append.1 hothers
  have hfields' : ((declared.fields.map (FieldDeclaration.statement declared.name)).filterMap fun statement =>
      Definition.ofStatement? app (spaced statement)) =
        declared.fields.map (FieldDeclaration.definition declared.name) := by
    rw [List.filterMap_map, ← List.filterMap_eq_map]
    refine List.filterMap_congr fun field hfield => ?_
    exact ofStatement?_fieldStatement app (h.fields field hfield) h.name
      (hfields _ (List.mem_map_of_mem hfield))
  have hindexes' : ((declared.fields.filterMap fun field =>
      field.index.map (field.indexStatement declared.name)).filterMap fun statement =>
        Definition.ofStatement? app (spaced statement)) =
          declared.uniqueNames.map (.uniqueColumn declared.name) := by
    rw [List.filterMap_filterMap, TableDeclaration.uniqueNames, List.map_map, ← List.filterMap_eq_map,
      List.filterMap_filter]
    refine List.filterMap_congr fun field hfield => ?_
    cases hindex : field.index with
    | none => rfl
    | some index =>
        have hmem : field.indexStatement declared.name index ∈ declared.fields.filterMap fun field =>
            field.index.map (field.indexStatement declared.name) :=
          List.mem_filterMap.2 ⟨field, hfield, by rw [hindex]; rfl⟩
        exact ofStatement?_indexStatement app (h.fields field hfield) h.name
          ((h.fields field hfield).index index hindex) (hindexes _ hmem)
  rw [List.filterMap_cons, ofStatement?_tableStatement app h.name h.visible htable,
    List.filterMap_append, hfields', hindexes', TableDeclaration.definitions]

theorem AppDeclaration.definitions_of_writtenAs {declared : AppDeclaration} {source : Source}
    (hsource : declared.WrittenAs source) (htables : ∀ table ∈ declared.tables, table.WellFormed) :
    source.definitions = declared.tables.flatMap (TableDeclaration.definitions declared.app) := by
  obtain ⟨happ, hspells⟩ := hsource
  have htame : ∀ statement ∈ declared.statements, ∀ token ∈ statement, IsTame token := by
    intro statement hstatement
    obtain ⟨table, htable, hmem⟩ := List.mem_flatMap.1 hstatement
    exact TableDeclaration.isTame_of_mem_statements (htables table htable) statement hmem
  obtain ⟨hwords, hdefinitions⟩ := definitionsIn_of_spells source.app hspells htame
  rw [Source.definitions_eq, hdefinitions, AppDeclaration.statements, List.filterMap_flatMap, happ]
  refine List.flatMap_congr fun table htable => ?_
  exact TableDeclaration.filterMap_statements declared.app (htables table htable)
    fun statement hmem => hwords statement (List.mem_flatMap.2 ⟨table, htable, hmem⟩)

/-! ## Definitions about one table -/

structure Place where
  app : String
  table : TableDeclaration

namespace Place

def name (place : Place) : String :=
  place.table.name

def definitions (place : Place) : List Definition :=
  place.table.definitions place.app

theorem about_of_mem_definitions {place : Place} {definition : Definition}
    (h : definition ∈ place.definitions) : definition.about = place.name := by
  rcases List.mem_cons.1 h with rfl | h
  · rfl
  · rcases List.mem_append.1 h with h | h
    · obtain ⟨field, -, rfl⟩ := List.mem_map.1 h
      rfl
    · obtain ⟨field, -, rfl⟩ := List.mem_map.1 h
      rfl

end Place

/-- What is looked for in the definitions about one table is found in those of its own place. -/
theorem filterMap_flatMap_definitions {β : Type} {places : List Place}
    (hdistinct : (places.map Place.name).Nodup) {place : Place} (hplace : place ∈ places)
    {sought : Definition → Option β}
    (hsought : ∀ definition, definition.about ≠ place.name → sought definition = none) :
    (places.flatMap Place.definitions).filterMap sought = place.definitions.filterMap sought := by
  have hother : ∀ others : List Place, place.name ∉ others.map Place.name →
      (others.flatMap Place.definitions).filterMap sought = [] := by
    intro others hothers
    refine List.filterMap_eq_nil_iff.2 fun definition hmem => ?_
    obtain ⟨other, hother, hdefinition⟩ := List.mem_flatMap.1 hmem
    refine hsought definition fun habout => hothers ?_
    rw [← habout, Place.about_of_mem_definitions hdefinition]
    exact List.mem_map_of_mem hother
  obtain ⟨front, back, rfl⟩ := List.append_of_mem hplace
  rw [List.map_append, List.map_cons, List.nodup_middle, List.nodup_cons, List.mem_append] at hdistinct
  obtain ⟨hfront, hback⟩ := not_or.1 hdistinct.1
  rw [List.flatMap_append, List.flatMap_cons, List.filterMap_append, List.filterMap_append,
    hother front hfront, hother back hback, List.nil_append, List.append_nil]

theorem eraseDups_repeated {name : String} {repeated others : List String}
    (hrepeated : ∀ other ∈ repeated, other = name) (hothers : name ∉ others) :
    (name :: (repeated ++ others)).eraseDups = name :: others.eraseDups := by
  have hown : (repeated.filter fun other => !(other == name)) = [] :=
    List.filter_eq_nil_iff.2 fun other hother => by simp [hrepeated other hother]
  have hkept : (others.filter fun other => !(other == name)) = others := by
    refine List.filter_eq_self.2 fun other hother => ?_
    rw [Bool.not_eq_true', beq_eq_false_iff_ne]
    exact fun heq => hothers (heq ▸ hother)
  rw [List.eraseDups_cons, List.filter_append, hown, hkept, List.nil_append]

theorem mentionedTables_definitions {places : List Place} (hdistinct : (places.map Place.name).Nodup) :
    mentionedTables (places.flatMap Place.definitions) = places.map Place.name := by
  unfold mentionedTables
  induction places with
  | nil => rfl
  | cons place places ih =>
      obtain ⟨hnew, hdistinct⟩ := List.nodup_cons.1 hdistinct
      have hown : ∀ name ∈ place.definitions.tail.map Definition.about, name = place.name :=
        List.forall_mem_map.2 fun definition hmem =>
          Place.about_of_mem_definitions (List.mem_of_mem_tail hmem)
      have hothers : place.name ∉ (places.flatMap Place.definitions).map Definition.about := by
        intro hmem
        obtain ⟨definition, hdefinition, habout⟩ := List.mem_map.1 hmem
        obtain ⟨other, hother, hdefinition⟩ := List.mem_flatMap.1 hdefinition
        rw [← habout, Place.about_of_mem_definitions hdefinition] at hnew
        exact hnew (List.mem_map_of_mem hother)
      -- a place defines its table first, so its name stands before all its repetitions
      have hcons : ((place :: places).flatMap Place.definitions).map Definition.about =
          place.name :: (place.definitions.tail.map Definition.about ++
            (places.flatMap Place.definitions).map Definition.about) := by
        rw [List.flatMap_cons, List.map_append]
        rfl
      rw [hcons, eraseDups_repeated hown hothers, ih hdistinct, List.map_cons]

/-! ## What is said of declared tables -/

namespace Place

theorem filterMap_definitions {β : Type} (place : Place) (sought : Definition → Option β) :
    place.definitions.filterMap sought =
      (sought (.table place.name place.app)).toList ++
        ((place.table.fields.filterMap fun field => sought (field.definition place.name)) ++
          place.table.uniqueNames.filterMap fun column => sought (.uniqueColumn place.name column)) := by
  rw [definitions, TableDeclaration.definitions, List.filterMap_cons, List.filterMap_append,
    List.filterMap_map, List.filterMap_map]
  unfold name
  cases sought (.table place.table.name place.app) <;> rfl

theorem filterMap_appSaid (place : Place) :
    place.definitions.filterMap (appSaid? place.name) = [place.app] := by
  simp [filterMap_definitions, appSaid?, FieldDeclaration.definition]

theorem filterMap_fieldSaid (place : Place) :
    place.definitions.filterMap (fieldSaid? place.name) =
      place.table.fields.map fun field => { field.field with unique := false } := by
  simp [filterMap_definitions, fieldSaid?, FieldDeclaration.definition]

theorem filterMap_columnSaid (place : Place) :
    place.definitions.filterMap (columnSaid? place.name) = place.table.uniqueNames := by
  simp [filterMap_definitions, columnSaid?, FieldDeclaration.definition]

end Place

/-! ## Models of declared tables -/

/-- As no two fields have one name, the unique names tell which fields have an index. -/
theorem mem_uniqueNames_iff {declared : TableDeclaration}
    (hdistinct : (declared.fields.map FieldDeclaration.name).Nodup) {field : FieldDeclaration}
    (hfield : field ∈ declared.fields) :
    field.name ∈ declared.uniqueNames ↔ field.index.isSome = true := by
  rw [TableDeclaration.uniqueNames, List.mem_map]
  constructor
  · rintro ⟨other, hother, hname⟩
    obtain ⟨hmem, hindex⟩ := List.mem_filter.1 hother
    rwa [List.inj_on_of_nodup_map hdistinct hmem hfield hname] at hindex
  · exact fun hindex => ⟨field, List.mem_filter.2 ⟨hfield, hindex⟩, rfl⟩

/--
The fields that are defined, marked as unique where an index is, are the fields that are meant.
-/
theorem map_unique_fields {declared : TableDeclaration}
    (hdistinct : (declared.fields.map FieldDeclaration.name).Nodup) :
    (declared.fields.map fun field => { field.field with unique := false }).map
      (marked declared.uniqueNames) = declared.fields.map FieldDeclaration.field := by
  rw [List.map_map]
  refine List.map_congr_left fun field hfield => ?_
  have hunique : decide (field.name ∈ declared.uniqueNames) = field.index.isSome := by
    rw [Bool.eq_iff_iff, decide_eq_true_iff, mem_uniqueNames_iff hdistinct hfield]
  have hmarked : ({ field.field with unique := decide (field.name ∈ declared.uniqueNames) } : Field) =
      field.field := by
    rw [hunique]
    rfl
  exact hmarked

/-- The model of a declared table is the one that is meant. -/
theorem modelOf?_declared {places : List Place} (hplaces : (places.map Place.name).Nodup)
    {place : Place} (hplace : place ∈ places)
    (hfields : (place.table.fields.map FieldDeclaration.name).Nodup) :
    modelOf? (places.flatMap Place.definitions) place.name = some (place.table.model place.app) := by
  have hnames : ((place.table.fields.map fun field =>
      { field.field with unique := false } : List Field).map Field.name).Nodup := by
    rw [List.map_map]
    exact hfields
  rw [modelOf?_eq, filterMap_flatMap_definitions hplaces hplace fun _ h => (said_of_about_ne h).1,
    filterMap_flatMap_definitions hplaces hplace fun _ h => (said_of_about_ne h).2.1,
    filterMap_flatMap_definitions hplaces hplace fun _ h => (said_of_about_ne h).2.2,
    place.filterMap_appSaid, place.filterMap_fieldSaid, place.filterMap_columnSaid,
    lastOfNames_eq_self hnames, List.getLast?_singleton, Option.map_some, modelSaid,
    map_unique_fields hfields]
  rfl

theorem modelsOf_declared {places : List Place} (hplaces : (places.map Place.name).Nodup)
    (hfields : ∀ place ∈ places, (place.table.fields.map FieldDeclaration.name).Nodup) :
    modelsOf (places.flatMap Place.definitions) = places.map fun place => place.table.model place.app := by
  rw [modelsOf, mentionedTables_definitions hplaces, List.filterMap_map, ← List.filterMap_eq_map]
  refine List.filterMap_congr fun place hplace => ?_
  exact modelOf?_declared hplaces hplace (hfields place hplace)

/-! ## Models of written schemas -/

def AppDeclaration.places (declared : AppDeclaration) : List Place :=
  declared.tables.map fun table => { app := declared.app, table }

theorem definitions_writtenAs {declared : List AppDeclaration} {sources : List Source}
    (htables : ∀ app ∈ declared, ∀ table ∈ app.tables, table.WellFormed)
    (hsources : List.Forall₂ AppDeclaration.WrittenAs declared sources) :
    sources.flatMap Source.definitions =
      (declared.flatMap AppDeclaration.places).flatMap Place.definitions := by
  induction hsources with
  | nil => rfl
  | @cons app source others sources hsource hsources ih =>
      obtain ⟨happ, hothers⟩ := List.forall_mem_cons.1 htables
      have hfirst : source.definitions = app.places.flatMap Place.definitions := by
        rw [AppDeclaration.definitions_of_writtenAs hsource happ, AppDeclaration.places, List.flatMap_map]
        rfl
      rw [List.flatMap_cons, List.flatMap_cons, List.flatMap_append, hfirst, ih hothers]

theorem map_name_places (declared : List AppDeclaration) :
    (declared.flatMap AppDeclaration.places).map Place.name =
      (declared.flatMap AppDeclaration.tables).map TableDeclaration.name := by
  rw [List.map_flatMap, List.map_flatMap]
  refine List.flatMap_congr fun app _ => ?_
  rw [AppDeclaration.places, List.map_map]
  rfl

/-- A schema that is written down, one source an app, is found to have the models that are meant. -/
theorem models_recovered {declared : List AppDeclaration} {sources : List Source}
    (hdeclared : WellDeclared declared)
    (hsources : List.Forall₂ AppDeclaration.WrittenAs declared sources) :
    models sources = declared.flatMap AppDeclaration.models := by
  have hplaces : ((declared.flatMap AppDeclaration.places).map Place.name).Nodup := by
    rw [map_name_places]
    exact hdeclared.distinct
  have hfields : ∀ place ∈ declared.flatMap AppDeclaration.places,
      (place.table.fields.map FieldDeclaration.name).Nodup := by
    intro place hplace
    obtain ⟨app, happ, hmem⟩ := List.mem_flatMap.1 hplace
    obtain ⟨table, htable, rfl⟩ := List.mem_map.1 hmem
    exact (hdeclared.tables app happ table htable).distinct
  rw [models, definitions_writtenAs hdeclared.tables hsources, modelsOf_declared hplaces hfields,
    List.map_flatMap]
  refine List.flatMap_congr fun app _ => ?_
  rw [AppDeclaration.places, List.map_map]
  rfl

/-- A schema of two apps, with options, links, a limit, an address, a default and an annotation. -/
def shopDeclarations : List AppDeclaration :=
  [{ app := "shop",
     tables := [
      { name := "customer",
        fields := [
          { name := "email", content := .text [.address .email, .limit ⟨true, 81⟩] .word,
            source := some .email, index := some "customer_email" },
          { name := "Points", content := .scalar .int, namesTable := true, default := some "-1" }] },
      { name := "purchase",
        fields := [
          { name := "buyer", content := .link "customer" },
          { name := "labels", content := .links true "label" (some 3), options := 2 }] }] },
   { app := "catalog", tables := [{ name := "label", fields := [] }] }]

def shopSources : List Source :=
  [Source.ofLines "shop" [
      "DEFINE TABLE customer\tSCHEMAFULL;".toList,
      "DEFINE FIELD email ON customer TYPE string".toList,
      "  ASSERT string::is::email($value)".toList,
      "    AND string::len($value) < 81".toList,
      "  COMMENT \"dummy:email\" ;".toList,
      "DEFINE FIELD Points ON TABLE customer".toList,
      "  TYPE int DEFAULT -1;".toList,
      "DEFINE INDEX customer_email ON customer".toList,
      "  FIELDS email UNIQUE; DEFINE TABLE".toList,
      "purchase SCHEMAFULL;".toList,
      "DEFINE FIELD buyer ON purchase".toList,
      "  TYPE record<customer>;".toList,
      "DEFINE FIELD labels ON purchase TYPE".toList,
      "  option<option<set<record<label>, 3>>>;".toList],
    Source.ofLines "catalog" ["DEFINE TABLE label SCHEMAFULL;".toList, []]]

theorem models_recovered_shop :
    WellDeclared shopDeclarations ∧
      List.Forall₂ AppDeclaration.WrittenAs shopDeclarations shopSources ∧
      models shopSources = shopDeclarations.flatMap AppDeclaration.models := by
  have hdeclared : WellDeclared shopDeclarations := by decide +kernel
  -- the pieces that a scan finds are those that were written
  have hwritten : ∀ {declared : AppDeclaration} {lines : List (List Char)},
      ((piecesFrom {} (joined ['\n'] lines)).dropLast.map words = declared.statements ∧
        joined ['\n'] lines = (piecesFrom {} (joined ['\n'] lines)).dropLast.flatMap (· ++ [';']) ++
          (piecesFrom {} (joined ['\n'] lines)).getLastD [] ∧
            ∀ c ∈ (piecesFrom {} (joined ['\n'] lines)).getLastD [], isBlank c = true) →
      declared.WrittenAs (Source.ofLines declared.app lines) := by
    rintro declared lines ⟨hpieces, htext, hending⟩
    refine ⟨rfl, _, _, ?_, hpieces, hending⟩
    rw [Source.ofLines, String.toList_ofList, ← htext]
  have hsources : List.Forall₂ AppDeclaration.WrittenAs shopDeclarations shopSources := by
    refine .cons (hwritten ?_) (.cons (hwritten ?_) .nil) <;> decide +kernel
  exact ⟨hdeclared, hsources, models_recovered hdeclared hsources⟩

end Schema

end SampleData
