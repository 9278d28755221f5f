import SampleData.Proofs.Schema.Links

/-!
# Schemas are always accepted

Whatever stands in schema files, the models that they describe make up a registry.  What a
statement says that a model cannot have, a hidden table, a part of another field or a second field
of one name, never gets into a model, and so no statement can stand against the others.
-/

namespace SampleData

structure Model.WellFormed (model : Model) : Prop where
  /-- The table is not hidden by an underscore. -/
  table : model.table.toList.head? ≠ some '_'
  names : (model.allFields.map Field.name).Nodup
  /-- No field is the key or a part of another field. -/
  whole : ∀ field ∈ model.allFields, field.name ≠ "id" ∧ '.' ∉ field.name.toList ∧
    '[' ∉ field.name.toList ∧ '*' ∉ field.name.toList
  single : ∀ field ∈ model.fields, field.kind ≠ .manyToMany
  many : ∀ field ∈ model.manyToMany, field.kind = .manyToMany
  targets : ∀ field ∈ model.allFields, field.kind.isLink = true → ∃ target, field.target = some target

namespace Registry

theorem resolvedField_kind (models : List Model) (field : Field) :
    (resolvedField models field).kind = field.kind := by
  rw [resolvedField]
  split <;> rfl

theorem wellFormed_resolvedModel {model : Model} (h : model.WellFormed) (models : List Model) :
    (resolvedModel models model).WellFormed where
  table := h.table
  names := by
    have hnames : Field.name ∘ resolvedField models = Field.name := funext (resolvedField_name models)
    rw [allFields_resolvedModel, List.map_map, hnames]
    exact h.names
  whole := by
    rw [allFields_resolvedModel, List.forall_mem_map]
    intro field hfield
    rw [resolvedField_name]
    exact h.whole field hfield
  single := List.forall_mem_map.2 fun field hfield => by
    rw [resolvedField_kind]
    exact h.single field hfield
  many := List.forall_mem_map.2 fun field hfield => by
    rw [resolvedField_kind]
    exact h.many field hfield
  targets := by
    rw [allFields_resolvedModel, List.forall_mem_map]
    intro field hfield hlink
    rw [resolvedField_kind] at hlink
    obtain ⟨target, htarget⟩ := h.targets field hfield hlink
    exact ⟨resolveTarget models target, by rw [resolvedField, if_pos hlink, htarget, Option.map_some]⟩

end Registry

namespace Schema

theorem head?_of_tableOf?_eq_some {tokens : List Token} {table : String} (h : tableOf? tokens = some table) :
    table.toList.head? ≠ some '_' := by
  cases tokens with
  | nil => cases h
  | cons token clauses =>
      rw [tableOf?] at h
      split_ifs at h with hrefused
      cases h
      obtain ⟨hstart, -⟩ := Bool.or_eq_false_iff.1 (Bool.eq_false_iff.2 hrefused)
      rw [String.startsWith_string_eq_false_iff] at hstart
      intro hhead
      obtain ⟨rest, hrest⟩ := List.head?_eq_some_iff.1 hhead
      exact hstart ⟨rest, hrest.symm⟩

theorem isInnerName_of_ofStatement? {app table : String} {statement : List Char} {made : Field}
    (h : Definition.ofStatement? app statement = some (.field table made)) :
    isInnerName made.name = false := by
  obtain ⟨_, _, _, -, -, -, hread⟩ := exists_of_ofStatement?_eq_field h
  obtain ⟨token, _, _, _, -, -, hinner, -, -, rfl⟩ := exists_of_fieldOf?_eq_some hread
  exact hinner

theorem isInnerName_eq_false_iff {name : String} :
    isInnerName name = false ↔ name ≠ "id" ∧ '.' ∉ name.toList ∧ '[' ∉ name.toList ∧
      '*' ∉ name.toList := by
  rw [isInnerName, Bool.or_eq_false_iff, beq_eq_false_iff_ne, List.any_eq_false]
  refine and_congr_right fun _ => ⟨fun h => ?_, fun ⟨hpoint, hbracket, hstar⟩ c hc => ?_⟩
  · exact ⟨fun hc => h _ hc rfl, fun hc => h _ hc rfl, fun hc => h _ hc rfl⟩
  · simp only [Bool.or_eq_true, beq_iff_eq]
    rintro ((rfl | rfl) | rfl)
    · exact hpoint hc
    · exact hbracket hc
    · exact hstar hc

theorem wellFormed_of_mem_models {sources : List Source} {model : Model} (h : model ∈ models sources) :
    model.WellFormed where
  table := by
    obtain ⟨app, statement, -, hmade⟩ := exists_mem_models_iff.1 ⟨model, h, rfl⟩
    obtain ⟨-, tokens, htable⟩ := exists_of_ofStatement?_eq_table hmade
    exact head?_of_tableOf?_eq_some htable
  names := nodup_names_of_mem_models h
  whole := by
    intro field hfield
    obtain ⟨app, statement, made, columns, hmade, rfl⟩ := exists_stated_of_mem_allFields h hfield
    have hinner : isInnerName made.name = false := isInnerName_of_ofStatement? hmade
    exact isInnerName_eq_false_iff.1 hinner
  single := by
    rw [(eq_modelSaid_of_mem_models h).2]
    intro field hfield
    exact bne_iff_ne.1 (List.mem_filter.1 hfield).2
  many := by
    rw [(eq_modelSaid_of_mem_models h).2]
    intro field hfield
    exact beq_iff_eq.1 (List.mem_filter.1 hfield).2
  targets := fun _ hfield hlink => Option.ne_none_iff_exists'.1 (hasTarget_of_mem_models h hfield hlink)

/--
The models of schema files are always accepted, whatever the texts of the files: their tables
are distinct, every model is well formed, and so it is in the registry with its links resolved.
-/
theorem models_accepted (sources : List Source) :
    ((models sources).map Model.table).Nodup ∧ (∀ model ∈ models sources, model.WellFormed) ∧
      ∃ registry, Registry.ofModels (models sources) = .ok registry ∧
        registry.models.map Model.table = (models sources).map Model.table ∧
          ∀ model ∈ registry.models, model.WellFormed := by
  have haccepted := ofModels_models sources
  refine ⟨nodup_tables_models sources, fun _ => wellFormed_of_mem_models, _, haccepted,
    Registry.ofModels_tables haccepted, List.forall_mem_map.2 fun model hmodel => ?_⟩
  exact Registry.wellFormed_resolvedModel (wellFormed_of_mem_models hmodel) (models sources)

end Schema

end SampleData
