import Mathlib.Data.List.Forall2
import Mathlib.Data.List.Nodup
import SampleData.Registry

/-!
# Registries that are accepted

Validation resolves the links of models and leaves everything else of them.  In a registry that
is accepted no two models have the same table, and so it is for every selection of its models.
-/

namespace SampleData

theorem Except.exists_of_bind_eq_ok {ε α β : Type} {result : Except ε α} {next : α → Except ε β} {final : β}
    (h : (result >>= next) = .ok final) : ∃ made, result = .ok made ∧ next made = .ok final := by
  cases result with
  | error failure => cases h
  | ok made => exact ⟨made, rfl, h⟩

theorem Except.forall₂_of_mapM {ε α β : Type} {step : α → Except ε β} {elements : List α}
    {results : List β} (h : elements.mapM step = .ok results) :
    List.Forall₂ (fun element result => step element = .ok result) elements results := by
  induction elements generalizing results with
  | nil =>
      cases h
      exact .nil
  | cons element rest ih =>
      rw [List.mapM_cons] at h
      obtain ⟨result, hresult, h⟩ := exists_of_bind_eq_ok h
      obtain ⟨others, hothers, h⟩ := exists_of_bind_eq_ok h
      cases h
      exact .cons hresult (ih hothers)

theorem Except.mapM_eq_ok {ε α β : Type} {step : α → Except ε β} {made : α → β} {elements : List α}
    (h : ∀ element ∈ elements, step element = .ok (made element)) :
    elements.mapM step = .ok (elements.map made) := by
  induction elements with
  | nil => rfl
  | cons element rest ih =>
      obtain ⟨hfirst, hrest⟩ := List.forall_mem_cons.1 h
      rw [List.mapM_cons, hfirst, ih hrest]
      rfl

theorem exists_of_forall₂_of_mem {α β : Type} {relation : α → β → Prop} {elements : List α}
    {results : List β} (h : List.Forall₂ relation elements results) {result : β}
    (hmem : result ∈ results) : ∃ element ∈ elements, relation element result := by
  induction h with
  | nil => cases hmem
  | @cons element first _ _ hfirst _ ih =>
      rcases List.mem_cons.1 hmem with rfl | hmem
      · exact ⟨element, List.mem_cons_self, hfirst⟩
      · obtain ⟨other, hother, hrelated⟩ := ih hmem
        exact ⟨other, List.mem_cons_of_mem _ hother, hrelated⟩

namespace Registry

/-- Nothing is repeated exactly when each text stands once and none was seen before. -/
theorem firstRepeated?_eq_none_iff {seen texts : List String} :
    firstRepeated? seen texts = none ↔ texts.Nodup ∧ ∀ text ∈ texts, text ∉ seen := by
  induction texts generalizing seen with
  | nil => simp [firstRepeated?]
  | cons text rest ih =>
      by_cases hseen : text ∈ seen
      · simp [firstRepeated?, hseen]
      · have hrest : firstRepeated? seen (text :: rest) = firstRepeated? (text :: seen) rest := by
          simp [firstRepeated?, hseen]
        rw [hrest, ih, List.nodup_cons]
        constructor
        · rintro ⟨hnodup, hfresh⟩
          refine ⟨⟨fun hin => hfresh text hin List.mem_cons_self, hnodup⟩, ?_⟩
          intro other hother
          rcases List.mem_cons.1 hother with rfl | hother
          · exact hseen
          · exact fun hin => hfresh other hother (List.mem_cons_of_mem _ hin)
        · rintro ⟨⟨hnot, hnodup⟩, hfresh⟩
          refine ⟨hnodup, fun other hother hin => ?_⟩
          rcases List.mem_cons.1 hin with rfl | hin
          · exact hnot hother
          · exact hfresh other (List.mem_cons_of_mem _ hother) hin

theorem resolveModel_table {models : List Model} {model resolved : Model}
    (h : resolveModel models model = .ok resolved) : resolved.table = model.table := by
  obtain ⟨fields, -, h⟩ := Except.exists_of_bind_eq_ok h
  obtain ⟨manyToMany, -, h⟩ := Except.exists_of_bind_eq_ok h
  cases h
  rfl

theorem tables_of_forall₂ {models elements resolved : List Model}
    (h : List.Forall₂ (fun model result => resolveModel models model = .ok result)
      elements resolved) : resolved.map Model.table = elements.map Model.table := by
  induction h with
  | nil => rfl
  | cons hmodel _ ih => rw [List.map_cons, List.map_cons, resolveModel_table hmodel, ih]

theorem ofModels_tables {models : List Model} {registry : Registry}
    (h : ofModels models = .ok registry) :
    registry.models.map Model.table = models.map Model.table := by
  unfold ofModels at h
  split at h
  · cases h
  · obtain ⟨resolved, hresolved, h⟩ := Except.exists_of_bind_eq_ok h
    cases h
    exact tables_of_forall₂ (Except.forall₂_of_mapM hresolved)

theorem ofModels_nodup {models : List Model} {registry : Registry}
    (h : ofModels models = .ok registry) : (registry.models.map Model.table).Nodup := by
  rw [ofModels_tables h]
  unfold ofModels at h
  cases hrepeated : firstRepeated? [] (models.map Model.table) with
  | some table => simp [hrepeated] at h
  | none => exact (firstRepeated?_eq_none_iff.1 hrepeated).1

theorem select_sublist (registry : Registry) (exclude : List String) (authApp : String) :
    (registry.select exclude authApp).Sublist registry.models :=
  List.filter_sublist

theorem select_nodup {models : List Model} {registry : Registry}
    (h : ofModels models = .ok registry) (exclude : List String) (authApp : String) :
    ((registry.select exclude authApp).map Model.table).Nodup :=
  (ofModels_nodup h).sublist ((registry.select_sublist exclude authApp).map Model.table)

/-! ## Models that are accepted -/

def resolvedField (models : List Model) (field : Field) : Field :=
  if field.kind.isLink then { field with target := field.target.map (resolveTarget models) } else field

def resolvedModel (models : List Model) (model : Model) : Model :=
  { model with
    fields := model.fields.map (resolvedField models),
    manyToMany := model.manyToMany.map (resolvedField models) }

def HasTarget (field : Field) : Prop :=
  field.kind.isLink = true → field.target ≠ none

theorem resolveField_eq_ok {field : Field} (h : HasTarget field) (models : List Model) (label : String) :
    resolveField models label field = .ok (resolvedField models field) := by
  rw [resolveField, resolvedField]
  split
  · rename_i hlink
    obtain ⟨target, htarget⟩ := Option.ne_none_iff_exists'.1 (h hlink)
    rw [htarget]
    rfl
  · rfl

theorem resolveModel_eq_ok {model : Model} (h : ∀ field ∈ model.allFields, HasTarget field)
    (models : List Model) : resolveModel models model = .ok (resolvedModel models model) := by
  obtain ⟨hfields, hlinks⟩ := List.forall_mem_append.1 h
  have hmade : ∀ {fields : List Field}, (∀ field ∈ fields, HasTarget field) →
      fields.mapM (resolveField models model.label) = .ok (fields.map (resolvedField models)) :=
    fun hall => Except.mapM_eq_ok fun field hmem => resolveField_eq_ok (hall field hmem) _ _
  rw [resolveModel, hmade hfields, hmade hlinks]
  rfl

theorem ofModels_eq_ok {models : List Model} (distinct : (models.map Model.table).Nodup)
    (h : ∀ model ∈ models, ∀ field ∈ model.allFields, HasTarget field) :
    ofModels models = .ok ⟨models.map (resolvedModel models)⟩ := by
  have hfresh : firstRepeated? [] (models.map Model.table) = none :=
    firstRepeated?_eq_none_iff.2 ⟨distinct, nofun⟩
  have hmade : models.mapM (resolveModel models) = .ok (models.map (resolvedModel models)) :=
    Except.mapM_eq_ok fun model hmem => resolveModel_eq_ok (h model hmem) models
  rw [ofModels, hfresh]
  simp only [hmade]
  rfl

theorem hasTarget_of_resolveField {models : List Model} {label : String} {field resolved : Field}
    (h : resolveField models label field = .ok resolved) : HasTarget field := by
  intro hlink hnone
  rw [resolveField, if_pos hlink, hnone] at h
  cases h

theorem hasTarget_of_resolveModel {models : List Model} {model resolved : Model}
    (h : resolveModel models model = .ok resolved) : ∀ field ∈ model.allFields, HasTarget field := by
  have hall : ∀ {fields made : List Field},
      fields.mapM (resolveField models model.label) = .ok made → ∀ field ∈ fields, HasTarget field := by
    intro fields made hmade field hfield
    obtain ⟨_, -, hresolved⟩ := exists_of_forall₂_of_mem (Except.forall₂_of_mapM hmade).flip hfield
    exact hasTarget_of_resolveField hresolved
  obtain ⟨fields, hfields, h⟩ := Except.exists_of_bind_eq_ok h
  obtain ⟨manyToMany, hlinks, -⟩ := Except.exists_of_bind_eq_ok h
  exact List.forall_mem_append.2 ⟨hall hfields, hall hlinks⟩

/-- Models are accepted exactly when their tables are distinct and all their links have targets. -/
theorem ofModels_eq_ok_iff {models : List Model} {registry : Registry} :
    ofModels models = .ok registry ↔ (models.map Model.table).Nodup ∧
      (∀ model ∈ models, ∀ field ∈ model.allFields, HasTarget field) ∧
        registry = ⟨models.map (resolvedModel models)⟩ := by
  constructor
  · intro h
    have hdistinct : (models.map Model.table).Nodup := ofModels_tables h ▸ ofModels_nodup h
    have htargets : ∀ model ∈ models, ∀ field ∈ model.allFields, HasTarget field := by
      intro model hmodel
      unfold ofModels at h
      split at h
      · cases h
      · obtain ⟨resolved, hresolved, -⟩ := Except.exists_of_bind_eq_ok h
        obtain ⟨_, -, hmade⟩ :=
          exists_of_forall₂_of_mem (Except.forall₂_of_mapM hresolved).flip hmodel
        exact hasTarget_of_resolveModel hmade
    rw [ofModels_eq_ok hdistinct htargets] at h
    exact ⟨hdistinct, htargets, (Except.ok.inj h).symm⟩
  · rintro ⟨hdistinct, htargets, rfl⟩
    exact ofModels_eq_ok hdistinct htargets

theorem allFields_resolvedModel (models : List Model) (model : Model) :
    (resolvedModel models model).allFields = model.allFields.map (resolvedField models) :=
  List.map_append.symm

theorem resolvedField_name (models : List Model) (field : Field) :
    (resolvedField models field).name = field.name := by
  rw [resolvedField]
  split <;> rfl

/-- A target without a point is no label, so it is a table itself. -/
theorem resolveTarget_of_not_mem {target : String} (h : '.' ∉ target.toList) (models : List Model) :
    resolveTarget models target = target := by
  have hlabel : ∀ model ∈ models.reverse, ¬ (model.label == target) = true := by
    intro model _ heq
    refine h ?_
    rw [← beq_iff_eq.1 heq, Model.label]
    simp
  rw [resolveTarget, tableOfLabel?, List.find?_eq_none.2 hlabel, withoutApp, Text.cutAt_eq_none h]
  rfl

theorem eq_of_table_eq {models : List Model} (distinct : (models.map Model.table).Nodup)
    {model other : Model} (hmodel : model ∈ models) (hother : other ∈ models)
    (h : model.table = other.table) : model = other :=
  List.inj_on_of_nodup_map distinct hmodel hother h

end Registry

end SampleData
