import SampleData.Proofs.Registry

/-!
# Validation of registries

Validation finds the first table that is repeated or, when there is none, the first link without
a target.  What it accepts it leaves as it was, place by place, with the targets of the links read
as tables: a label becomes the table of its model, and any other target is taken behind its point.
-/

namespace SampleData

theorem Except.cases_of_bind_eq_error {ε α β : Type} {result : Except ε α} {next : α → Except ε β}
    {failure : ε} (h : (result >>= next) = .error failure) :
    result = .error failure ∨ ∃ made, result = .ok made ∧ next made = .error failure := by
  cases result with
  | error reason =>
      cases h
      exact .inl rfl
  | ok made => exact .inr ⟨made, rfl, h⟩

theorem Except.exists_of_mapM_eq_error {ε α β : Type} {step : α → Except ε β} {elements : List α}
    {failure : ε} (h : elements.mapM step = .error failure) :
    ∃ front element back, elements = front ++ element :: back ∧
      (∀ earlier ∈ front, ∃ made, step earlier = .ok made) ∧ step element = .error failure := by
  induction elements with
  | nil => cases h
  | cons element rest ih =>
      rw [List.mapM_cons] at h
      rcases cases_of_bind_eq_error h with hstep | ⟨made, hstep, h⟩
      · exact ⟨[], element, rest, rfl, List.forall_mem_nil _, hstep⟩
      · rcases cases_of_bind_eq_error h with hrest | ⟨others, -, h⟩
        · obtain ⟨front, failing, back, rfl, hfront, hfailing⟩ := ih hrest
          exact ⟨element :: front, failing, back, rfl, List.forall_mem_cons.2 ⟨⟨made, hstep⟩, hfront⟩,
            hfailing⟩
        · cases h

namespace Registry

/-! ## What is reported -/

/-- A text that is the first of a list to repeat an earlier one. -/
def RepeatsFirst (texts : List String) (text : String) : Prop :=
  ∃ front back, texts = front ++ text :: back ∧ front.Nodup ∧ text ∈ front

def labelled (models : List Model) : List (String × Field) :=
  models.flatMap fun model => model.allFields.map (Prod.mk model.label)

/-- A link without a target, after links that all have theirs. -/
def LacksTargetFirst (models : List Model) (label : String) (field : Field) : Prop :=
  ∃ front back, labelled models = front ++ (label, field) :: back ∧
    (∀ earlier ∈ front, HasTarget earlier.2) ∧ ¬ HasTarget field

theorem exists_of_firstRepeated?_eq_some {seen texts : List String} {text : String}
    (h : firstRepeated? seen texts = some text) :
    ∃ front back, texts = front ++ text :: back ∧ front.Nodup ∧
      (∀ earlier ∈ front, earlier ∉ seen) ∧ (text ∈ seen ∨ text ∈ front) := by
  induction texts generalizing seen with
  | nil => cases h
  | cons first rest ih =>
      rw [firstRepeated?] at h
      split_ifs at h with hseen
      · cases h
        exact ⟨[], rest, rfl, List.nodup_nil, List.forall_mem_nil _, .inl (List.contains_iff_mem.1 hseen)⟩
      · have hfirst : first ∉ seen := fun hmem => hseen (List.contains_iff_mem.2 hmem)
        obtain ⟨front, back, rfl, hnodup, hfresh, hrepeats⟩ := ih h
        have hnot : first ∉ front := fun hmem => hfresh first hmem List.mem_cons_self
        refine ⟨first :: front, back, rfl, List.nodup_cons.2 ⟨hnot, hnodup⟩, ?_, ?_⟩
        · exact List.forall_mem_cons.2
            ⟨hfirst, fun earlier hmem hin => hfresh earlier hmem (List.mem_cons_of_mem _ hin)⟩
        · rcases hrepeats with hmem | hmem
          · rcases List.mem_cons.1 hmem with rfl | hmem
            · exact .inr List.mem_cons_self
            · exact .inl hmem
          · exact .inr (List.mem_cons_of_mem _ hmem)

theorem repeatsFirst_of_firstRepeated?_eq_some {texts : List String} {text : String}
    (h : firstRepeated? [] texts = some text) : RepeatsFirst texts text := by
  obtain ⟨front, back, hparts, hnodup, -, hrepeats⟩ := exists_of_firstRepeated?_eq_some h
  exact ⟨front, back, hparts, hnodup, hrepeats.resolve_left List.not_mem_nil⟩

theorem eq_noTarget_of_resolveField {models : List Model} {label : String} {field : Field}
    {failure : Failure} (h : resolveField models label field = .error failure) :
    failure = .noTarget field.name label ∧ ¬ HasTarget field := by
  rw [resolveField] at h
  split_ifs at h with hlink
  cases htarget : field.target with
  | some target =>
      rw [htarget] at h
      cases h
  | none =>
      rw [htarget] at h
      cases h
      exact ⟨rfl, fun hfield => hfield hlink htarget⟩

theorem mapM_allFields_of_resolveModel {models : List Model} {model : Model} {failure : Failure}
    (h : resolveModel models model = .error failure) :
    model.allFields.mapM (resolveField models model.label) = .error failure := by
  rw [Model.allFields, List.mapM_append]
  rcases Except.cases_of_bind_eq_error h with hfields | ⟨fields, hfields, h⟩
  · rw [hfields]
    rfl
  · rcases Except.cases_of_bind_eq_error h with hlinks | ⟨links, -, h⟩
    · rw [hfields, hlinks]
      rfl
    · cases h

theorem labelled_append_cons (front : List Model) (model : Model) (back : List Model) :
    labelled (front ++ model :: back) =
      labelled front ++ (model.allFields.map (Prod.mk model.label) ++ labelled back) := by
  rw [labelled, List.flatMap_append, List.flatMap_cons]
  rfl

theorem lacksTargetFirst_of_mapM {models elements : List Model} {failure : Failure}
    (h : elements.mapM (resolveModel models) = .error failure) :
    ∃ label field, failure = .noTarget field.name label ∧ LacksTargetFirst elements label field := by
  obtain ⟨front, model, back, rfl, hfront, hmodel⟩ := Except.exists_of_mapM_eq_error h
  obtain ⟨earlier, field, later, hfields, hearlier, hfield⟩ :=
    Except.exists_of_mapM_eq_error (mapM_allFields_of_resolveModel hmodel)
  obtain ⟨hfailure, hlacks⟩ := eq_noTarget_of_resolveField hfield
  refine ⟨model.label, field, hfailure, labelled front ++ earlier.map (Prod.mk model.label),
    later.map (Prod.mk model.label) ++ labelled back, ?_, ?_, hlacks⟩
  · rw [labelled_append_cons, hfields, List.map_append, List.map_cons]
    simp only [List.append_assoc, List.cons_append]
  · rw [List.forall_mem_append, List.forall_mem_map]
    refine ⟨fun entry hentry => ?_, fun other hother => ?_⟩
    · obtain ⟨complete, hcomplete, hentry⟩ := List.mem_flatMap.1 hentry
      obtain ⟨other, hother, rfl⟩ := List.mem_map.1 hentry
      obtain ⟨_, hmade⟩ := hfront complete hcomplete
      exact hasTarget_of_resolveModel hmade other hother
    · obtain ⟨_, hmade⟩ := hearlier other hother
      exact hasTarget_of_resolveField hmade

/-- A failure names the first repeated table, or else the first link without a target. -/
theorem ofModels_eq_error {models : List Model} {failure : Failure}
    (h : ofModels models = .error failure) :
    (∃ table, failure = .repeatedTable table ∧ RepeatsFirst (models.map Model.table) table) ∨
      (models.map Model.table).Nodup ∧ ∃ label field,
        failure = .noTarget field.name label ∧ LacksTargetFirst models label field := by
  unfold ofModels at h
  cases hrepeated : firstRepeated? [] (models.map Model.table) with
  | some table =>
      rw [hrepeated] at h
      cases h
      exact .inl ⟨table, rfl, repeatsFirst_of_firstRepeated?_eq_some hrepeated⟩
  | none =>
      rw [hrepeated] at h
      have hdistinct : (models.map Model.table).Nodup := (firstRepeated?_eq_none_iff.1 hrepeated).1
      rcases Except.cases_of_bind_eq_error h with hmade | ⟨resolved, -, h⟩
      · exact .inr ⟨hdistinct, lacksTargetFirst_of_mapM hmade⟩
      · cases h

/-! ## What the targets become -/

/-- The table that a target denotes among models. -/
inductive Denotes (models : List Model) (target : String) : String → Prop
  /-- A label denotes the table of its model, the last one if several have it. -/
  | label {front back : List Model} {model : Model} (parts : models = front ++ model :: back)
      (named : model.label = target) (last : ∀ later ∈ back, later.label ≠ target) :
      Denotes models target model.table
  | bare (other : ∀ model ∈ models, model.label ≠ target) (pointless : '.' ∉ target.toList) :
      Denotes models target target
  | behindPoint {app name : List Char} (other : ∀ model ∈ models, model.label ≠ target)
      (parts : target.toList = app ++ '.' :: name) (first : '.' ∉ app) :
      Denotes models target (String.ofList name)

theorem denotes_resolveTarget (models : List Model) (target : String) :
    Denotes models target (resolveTarget models target) := by
  rw [resolveTarget, tableOfLabel?]
  cases hfound : models.reverse.find? fun model => model.label == target with
  | some model =>
      obtain ⟨hnamed, later, earlier, hparts, hlater⟩ := List.find?_eq_some_iff_append.1 hfound
      have hmodels : models = earlier.reverse ++ model :: later.reverse := by
        rw [← List.reverse_reverse models, hparts]
        simp
      refine .label hmodels (beq_iff_eq.1 hnamed) fun other hother => ?_
      have hdiffers := hlater other (List.mem_reverse.1 hother)
      simpa using hdiffers
  | none =>
      have hother : ∀ model ∈ models, model.label ≠ target := by
        intro model hmodel heq
        exact List.find?_eq_none.1 hfound model (List.mem_reverse.2 hmodel) (beq_iff_eq.2 heq)
      rw [Option.map_none, Option.getD_none, withoutApp]
      cases hcut : Text.cutAt '.' target.toList with
      | some parts =>
          exact .behindPoint hother (Text.cutAt_eq_some hcut) (Text.not_mem_of_cutAt_eq_some hcut)
      | none =>
          refine .bare hother fun hpoint => ?_
          obtain ⟨app, name, hparts, hfirst⟩ := List.eq_append_cons_of_mem hpoint
          rw [hparts, Text.cutAt_append hfirst] at hcut
          cases hcut

theorem Denotes.eq_table {models : List Model} (distinct : (models.map Model.label).Nodup)
    {linked : Model} (hlinked : linked ∈ models) {table : String}
    (h : Denotes models linked.label table) : table = linked.table := by
  cases h with
  | @label front back model parts named last =>
      have hmodel : model ∈ models := parts ▸ List.mem_append_right _ List.mem_cons_self
      rw [List.inj_on_of_nodup_map distinct hmodel hlinked named]
  | bare other pointless => exact absurd rfl (other linked hlinked)
  | behindPoint other parts first => exact absurd rfl (other linked hlinked)

/-- What validation makes of a field: the target of a link is read, and nothing else changes. -/
inductive ResolvesField (models : List Model) : Field → Field → Prop
  | plain {field : Field} (noLink : field.kind.isLink = false) : ResolvesField models field field
  | link {field : Field} {target table : String} (link : field.kind.isLink = true)
      (named : field.target = some target) (denotes : Denotes models target table) :
      ResolvesField models field { field with target := some table }

structure ResolvesModel (models : List Model) (model resolved : Model) : Prop where
  app : resolved.app = model.app
  name : resolved.name = model.name
  table : resolved.table = model.table
  fields : List.Forall₂ (ResolvesField models) model.fields resolved.fields
  manyToMany : List.Forall₂ (ResolvesField models) model.manyToMany resolved.manyToMany

theorem resolvesField_resolvedField {field : Field} (h : HasTarget field) (models : List Model) :
    ResolvesField models field (resolvedField models field) := by
  rw [resolvedField]
  split_ifs with hlink
  · obtain ⟨target, htarget⟩ := Option.ne_none_iff_exists'.1 (h hlink)
    rw [htarget]
    exact .link hlink htarget (denotes_resolveTarget models target)
  · exact .plain (Bool.eq_false_iff.2 hlink)

theorem resolvesModel_resolvedModel {model : Model} (h : ∀ field ∈ model.allFields, HasTarget field)
    (models : List Model) : ResolvesModel models model (resolvedModel models model) := by
  obtain ⟨hfields, hlinks⟩ := List.forall_mem_append.1 h
  have hmade : ∀ {fields : List Field}, (∀ field ∈ fields, HasTarget field) →
      List.Forall₂ (ResolvesField models) fields (fields.map (resolvedField models)) := by
    intro fields hall
    rw [List.forall₂_map_right_iff, List.forall₂_same]
    exact fun field hfield => resolvesField_resolvedField (hall field hfield) models
  exact ⟨rfl, rfl, rfl, hmade hfields, hmade hlinks⟩

/--
Models are accepted exactly when no table is repeated and every link has a target, and a failure
reports the first repeated table before the first link without a target.  The registry has the
models in their places with the targets of their links read; where the labels are distinct, the
label of a model denotes the table of that model, which is a table of the registry.
-/
theorem ofModels_validates (models : List Model) :
    ((∃ registry, ofModels models = .ok registry) ↔
      (models.map Model.table).Nodup ∧ ∀ model ∈ models, ∀ field ∈ model.allFields, HasTarget field) ∧
    (∀ failure, ofModels models = .error failure →
      (∃ table, failure = .repeatedTable table ∧ RepeatsFirst (models.map Model.table) table) ∨
        (models.map Model.table).Nodup ∧ ∃ label field,
          failure = .noTarget field.name label ∧ LacksTargetFirst models label field) ∧
    ∀ registry, ofModels models = .ok registry →
      List.Forall₂ (ResolvesModel models) models registry.models ∧
        ((models.map Model.label).Nodup → ∀ linked ∈ models,
          linked.table ∈ registry.models.map Model.table ∧
            ∀ table, Denotes models linked.label table → table = linked.table) := by
  refine ⟨?_, fun _ => ofModels_eq_error, fun registry hregistry => ⟨?_, fun hlabels linked hlinked => ?_⟩⟩
  · constructor
    · rintro ⟨registry, hregistry⟩
      obtain ⟨hdistinct, htargets, -⟩ := ofModels_eq_ok_iff.1 hregistry
      exact ⟨hdistinct, htargets⟩
    · rintro ⟨hdistinct, htargets⟩
      exact ⟨_, ofModels_eq_ok hdistinct htargets⟩
  · obtain ⟨-, htargets, rfl⟩ := ofModels_eq_ok_iff.1 hregistry
    rw [List.forall₂_map_right_iff, List.forall₂_same]
    exact fun model hmodel => resolvesModel_resolvedModel (htargets model hmodel) models
  · rw [ofModels_tables hregistry]
    exact ⟨List.mem_map_of_mem hlinked, fun _ => Denotes.eq_table hlabels hlinked⟩

def postsBeforeAuthors : List Model :=
  [{ app := "blog", name := "post", table := "post",
     fields := [{ name := "author", kind := .foreignKey, target := some "blog.author" },
       { name := "owner", kind := .foreignKey, target := some "auth.user" }],
     manyToMany := [{ name := "tags", kind := .manyToMany, target := some "tag" }] },
   { app := "blog", name := "author", table := "blog_author" }]

theorem ofModels_validates_posts :
    ∃ registry, ofModels postsBeforeAuthors = .ok registry ∧
      List.Forall₂ (ResolvesModel postsBeforeAuthors) postsBeforeAuthors registry.models ∧
        "blog_author" ∈ registry.models.map Model.table ∧
          ∀ table, Denotes postsBeforeAuthors "blog.author" table → table = "blog_author" := by
  obtain ⟨haccepted, -, hplaces⟩ := ofModels_validates postsBeforeAuthors
  have htargets : ∀ model ∈ postsBeforeAuthors, ∀ field ∈ model.allFields,
      field.kind.isLink = true → field.target ≠ none := by decide
  obtain ⟨registry, hregistry⟩ := haccepted.2 ⟨by decide, htargets⟩
  obtain ⟨hresolved, hlabels⟩ := hplaces registry hregistry
  have hauthors : (⟨"blog", "author", "blog_author", [], []⟩ : Model) ∈ postsBeforeAuthors := by decide
  obtain ⟨htable, hdenotes⟩ := hlabels (by decide) _ hauthors
  exact ⟨registry, hregistry, hresolved, htable, hdenotes⟩

/-- The targets of the links of the posts: a label, a name behind a point and a bare name. -/
example : (ofModels postsBeforeAuthors).toOption.map (fun registry =>
    registry.models.flatMap fun model => model.allFields.filterMap Field.target) =
      some ["blog_author", "user", "tag"] := by decide

end Registry

end SampleData
