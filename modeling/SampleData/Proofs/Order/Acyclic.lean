import Mathlib.Data.Fintype.Card
import Mathlib.Data.Fintype.EquivFin
import Mathlib.Data.List.Basic
import Mathlib.Order.WellFounded
import SampleData.Proofs.Order.Search

/-!
# Dependency order and cycles

A list of models with distinct tables has a dependency order exactly when no model depends on
itself through others.  The order lists every model once, behind all models that it depends on,
and only required links to other models of the list have a say in it.
-/

namespace SampleData

namespace Order

/-! ## Dependencies -/

/--
A model depends on another one of the list when a required link of it leads to the other's
table.
-/
def DependsOn (models : List Model) (model target : Model) : Prop :=
  model ∈ models ∧ target ∈ models ∧ target ≠ model ∧
    ∃ field ∈ model.fields, field.kind = .foreignKey ∧ field.required = true ∧
      field.target = some target.table

def Cyclic (models : List Model) : Prop :=
  ∃ model, Relation.TransGen (DependsOn models) model model

variable {models others : List Model}

theorem DependsOn.mono (h : models ⊆ others) {model target : Model}
    (hdepends : DependsOn models model target) : DependsOn others model target := by
  obtain ⟨hmodel, htarget, hlink⟩ := hdepends
  exact ⟨h hmodel, h htarget, hlink⟩

theorem Cyclic.mono (h : models ⊆ others) (hcyclic : Cyclic models) : Cyclic others := by
  obtain ⟨model, hpath⟩ := hcyclic
  exact ⟨model, hpath.lift id fun _ _ => DependsOn.mono h⟩

theorem eq_of_table_eq (distinct : (models.map Model.table).Nodup) {first second : Nat}
    {model other : Model} (hmodel : models[first]? = some model)
    (hother : models[second]? = some other) (h : model.table = other.table) : first = second := by
  have hlt : first < (models.map Model.table).length := by
    rw [List.length_map]
    exact (List.getElem?_eq_some_iff.1 hmodel).1
  refine (List.getElem?_inj hlt distinct).1 ?_
  rw [List.getElem?_map, List.getElem?_map, hmodel, hother, Option.map_some, Option.map_some, h]

theorem placeOf?_table (distinct : (models.map Model.table).Nodup) {place : Nat} {model : Model}
    (h : models[place]? = some model) : placeOf? models model.table = some place := by
  cases hplace : placeOf? models model.table with
  | none =>
      simp only [placeOf?, Option.map_eq_none_iff, List.find?_eq_none] at hplace
      have hmem : (model, place) ∈ models.zipIdx.reverse := by
        rw [List.mem_reverse, List.mem_zipIdx_iff_getElem?]
        exact h
      exact absurd (by simp) (hplace _ hmem)
  | some found =>
      obtain ⟨other, hother, htable⟩ := placeOf?_eq_some hplace
      rw [eq_of_table_eq distinct hother h htable]

/-- The places before a place are those of the models that its model depends on. -/
theorem dependsOn_iff (distinct : (models.map Model.table).Nodup) {place earlier : Nat}
    {model target : Model} (hmodel : models[place]? = some model)
    (htarget : models[earlier]? = some target) :
    DependsOn models model target ↔ earlier ∈ before models place := by
  rw [mem_before_iff]
  constructor
  · rintro ⟨-, -, hne, hfield⟩
    refine ⟨model, target.table, hmodel, mem_requiredTargets_iff.2 ⟨hfield, fun h => hne ?_⟩,
      placeOf?_table distinct htarget⟩
    have hsame := eq_of_table_eq distinct htarget hmodel h
    rw [hsame, hmodel] at htarget
    exact (Option.some.inj htarget).symm
  · rintro ⟨found, table, hfound, hrequired, hplace⟩
    obtain rfl : model = found := Option.some.inj (hmodel.symm.trans hfound)
    obtain ⟨other, hother, rfl⟩ := placeOf?_eq_some hplace
    obtain rfl : target = other := Option.some.inj (htarget.symm.trans hother)
    obtain ⟨hfield, hne⟩ := mem_requiredTargets_iff.1 hrequired
    exact ⟨List.mem_of_getElem? hmodel, List.mem_of_getElem? htarget,
      fun h => hne (by rw [h]), hfield⟩

/-! ## The order that is found -/

theorem modelsAt_range (models : List Model) :
    modelsAt models (List.range models.length) = models := by
  induction models using List.reverseRecOn with
  | nil => rfl
  | append_singleton models model ih =>
      have hfront : (List.range models.length).filterMap (fun place => (models ++ [model])[place]?) =
          (List.range models.length).filterMap fun place => models[place]? :=
        List.filterMap_congr fun place hplace =>
          List.getElem?_append_left (List.mem_range.1 hplace)
      unfold modelsAt at ih ⊢
      rw [List.length_append, List.length_singleton, List.range_succ, List.filterMap_append, hfront,
        ih]
      simp

theorem idxOf_eq_of_getElem? (nodup : models.Nodup) {place : Nat} {model : Model}
    (h : models[place]? = some model) : models.idxOf model = place := by
  obtain ⟨hlt, rfl⟩ := List.getElem?_eq_some_iff.1 h
  exact nodup.idxOf_getElem place hlt

theorem mem_modelsAt_iff (nodup : models.Nodup) {places : List Nat} {place : Nat} {model : Model}
    (h : models[place]? = some model) : model ∈ modelsAt models places ↔ place ∈ places := by
  constructor
  · intro hmem
    obtain ⟨found, hfound, hsame⟩ := List.mem_filterMap.1 hmem
    rwa [← idxOf_eq_of_getElem? nodup h, idxOf_eq_of_getElem? nodup hsame]
  · intro hplace
    exact List.mem_filterMap.2 ⟨place, hplace, h⟩

/-- When as many places are taken as there are, all of them are. -/
theorem taken_perm (h : (search models).taken.length = models.length) :
    (search models).taken.reverse.Perm (List.range models.length) := by
  have valid := search_valid models
  have hsubset : (search models).taken ⊆ List.range models.length := fun place hplace =>
    List.mem_range.2 (valid.inside place hplace)
  exact (List.reverse_perm _).trans
    ((List.subperm_of_subset valid.nodup hsubset).perm_of_length_le (by simp [h]))

theorem dependencyOrder_eq_ok_iff {order : List Model} :
    dependencyOrder models = .ok order ↔
      (search models).taken.length = models.length ∧
        modelsAt models (search models).taken.reverse = order := by
  unfold dependencyOrder
  by_cases h : (search models).taken.length = models.length <;> simp [h]

theorem dependencyOrder_eq_error_iff {failure : Failure} :
    dependencyOrder models = .error failure ↔
      (search models).taken.length ≠ models.length ∧
        .circular ((modelsAt models (search models).blocked).map Model.label) = failure := by
  unfold dependencyOrder
  by_cases h : (search models).taken.length = models.length <;> simp [h]

theorem exists_circular_of_error {failure : Failure} (h : dependencyOrder models = .error failure) :
    ∃ labels, failure = .circular labels :=
  ⟨_, (dependencyOrder_eq_error_iff.1 h).2.symm⟩

theorem dependencyOrder_perm {order : List Model} (h : dependencyOrder models = .ok order) :
    order.Perm models := by
  obtain ⟨hlength, rfl⟩ := dependencyOrder_eq_ok_iff.1 h
  have hperm := (taken_perm hlength).filterMap fun place => models[place]?
  exact hperm.trans (List.Perm.of_eq (modelsAt_range models))

/-- Among the models taken so far, those that a model depends on stand in front of it. -/
theorem taken_ordered (distinct : (models.map Model.table).Nodup) {earlier later : List Model}
    {model target : Model}
    (hsplit : modelsAt models (search models).taken.reverse = earlier ++ model :: later)
    (hdepends : DependsOn models model target) : target ∈ earlier := by
  have valid := search_valid models
  obtain ⟨front, back, hreverse, hfront, hback⟩ := List.filterMap_eq_append_iff.1 hsplit
  obtain ⟨gap, place, rest, rfl, hgap, hmodel, -⟩ := List.filterMap_eq_cons_iff.1 hback
  obtain ⟨first, htarget⟩ := List.mem_iff_getElem?.1 hdepends.2.1
  have hbefore := (dependsOn_iff distinct hmodel htarget).1 hdepends
  have htaken : (search models).taken = rest.reverse ++ place :: (front ++ gap).reverse := by
    rw [← List.reverse_reverse (search models).taken, hreverse]
    simp
  have hmem := valid.ordered _ _ _ htaken first hbefore
  rw [List.mem_reverse, List.mem_append] at hmem
  have hin : first ∈ front := hmem.resolve_right fun hin => by
    have hnone := hgap first hin
    rw [htarget] at hnone
    cases hnone
  rw [← hfront]
  exact List.mem_filterMap.2 ⟨first, hin, htarget⟩

theorem dependencyOrder_ordered (distinct : (models.map Model.table).Nodup) {order : List Model}
    (h : dependencyOrder models = .ok order) {earlier later : List Model} {model target : Model}
    (hsplit : order = earlier ++ model :: later) (hdepends : DependsOn models model target) :
    target ∈ earlier := by
  obtain ⟨-, horder⟩ := dependencyOrder_eq_ok_iff.1 h
  exact taken_ordered distinct (horder.trans hsplit) hdepends

theorem dependencyOrder_pairwise (distinct : (models.map Model.table).Nodup) {order : List Model}
    (h : dependencyOrder models = .ok order) :
    order.Pairwise fun first second => ¬ DependsOn models first second := by
  have hnodup : order.Nodup :=
    (dependencyOrder_perm h).nodup_iff.2 (List.Nodup.of_map _ distinct)
  rw [List.pairwise_iff_forall_sublist]
  intro first second hsublist hdepends
  obtain ⟨front, back, hsplit, hfirst, hsecond⟩ := List.cons_sublist_iff.1 hsublist
  obtain ⟨earlier, between, rfl⟩ := List.append_of_mem hfirst
  rw [List.append_assoc] at hsplit
  have hearlier := dependencyOrder_ordered distinct h hsplit hdepends
  rw [hsplit, List.nodup_append] at hnodup
  refine hnodup.2.2 second hearlier second ?_ rfl
  simp [List.singleton_sublist.1 hsecond]

/-! ## Cycles -/

theorem not_mem_front {α : Type} {earlier later : List α} {element : α}
    (h : (earlier ++ element :: later).Nodup) : element ∉ earlier := fun hin =>
  (List.nodup_cons.1 (List.nodup_middle.1 h)).1 (List.mem_append_left _ hin)

/--
Where everything stands behind what it leads to, places go down along every path, and none is a
cycle.
-/
theorem not_transGen_of_ordered {α : Type} [DecidableEq α] {leads : α → α → Prop} {order : List α}
    (hnodup : order.Nodup)
    (hordered : ∀ first second, leads first second →
      ∃ earlier later, order = earlier ++ first :: later ∧ second ∈ earlier) (start : α) :
    ¬ Relation.TransGen leads start start := by
  have hstep : ∀ first second, leads first second → order.idxOf second < order.idxOf first := by
    intro first second hleads
    obtain ⟨earlier, later, hsplit, hsecond⟩ := hordered first second hleads
    have hnot : first ∉ earlier := not_mem_front (hsplit ▸ hnodup)
    rw [hsplit, List.idxOf_append_of_mem hsecond, List.idxOf_append_of_notMem hnot]
    have hlt := List.idxOf_lt_length_of_mem hsecond
    omega
  have hpath : ∀ first second, Relation.TransGen leads first second →
      order.idxOf second < order.idxOf first := by
    intro first second hpath
    induction hpath with
    | single hleads => exact hstep _ _ hleads
    | tail _ hleads ih => exact (hstep _ _ hleads).trans ih
  exact fun hcycle => Nat.lt_irrefl _ (hpath start start hcycle)

/-- All models of a list, each behind those that it depends on. -/
structure IsOrder (models order : List Model) : Prop where
  perm : order.Perm models
  behind : ∀ earlier model later, order = earlier ++ model :: later →
    ∀ target, DependsOn models model target → target ∈ earlier

theorem IsOrder.not_cyclic {order : List Model} (nodup : models.Nodup) (h : IsOrder models order) :
    ¬ Cyclic models := by
  rintro ⟨model, hcycle⟩
  refine not_transGen_of_ordered (h.perm.nodup_iff.2 nodup) ?_ model hcycle
  intro first second hdepends
  obtain ⟨earlier, later, hsplit⟩ := List.append_of_mem (h.perm.mem_iff.2 hdepends.1)
  exact ⟨earlier, later, hsplit, h.behind earlier first later hsplit second hdepends⟩

theorem dependencyOrder_isOrder (distinct : (models.map Model.table).Nodup) {order : List Model}
    (h : dependencyOrder models = .ok order) : IsOrder models order where
  perm := dependencyOrder_perm h
  behind := fun _ _ _ hsplit _ hdepends => dependencyOrder_ordered distinct h hsplit hdepends

/-- In a finite type what always leads on to more of its kind comes to a cycle. -/
theorem exists_cycle_of_leads_on {α : Type} [Finite α] {leads : α → α → Prop} {isOpen : α → Prop}
    (h : ∀ first, isOpen first → ∃ second, leads first second ∧ isOpen second) {start : α}
    (hstart : isOpen start) :
    ∃ other, Relation.ReflTransGen leads start other ∧ Relation.TransGen leads other other := by
  by_contra hnone
  push Not at hnone
  let Reached := {other : α // Relation.ReflTransGen leads start other}
  let behind : Reached → Reached → Prop := fun later earlier =>
    Relation.TransGen leads earlier.val later.val
  have : IsTrans Reached behind := ⟨fun _ _ _ hlate hearly => hearly.trans hlate⟩
  have : Std.Irrefl behind := ⟨fun other => hnone other.val other.property⟩
  -- Without a cycle nothing can be behind all that is reached, but the last open one leads on.
  have wellFounded := Finite.wellFounded_of_trans_of_irrefl behind
  obtain ⟨last, hlast, hmin⟩ :=
    wellFounded.has_min {other : Reached | isOpen other.val} ⟨⟨start, .refl⟩, hstart⟩
  obtain ⟨next, hleads, hnext⟩ := h last.val hlast
  exact hmin ⟨next, last.property.tail hleads⟩ hnext (.single hleads)

/-- A model on a cycle, or one that comes to a cycle through the models that it depends on. -/
def Blocked (models : List Model) (model : Model) : Prop :=
  ∃ other, Relation.ReflTransGen (DependsOn models) model other ∧
    Relation.TransGen (DependsOn models) other other

/-- A model whose place is not taken waits for another such model, and so on into a cycle. -/
theorem blocked_of_not_taken (distinct : (models.map Model.table).Nodup) {place : Nat} {model : Model}
    (hmodel : models[place]? = some model) (hnot : place ∉ (search models).taken) :
    Blocked models model := by
  let waits : Fin models.length → Fin models.length → Prop :=
    fun place earlier => earlier.val ∈ before models place.val
  have hwaits : ∀ place earlier, waits place earlier →
      DependsOn models models[place] models[earlier] := fun place earlier h =>
    (dependsOn_iff distinct (List.getElem?_eq_getElem place.isLt)
      (List.getElem?_eq_getElem earlier.isLt)).2 h
  have hleads : ∀ first : Fin models.length, first.val ∉ (search models).taken →
      ∃ second, waits first second ∧ second.val ∉ (search models).taken := by
    intro first hfirst
    obtain ⟨earlier, hbefore, hfree⟩ := exists_before_not_taken first.isLt hfirst
    exact ⟨⟨earlier, (lt_and_ne_of_mem_before hbefore).1⟩, hbefore, hfree⟩
  obtain ⟨hplace, rfl⟩ := List.getElem?_eq_some_iff.1 hmodel
  have hstart : (⟨place, hplace⟩ : Fin models.length).val ∉ (search models).taken := hnot
  obtain ⟨other, hpath, hcycle⟩ := exists_cycle_of_leads_on hleads hstart
  exact ⟨models[other], hpath.lift (fun place => models[place]) hwaits,
    hcycle.lift (fun place => models[place]) hwaits⟩

theorem mem_taken_of_not_cyclic (distinct : (models.map Model.table).Nodup)
    (hacyclic : ¬ Cyclic models) {place : Nat} (hplace : place < models.length) :
    place ∈ (search models).taken := by
  by_contra hnot
  obtain ⟨other, -, hcycle⟩ := blocked_of_not_taken distinct (List.getElem?_eq_getElem hplace) hnot
  exact hacyclic ⟨other, hcycle⟩

theorem exists_dependencyOrder_iff (distinct : (models.map Model.table).Nodup) :
    (∃ order, dependencyOrder models = .ok order) ↔ ¬ Cyclic models := by
  constructor
  · rintro ⟨order, h⟩
    exact (dependencyOrder_isOrder distinct h).not_cyclic (.of_map _ distinct)
  · intro hacyclic
    refine ⟨_, dependencyOrder_eq_ok_iff.2 ⟨?_, rfl⟩⟩
    have hsubset : List.range models.length ⊆ (search models).taken := fun place hplace =>
      mem_taken_of_not_cyclic distinct hacyclic (List.mem_range.1 hplace)
    have hle := (List.subperm_of_subset List.nodup_range hsubset).length_le
    rw [List.length_range] at hle
    exact Nat.le_antisymm (search_valid models).length_taken_le hle

/-! ## Links that have a say -/

/-- Whether a field holds back its model until another model of the list is taken. -/
def isBinding (models : List Model) (model : Model) (field : Field) : Bool :=
  field.kind == .foreignKey && field.required &&
    field.target.any fun table =>
      table != model.table && models.any fun target => target.table == table

def bindingOnly (models : List Model) (model : Model) : Model :=
  { model with fields := model.fields.filter (isBinding models model) }

@[simp] theorem bindingOnly_table (models : List Model) (model : Model) :
    (bindingOnly models model).table = model.table := rfl

@[simp] theorem bindingOnly_label (models : List Model) (model : Model) :
    (bindingOnly models model).label = model.label := rfl

theorem placeOf?_eq_none {table : String} (h : ∀ model ∈ models, model.table ≠ table) :
    placeOf? models table = none := by
  cases hplace : placeOf? models table with
  | none => rfl
  | some place =>
      obtain ⟨model, hmodel, htable⟩ := placeOf?_eq_some hplace
      exact absurd htable (h model (List.mem_of_getElem? hmodel))

def placeBefore? (models : List Model) (model : Model) (field : Field) : Option Nat :=
  if field.kind == .foreignKey && field.required then
    field.target.bind fun table => if table != model.table then placeOf? models table else none
  else
    none

theorem placesBefore_eq (models : List Model) (model : Model) :
    model.requiredTargets.filterMap (placeOf? models) =
      model.fields.filterMap (placeBefore? models model) := by
  simp only [Model.requiredTargets, List.filterMap_filter, List.filterMap_filterMap]
  refine List.filterMap_congr fun field _ => ?_
  unfold placeBefore?
  split <;> rfl

theorem placeBefore?_eq_none {model : Model} {field : Field}
    (h : ¬ isBinding models model field = true) : placeBefore? models model field = none := by
  unfold placeBefore?
  split
  · next hlink =>
    rw [Option.bind_eq_none_iff]
    intro table htarget
    split
    · next hother =>
      apply placeOf?_eq_none
      intro target hmem htable
      apply h
      simp only [isBinding, hlink, htarget, Option.any_some, hother, Bool.true_and]
      exact List.any_eq_true.2 ⟨target, hmem, by simpa using htable⟩
    · rfl
  · rfl

theorem placesBefore_bindingOnly (models : List Model) (model : Model) :
    (bindingOnly models model).requiredTargets.filterMap (placeOf? models) =
      model.requiredTargets.filterMap (placeOf? models) := by
  rw [placesBefore_eq, placesBefore_eq]
  simp only [bindingOnly, List.filterMap_filter]
  refine List.filterMap_congr fun field _ => ?_
  split
  · rfl
  · next hloose => exact (placeBefore?_eq_none hloose).symm

theorem placeOf?_map {f : Model → Model} (hf : ∀ model, (f model).table = model.table)
    (models : List Model) (table : String) :
    placeOf? (models.map f) table = placeOf? models table := by
  simp [placeOf?, List.zipIdx_map, ← List.map_reverse, List.find?_map, Function.comp_def, hf]

theorem before_map {f : Model → Model} (htable : ∀ model, (f model).table = model.table)
    (hplaces : ∀ model ∈ models, (f model).requiredTargets.filterMap (placeOf? models) =
      model.requiredTargets.filterMap (placeOf? models)) : before (models.map f) = before models := by
  funext place
  unfold before
  rw [List.getElem?_map]
  cases hmodel : models[place]? with
  | none => rfl
  | some model =>
      have hsame : placeOf? (models.map f) = placeOf? models := funext (placeOf?_map htable models)
      simp only [Option.map_some, hsame, hplaces model (List.mem_of_getElem? hmodel)]

/-- The search sees nothing of the models but how many there are and which come before which. -/
theorem search_congr {others : List Model} (hlength : others.length = models.length)
    (hbefore : before others = before models) : search others = search models := by
  have hafter : after others = after models := by
    funext place
    simp only [after, hlength, hbefore]
  have hstep : Search.step others = Search.step models := by
    funext state
    simp only [Search.step, Search.take, hafter]
  have hrun : ∀ fuel state, Search.run others fuel state = Search.run models fuel state := by
    intro fuel
    induction fuel with
    | zero => intro state; rfl
    | succ fuel ih =>
        intro state
        simp only [Search.run, hstep, ih]
  simp only [search, hrun, stepBound, Search.start, hlength, hbefore]

theorem modelsAt_map (f : Model → Model) (models : List Model) (places : List Nat) :
    modelsAt (models.map f) places = (modelsAt models places).map f := by
  simp [modelsAt, List.map_filterMap]

theorem dependencyOrder_map {f : Model → Model} (htable : ∀ model, (f model).table = model.table)
    (hlabel : ∀ model, (f model).label = model.label)
    (hplaces : ∀ model ∈ models, (f model).requiredTargets.filterMap (placeOf? models) =
      model.requiredTargets.filterMap (placeOf? models)) :
    dependencyOrder (models.map f) = (dependencyOrder models).map (List.map f) := by
  have hsearch : search (models.map f) = search models :=
    search_congr (List.length_map _) (before_map htable hplaces)
  simp only [dependencyOrder, hsearch, modelsAt_map, List.length_map]
  by_cases h : (search models).taken.length = models.length
  · simp [h, Except.map]
  · simp [h, Except.map, Function.comp_def, hlabel]

/--
Optional links, links to a model's own table and links out of the list have no say in the order.
-/
theorem dependencyOrder_map_bindingOnly (models : List Model) :
    dependencyOrder (models.map (bindingOnly models)) =
      (dependencyOrder models).map (List.map (bindingOnly models)) :=
  dependencyOrder_map (bindingOnly_table models) (bindingOnly_label models) fun model _ =>
    placesBefore_bindingOnly models model

/-! ## The dependency order -/

/--
A list of models with distinct tables has a dependency order exactly when it has no cycle.  The
order lists each model once and behind those that it depends on, fields that hold no model back
do not matter to it, and no counter is ever lowered that is not above zero.
-/
theorem dependencyOrder_topological (distinct : (models.map Model.table).Nodup) :
    ((∃ order, dependencyOrder models = .ok order) ↔ ¬ Cyclic models) ∧
      (∀ order, dependencyOrder models = .ok order →
        order.Perm models ∧
          ∀ earlier model later, order = earlier ++ model :: later →
            ∀ target, DependsOn models model target → target ∈ earlier) ∧
      dependencyOrder (models.map (bindingOnly models)) =
        (dependencyOrder models).map (List.map (bindingOnly models)) ∧
      ∀ state, Search.Reachable models state →
        ∀ place pending, state.pending = place :: pending →
          ∃ count, state.counters[place]? = some (count + 1) := by
  refine ⟨exists_dependencyOrder_iff distinct, fun order h => ⟨dependencyOrder_perm h, ?_⟩,
    dependencyOrder_map_bindingOnly models, fun state hreachable place pending hpending =>
      hreachable.counter_pos hpending⟩
  intro earlier model later hsplit target hdepends
  exact dependencyOrder_ordered distinct h hsplit hdepends

/-- Posts that require an author, and authors that may have a favourite post, are no cycle. -/
theorem dependencyOrder_author_first :
    let post := (Model.ofName "blog" "post").addField
      { name := "author", kind := .foreignKey, target := some "author" }
    let author := (Model.ofName "blog" "author").addField
      { name := "favourite", kind := .foreignKey, required := false, target := some "post" }
    ([post, author].map Model.table).Nodup ∧ dependencyOrder [post, author] = .ok [author, post] ∧
      ¬ Cyclic [post, author] := by
  intro post author
  have horder : dependencyOrder [post, author] = .ok [author, post] := by decide
  exact ⟨by decide, horder, (dependencyOrder_topological (by decide)).1.1 ⟨_, horder⟩⟩

end Order

end SampleData
