import SampleData.Proofs.Order.Acyclic

/-!
# Models that block each other

When models have no dependency order, the failure names those that no order could have placed: the
models on a cycle and the models that come to one through the models that they depend on.  They
are what the search has left over, which it cannot take and does not have to look for.
-/

namespace SampleData

namespace Order

variable {models : List Model}

/-! ## Places that are left over -/

namespace Search

variable {search : Search}

theorem Reachable.length_counters (h : Reachable models search) :
    search.counters.length = models.length := by
  induction h with
  | refl => simp [start]
  | tail _ hstep ih =>
      rcases step_cases hstep with ⟨place, pending, -, rfl⟩ | ⟨place, ready, -, -, rfl⟩
      · rw [← ih]
        exact List.length_modify ..
      · exact ih

end Search

/-- At the end of the search exactly the places that were not taken have counters above zero. -/
theorem mem_blocked_iff {place : Nat} :
    place ∈ (search models).blocked ↔ place < models.length ∧ place ∉ (search models).taken := by
  obtain ⟨hpending, hready⟩ := search_ended models
  have valid := search_valid models
  simp only [Search.blocked, (search_reachable models).length_counters, List.mem_filter,
    List.mem_range, bne_iff_ne, and_congr_right_iff]
  intro hplace
  have hzero : (search models).counters[place]? = some 0 ↔
      ∀ earlier ∈ before models place, earlier ∈ (search models).taken := by
    rw [valid.counters place hplace, ← Search.remaining_eq_zero_iff]
    simp [hpending]
  constructor
  · intro hcounter htaken
    exact hcounter (hzero.2 (valid.before_taken htaken))
  · intro hfree hcounter
    have hmem := (valid.ready place).2 ⟨hplace, hfree, hcounter⟩
    simp [hready] at hmem

theorem nodup_modelsAt (nodup : models.Nodup) {places : List Nat} (h : places.Nodup) :
    (modelsAt models places).Nodup := by
  refine h.filterMap fun first second model hfirst hsecond => ?_
  rw [← idxOf_eq_of_getElem? nodup hfirst, idxOf_eq_of_getElem? nodup hsecond]

/-! ## Models that are taken -/

/-- The models that are taken stand in an order, be it of some models of the list only. -/
theorem isOrder_taken (distinct : (models.map Model.table).Nodup) :
    let order := modelsAt models (search models).taken.reverse
    IsOrder order order := by
  intro order
  have hsubset : order ⊆ models := fun model hmodel => by
    obtain ⟨place, -, hget⟩ := List.mem_filterMap.1 hmodel
    exact List.mem_of_getElem? hget
  exact ⟨.refl _, fun _ _ _ hsplit _ hdepends => taken_ordered distinct hsplit (hdepends.mono hsubset)⟩

/-- Where a list holds all that its models depend on, no path leads out of it. -/
theorem path_within {order : List Model}
    (closed : ∀ model ∈ order, ∀ target, DependsOn models model target → target ∈ order)
    {model target : Model} (hmodel : model ∈ order)
    (hpath : Relation.TransGen (DependsOn models) model target) :
    target ∈ order ∧ Relation.TransGen (DependsOn order) model target := by
  induction hpath with
  | single hdepends =>
      have htarget := closed model hmodel _ hdepends
      exact ⟨htarget, .single ⟨hmodel, htarget, hdepends.2.2⟩⟩
  | tail _ hdepends ih =>
      obtain ⟨hlast, hwithin⟩ := ih
      have htarget := closed _ hlast _ hdepends
      exact ⟨htarget, hwithin.tail ⟨hlast, htarget, hdepends.2.2⟩⟩

theorem not_blocked_of_taken (distinct : (models.map Model.table).Nodup) {model : Model}
    (hmodel : model ∈ modelsAt models (search models).taken.reverse) : ¬ Blocked models model := by
  have nodup : models.Nodup := .of_map _ distinct
  have horder := isOrder_taken distinct
  generalize hsame : modelsAt models (search models).taken.reverse = order at hmodel horder
  have closed : ∀ model ∈ order, ∀ target, DependsOn models model target → target ∈ order := by
    intro model hmodel target hdepends
    obtain ⟨earlier, later, hsplit⟩ := List.append_of_mem hmodel
    have hearlier := taken_ordered distinct (hsame.trans hsplit) hdepends
    rw [hsplit]
    exact List.mem_append_left _ hearlier
  have hnodup : order.Nodup :=
    hsame ▸ nodup_modelsAt nodup (List.nodup_reverse.2 (search_valid models).nodup)
  -- A path from a taken model stays among those taken, and so would the cycle that it comes to.
  rintro ⟨other, hpath, hcycle⟩
  have hother : other ∈ order := by
    rcases Relation.reflTransGen_iff_eq_or_transGen.1 hpath with rfl | hpath
    · exact hmodel
    · exact (path_within closed hmodel hpath).1
  exact horder.not_cyclic hnodup ⟨other, (path_within closed hother hcycle).2⟩

/-! ## Models that are left over -/

theorem mem_modelsAt_blocked_iff (distinct : (models.map Model.table).Nodup) {model : Model} :
    model ∈ modelsAt models (search models).blocked ↔ model ∈ models ∧ Blocked models model := by
  have nodup : models.Nodup := .of_map _ distinct
  constructor
  · intro hmem
    obtain ⟨place, hplace, hmodel⟩ := List.mem_filterMap.1 hmem
    exact ⟨List.mem_of_getElem? hmodel, blocked_of_not_taken distinct hmodel (mem_blocked_iff.1 hplace).2⟩
  · rintro ⟨hmem, hblocked⟩
    obtain ⟨place, hmodel⟩ := List.mem_iff_getElem?.1 hmem
    refine (mem_modelsAt_iff nodup hmodel).2 (mem_blocked_iff.2 ⟨?_, fun htaken => ?_⟩)
    · exact (List.getElem?_eq_some_iff.1 hmodel).1
    · have hin := (mem_modelsAt_iff nodup hmodel).2 (List.mem_reverse.2 htaken)
      exact not_blocked_of_taken distinct hin hblocked

theorem modelsAt_blocked_sublist (models : List Model) :
    (modelsAt models (search models).blocked).Sublist models := by
  have hplaces : (search models).blocked.Sublist (List.range models.length) := by
    rw [Search.blocked, (search_reachable models).length_counters]
    exact List.filter_sublist
  have hmodels := hplaces.filterMap fun place => models[place]?
  rwa [← modelsAt, ← modelsAt, modelsAt_range] at hmodels

/--
Where models with distinct tables have no order, the failure lists the labels of models that stand
as they were discovered and each once.  They are the models on a cycle and those that depend on one
of them, at once or through others, and there always is one; no other model is named.
-/
theorem dependencyOrder_blocked (distinct : (models.map Model.table).Nodup) {failure : Failure}
    (h : dependencyOrder models = .error failure) :
    ∃ blocked : List Model,
      failure = .circular (blocked.map Model.label) ∧
      failure.message = "circular required relationships between models: " ++
        ", ".intercalate (blocked.map Model.label) ∧
      blocked.Sublist models ∧ blocked.Nodup ∧ blocked ≠ [] ∧
      ∀ model, model ∈ blocked ↔ model ∈ models ∧ Blocked models model := by
  have nodup : models.Nodup := .of_map _ distinct
  have hsublist := modelsAt_blocked_sublist models
  obtain ⟨-, rfl⟩ := dependencyOrder_eq_error_iff.1 h
  refine ⟨_, rfl, rfl, hsublist, nodup.sublist hsublist, ?_, fun model =>
    mem_modelsAt_blocked_iff distinct⟩
  have hcyclic : Cyclic models := by
    by_contra hacyclic
    obtain ⟨order, horder⟩ := (exists_dependencyOrder_iff distinct).2 hacyclic
    rw [horder] at h
    cases h
  obtain ⟨model, hcycle⟩ := hcyclic
  obtain ⟨next, hdepends, -⟩ := Relation.TransGen.head'_iff.1 hcycle
  exact List.ne_nil_of_mem
    ((mem_modelsAt_blocked_iff distinct).2 ⟨hdepends.1, model, .refl, hcycle⟩)

/--
Hens and eggs come from each other and an omelette waits for its egg, but the farm stands apart.
-/
theorem dependencyOrder_blocked_hen_and_egg :
    let link (name : String) : Field := { name, kind := .foreignKey, target := some name }
    let farm := Model.ofName "food" "farm"
    let omelette := (Model.ofName "food" "omelette").addField (link "egg")
    let hen := (Model.ofName "food" "hen").addField (link "egg")
    let egg := (Model.ofName "food" "egg").addField (link "hen")
    let models := [farm, omelette, hen, egg]
    (models.map Model.table).Nodup ∧
      dependencyOrder models = .error (.circular ["food.omelette", "food.hen", "food.egg"]) ∧
      Blocked models omelette ∧ ¬ Blocked models farm := by
  intro link farm omelette hen egg models
  have hdistinct : (models.map Model.table).Nodup := by decide
  have herror : dependencyOrder models =
      .error (.circular ["food.omelette", "food.hen", "food.egg"]) := by decide
  obtain ⟨blocked, hfailure, -, hsublist, -, -, hblocked⟩ := dependencyOrder_blocked hdistinct herror
  have hlabels : ["food.omelette", "food.hen", "food.egg"] = blocked.map Model.label :=
    Failure.circular.inj hfailure
  refine ⟨hdistinct, herror, ?_, fun hfarm => ?_⟩
  · have hnamed : "food.omelette" ∈ blocked.map Model.label := by simp [← hlabels]
    obtain ⟨model, hmodel, hlabel⟩ := List.mem_map.1 hnamed
    have hsame : ∀ model ∈ models, model.label = "food.omelette" → model = omelette := by decide
    obtain rfl := hsame model (hsublist.subset hmodel) hlabel
    exact ((hblocked _).1 hmodel).2
  · have hmem := List.mem_map_of_mem (f := Model.label) ((hblocked farm).2 ⟨by simp [models], hfarm⟩)
    rw [← hlabels] at hmem
    exact absurd hmem (by decide)

end Order

end SampleData
