import Mathlib.Data.List.Lex
import SampleData.Proofs.Order.Acyclic

/-!
# The least of all orders

Many orders may put every model behind those that it depends on.  The one that is found takes at
each turn the earliest discovered model that can be taken, and therefore comes first among them
when orders are compared place by place.  Models that stand in such an order already keep it.
-/

namespace SampleData

namespace Order

namespace Search

variable {models : List Model} {search next : Search}

/-! ## The place that is taken next -/

/-- Each place was taken when it was the first of those that could be. -/
def TakesFirst (models : List Model) (search : Search) : Prop :=
  ∀ later place earlier, search.taken = later ++ place :: earlier →
    ∀ other, other < models.length → other ∉ earlier →
      (∀ target ∈ before models other, target ∈ earlier) → place ≤ other

theorem takesFirst_start (models : List Model) : TakesFirst models (start models) := by
  simp [TakesFirst, start]

/-- While nothing is pending, those places are ready that wait for none that is not taken. -/
theorem Valid.mem_ready_iff (valid : Valid models search) (hpending : search.pending = [])
    {place : Nat} : place ∈ search.ready ↔
      place < models.length ∧ place ∉ search.taken ∧
        ∀ target ∈ before models place, target ∈ search.taken := by
  rw [valid.ready place, and_congr_right_iff]
  intro hplace
  rw [valid.counters place hplace, hpending, ← remaining_eq_zero_iff]
  simp

theorem TakesFirst.step (h : TakesFirst models search) (valid : Valid models search)
    (hstep : search.step models = some next) : TakesFirst models next := by
  rcases step_cases hstep with ⟨place, pending, -, rfl⟩ | ⟨place, ready, hpending, hready, rfl⟩
  · exact h
  · intro later taken earlier hsplit other hother hfree hdone
    cases later with
    | nil =>
        obtain ⟨rfl, rfl⟩ := List.cons.inj hsplit
        have hmem := (valid.mem_ready_iff hpending).2 ⟨hother, hfree, hdone⟩
        have hleast := (List.pairwise_cons.1 (hready ▸ valid.ascending)).1
        rw [hready] at hmem
        rcases List.mem_cons.1 hmem with rfl | hmem
        · exact Nat.le_refl _
        · exact Nat.le_of_lt (hleast other hmem)
    | cons latest later =>
        obtain ⟨-, hrest⟩ := List.cons.inj hsplit
        exact h later taken earlier hrest other hother hfree hdone

theorem Reachable.takesFirst (h : Reachable models search) : TakesFirst models search := by
  induction h with
  | refl => exact takesFirst_start models
  | tail hreached hstep ih => exact ih.step (Reachable.valid hreached) hstep

end Search

/-! ## Orders -/

structure IsReady (models done : List Model) (model : Model) : Prop where
  mem : model ∈ models
  waits : model ∉ done
  free : ∀ target, DependsOn models model target → target ∈ done

/-- All models of a list, each the earliest discovered of those that are ready at its turn. -/
structure IsGreedy (models order : List Model) : Prop where
  perm : order.Perm models
  ready : ∀ earlier model later, order = earlier ++ model :: later → IsReady models earlier model
  first : ∀ earlier model later, order = earlier ++ model :: later →
    ∀ other, IsReady models earlier other → models.idxOf model ≤ models.idxOf other

def discovered (models order : List Model) : List Nat :=
  order.map fun model => models.idxOf model

/-- The order that comes first, place by place, among all orders of a list. -/
structure IsLeast (models order : List Model) : Prop extends IsOrder models order where
  least : ∀ other, IsOrder models other → other ≠ order →
    List.Lex (· < ·) (discovered models order) (discovered models other)

variable {models order other : List Model}

theorem IsGreedy.isOrder (h : IsGreedy models order) : IsOrder models order :=
  ⟨h.perm, fun earlier model later hsplit => (h.ready earlier model later hsplit).free⟩

/-- Where two orders part, the greedy one goes on with the model discovered first. -/
theorem lex_of_isGreedy (nodup : models.Nodup) (done : List Model) {rest others : List Model}
    (hgreedy : IsGreedy models (done ++ rest)) (horder : IsOrder models (done ++ others))
    (hne : others ≠ rest) :
    List.Lex (· < ·) (discovered models rest) (discovered models others) := by
  induction rest generalizing done others with
  | nil =>
      have hlength := (hgreedy.perm.trans horder.perm.symm).length_eq
      simp only [List.length_append, List.length_nil] at hlength
      exact absurd (List.length_eq_zero_iff.1 (by omega)) hne
  | cons model rest ih =>
      cases others with
      | nil =>
          have hlength := (hgreedy.perm.trans horder.perm.symm).length_eq
          simp at hlength
      | cons other others =>
          by_cases hsame : other = model
          · subst hsame
            refine List.Lex.cons (ih (done ++ [other]) ?_ ?_ fun h => hne (h ▸ rfl))
            · simpa using hgreedy
            · simpa using horder
          · have hnot : other ∉ done := not_mem_front (horder.perm.nodup_iff.2 nodup)
            have hmem : other ∈ models := horder.perm.subset (by simp)
            have hle := hgreedy.first done model rest rfl other
              ⟨hmem, hnot, horder.behind done other others rfl⟩
            have hplaces : models.idxOf model ≠ models.idxOf other := fun h =>
              hsame ((List.idxOf_inj hmem).1 h.symm)
            exact List.Lex.rel (Nat.lt_of_le_of_ne hle hplaces)

theorem IsGreedy.isLeast (nodup : models.Nodup) (h : IsGreedy models order) : IsLeast models order where
  toIsOrder := h.isOrder
  least := fun _ hother hne => lex_of_isGreedy nodup [] h hother hne

theorem IsLeast.eq (h : IsLeast models order) (hother : IsLeast models other) : other = order := by
  by_contra hne
  have hafter := h.least other hother.toIsOrder hne
  exact List.lex_asymm Nat.lt_asymm hafter (hother.least order h.toIsOrder (Ne.symm hne))

/--
Models that stand in an order are each ready at their turn, and all behind were discovered
later.
-/
theorem IsOrder.isGreedy_self (nodup : models.Nodup) (h : IsOrder models models) :
    IsGreedy models models where
  perm := .refl _
  ready := by
    intro earlier model later hsplit
    have hnot : model ∉ earlier := not_mem_front (hsplit ▸ nodup)
    exact ⟨by simp [hsplit], hnot, h.behind earlier model later hsplit⟩
  first := by
    intro earlier model later hsplit other hother
    have hnot : model ∉ earlier := not_mem_front (hsplit ▸ nodup)
    have hown : models.idxOf model = earlier.length := by
      rw [hsplit, List.idxOf_append_of_notMem hnot, List.idxOf_cons_self, Nat.add_zero]
    have hbehind : models.idxOf other = earlier.length + (model :: later).idxOf other := by
      rw [hsplit, List.idxOf_append_of_notMem hother.waits]
    omega

/-! ## The order that is found -/

theorem exists_places_of_split {places : List Nat} {earlier later : List Model} {model : Model}
    (h : modelsAt models places = earlier ++ model :: later) :
    ∃ front place back, places = front ++ place :: back ∧ modelsAt models front = earlier ∧
      models[place]? = some model := by
  obtain ⟨front, others, rfl, hfront, hothers⟩ := List.filterMap_eq_append_iff.1 h
  obtain ⟨gap, place, back, rfl, hgap, hmodel, -⟩ := List.filterMap_eq_cons_iff.1 hothers
  refine ⟨front ++ gap, place, back, by simp, ?_, hmodel⟩
  rw [modelsAt, List.filterMap_append, List.filterMap_eq_nil_iff.2 hgap, List.append_nil]
  exact hfront

theorem dependencyOrder_isGreedy (distinct : (models.map Model.table).Nodup)
    (h : dependencyOrder models = .ok order) : IsGreedy models order := by
  have nodup : models.Nodup := .of_map _ distinct
  have horder := dependencyOrder_isOrder distinct h
  obtain ⟨-, hmodels⟩ := dependencyOrder_eq_ok_iff.1 h
  refine ⟨horder.perm, fun earlier model later hsplit => ?_, fun earlier model later hsplit => ?_⟩
  · have hmem : model ∈ models := horder.perm.subset (by simp [hsplit])
    have hnot : model ∉ earlier := not_mem_front (hsplit ▸ horder.perm.nodup_iff.2 nodup)
    exact ⟨hmem, hnot, horder.behind earlier model later hsplit⟩
  · intro other hother
    rw [hsplit] at hmodels
    obtain ⟨front, place, back, hplaces, rfl, hmodel⟩ := exists_places_of_split hmodels
    have htaken : (search models).taken = back.reverse ++ place :: front.reverse := by
      rw [← List.reverse_reverse (search models).taken, hplaces]
      simp
    obtain ⟨found, hfound⟩ := List.mem_iff_getElem?.1 hother.mem
    have hlt : found < models.length := (List.getElem?_eq_some_iff.1 hfound).1
    have hfree : found ∉ front.reverse := fun hin =>
      hother.waits ((mem_modelsAt_iff nodup hfound).2 (List.mem_reverse.1 hin))
    have hdone : ∀ target ∈ before models found, target ∈ front.reverse := by
      intro target htarget
      have hget := List.getElem?_eq_getElem (lt_and_ne_of_mem_before htarget).1
      have hin := hother.free _ ((dependsOn_iff distinct hfound hget).2 htarget)
      exact List.mem_reverse.2 ((mem_modelsAt_iff nodup hget).1 hin)
    rw [idxOf_eq_of_getElem? nodup hmodel, idxOf_eq_of_getElem? nodup hfound]
    exact (search_reachable models).takesFirst _ _ _ htaken found hlt hfree hdone

theorem exists_isGreedy (distinct : (models.map Model.table).Nodup) (acyclic : ¬ Cyclic models) :
    ∃ order, dependencyOrder models = .ok order ∧ IsGreedy models order := by
  obtain ⟨order, horder⟩ := (exists_dependencyOrder_iff distinct).2 acyclic
  exact ⟨order, horder, dependencyOrder_isGreedy distinct horder⟩

theorem dependencyOrder_eq_ok_iff_isLeast (distinct : (models.map Model.table).Nodup) :
    dependencyOrder models = .ok order ↔ IsLeast models order := by
  have nodup : models.Nodup := .of_map _ distinct
  constructor
  · exact fun h => (dependencyOrder_isGreedy distinct h).isLeast nodup
  · intro h
    obtain ⟨found, hfound, hgreedy⟩ := exists_isGreedy distinct (h.toIsOrder.not_cyclic nodup)
    rwa [h.eq (hgreedy.isLeast nodup)] at hfound

theorem isLeast_iff_isGreedy (distinct : (models.map Model.table).Nodup) :
    IsLeast models order ↔ IsGreedy models order :=
  ⟨fun h => dependencyOrder_isGreedy distinct ((dependencyOrder_eq_ok_iff_isLeast distinct).2 h),
    fun h => h.isLeast (.of_map _ distinct)⟩

theorem dependencyOrder_of_isOrder (distinct : (models.map Model.table).Nodup)
    (h : IsOrder models models) : dependencyOrder models = .ok models := by
  have nodup : models.Nodup := .of_map _ distinct
  exact (dependencyOrder_eq_ok_iff_isLeast distinct).2 ((h.isGreedy_self nodup).isLeast nodup)

theorem IsOrder.isOrder_self (h : IsOrder models order) : IsOrder order order where
  perm := .refl _
  behind := fun earlier model later hsplit target hdepends =>
    h.behind earlier model later hsplit target (hdepends.mono h.perm.subset)

/--
Models without a cycle have one order in which each is the earliest discovered of those that are
ready at its turn.  It is the order that is found, and the least of all orders that put models
behind those they depend on.  Models that stand in such an order already are left as they are, and so
is an order that was found.
-/
theorem dependencyOrder_least (distinct : (models.map Model.table).Nodup) (acyclic : ¬ Cyclic models) :
    (∃ order, dependencyOrder models = .ok order) ∧
      (∀ order, dependencyOrder models = .ok order ↔ IsGreedy models order) ∧
      (∀ order, dependencyOrder models = .ok order ↔ IsLeast models order) ∧
      (IsOrder models models → dependencyOrder models = .ok models) ∧
      ∀ order, dependencyOrder models = .ok order → dependencyOrder order = .ok order := by
  refine ⟨(exists_dependencyOrder_iff distinct).2 acyclic, fun order => ?_,
    fun order => dependencyOrder_eq_ok_iff_isLeast distinct, dependencyOrder_of_isOrder distinct,
    fun order h => ?_⟩
  · rw [dependencyOrder_eq_ok_iff_isLeast distinct, isLeast_iff_isGreedy distinct]
  · have horder := dependencyOrder_isOrder distinct h
    have htables := (horder.perm.map Model.table).nodup_iff.2 distinct
    exact dependencyOrder_of_isOrder htables horder.isOrder_self

/--
A post goes right behind its author, in front of a tag that was ready all the time but
discovered later.
-/
theorem dependencyOrder_least_post_before_tag :
    let post := (Model.ofName "blog" "post").addField
      { name := "author", kind := .foreignKey, target := some "author" }
    let author := Model.ofName "blog" "author"
    let tag := Model.ofName "blog" "tag"
    let models := [post, author, tag]
    let order := [author, post, tag]
    (models.map Model.table).Nodup ∧ ¬ Cyclic models ∧ dependencyOrder models = .ok order ∧
      IsLeast models order ∧ dependencyOrder order = .ok order := by
  intro post author tag models order
  have hdistinct : (models.map Model.table).Nodup := by decide
  have horder : dependencyOrder models = .ok order := by decide
  have hacyclic : ¬ Cyclic models := (exists_dependencyOrder_iff hdistinct).1 ⟨order, horder⟩
  obtain ⟨-, -, hleast, -, hagain⟩ := dependencyOrder_least hdistinct hacyclic
  exact ⟨hdistinct, hacyclic, horder, (hleast order).1 horder, hagain order horder⟩

end Order

end SampleData
