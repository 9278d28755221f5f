import Mathlib.Data.List.Basic
import Mathlib.Data.List.Nodup
import Mathlib.Data.List.Perm.Subperm
import Mathlib.Logic.Relation
import SampleData.Order

/-!
# The search for a dependency order

What every state of the search keeps: a counter says how many places before its place are still
to be taken, plus one while the place is pending; a place is taken after the places before it;
and the ready places are those not taken whose counters are zero.  From this the search ends,
and no counter is lowered below zero on the way.
-/

namespace SampleData

theorem nodup_eraseDups {α : Type} [BEq α] [LawfulBEq α] (elements : List α) :
    elements.eraseDups.Nodup := by
  induction hlen : elements.length using Nat.strongRecOn generalizing elements with
  | ind len ih =>
      cases elements with
      | nil => simp
      | cons first rest =>
          rw [List.eraseDups_cons, List.nodup_cons]
          constructor
          · simp
          · subst hlen
            exact ih _ (Nat.lt_succ_of_le (List.length_filter_le _ _)) _ rfl

namespace Order

/-! ## Places -/

theorem placeOf?_eq_some {models : List Model} {table : String} {place : Nat}
    (h : placeOf? models table = some place) :
    ∃ model, models[place]? = some model ∧ model.table = table := by
  obtain ⟨⟨model, found⟩, hfind, hplace⟩ := Option.map_eq_some_iff.1 h
  have htable := List.find?_some hfind
  have hmem := List.mem_of_find?_eq_some hfind
  rw [List.mem_reverse, List.mem_zipIdx_iff_getElem?] at hmem
  exact ⟨model, by simpa [← hplace] using hmem, by simpa using htable⟩

theorem mem_requiredTargets_iff {model : Model} {table : String} :
    table ∈ model.requiredTargets ↔
      (∃ field ∈ model.fields, field.kind = .foreignKey ∧ field.required = true ∧
        field.target = some table) ∧ table ≠ model.table := by
  simp [Model.requiredTargets, and_assoc]

theorem nodup_before (models : List Model) (place : Nat) : (before models place).Nodup := by
  unfold before
  split
  · exact List.nodup_nil
  · exact nodup_eraseDups _

theorem mem_before_iff {models : List Model} {place earlier : Nat} :
    earlier ∈ before models place ↔
      ∃ model table, models[place]? = some model ∧ table ∈ model.requiredTargets ∧
        placeOf? models table = some earlier := by
  unfold before
  cases models[place]? with
  | none => simp
  | some model => simp [List.mem_eraseDups]

theorem lt_and_ne_of_mem_before {models : List Model} {place earlier : Nat}
    (h : earlier ∈ before models place) : earlier < models.length ∧ earlier ≠ place := by
  obtain ⟨model, table, hmodel, htarget, hplace⟩ := mem_before_iff.1 h
  obtain ⟨target, hget, htable⟩ := placeOf?_eq_some hplace
  refine ⟨(List.getElem?_eq_some_iff.1 hget).1, ?_⟩
  rintro rfl
  have hsame : target = model := by simpa [hget] using hmodel
  exact (mem_requiredTargets_iff.1 htarget).2 (by rw [← htable, hsame])

theorem before_eq_nil_of_le {models : List Model} {place : Nat} (h : models.length ≤ place) :
    before models place = [] := by
  simp [before, List.getElem?_eq_none h]

theorem mem_after_iff {models : List Model} {place later : Nat} :
    later ∈ after models place ↔ place ∈ before models later := by
  simp only [after, List.mem_filter, List.mem_range, List.contains_iff_mem, and_iff_right_iff_imp]
  intro h
  by_contra hout
  simp [before_eq_nil_of_le (Nat.le_of_not_lt hout)] at h

theorem nodup_after (models : List Model) (place : Nat) : (after models place).Nodup :=
  List.nodup_range.filter _

theorem length_after_le (models : List Model) (place : Nat) :
    (after models place).length ≤ models.length := by
  have h := List.length_filter_le (fun later => (before models later).contains place)
    (List.range models.length)
  rwa [List.length_range] at h

theorem mem_enter_iff {place other : Nat} {places : List Nat} :
    other ∈ enter place places ↔ other = place ∨ other ∈ places := by
  induction places with
  | nil => simp [enter]
  | cons first rest ih =>
      unfold enter
      split
      · simp
      · split
        · simp only [List.mem_cons, ih]
          tauto
        · have hsame : place = first := by omega
          simp [hsame]

theorem pairwise_enter {place : Nat} {places : List Nat} (h : places.Pairwise (· < ·)) :
    (enter place places).Pairwise (· < ·) := by
  induction places with
  | nil => simp [enter]
  | cons first rest ih =>
      obtain ⟨hfirst, hrest⟩ := List.pairwise_cons.1 h
      unfold enter
      split
      · refine List.pairwise_cons.2 ⟨fun other hother => ?_, h⟩
        rcases List.mem_cons.1 hother with rfl | hmem
        · assumption
        · have := hfirst other hmem
          omega
      · split
        · refine List.pairwise_cons.2 ⟨fun other hother => ?_, ih hrest⟩
          rcases mem_enter_iff.1 hother with rfl | hmem
          · assumption
          · exact hfirst other hmem
        · exact h

namespace Search

/-! ## What every step keeps -/

/-- How many of the places before a place are still to be taken. -/
def remaining (models : List Model) (taken : List Nat) (place : Nat) : Nat :=
  (before models place).countP fun earlier => !taken.contains earlier

/-- What holds of a search at every step. -/
structure Valid (models : List Model) (search : Search) : Prop where
  inside : ∀ place ∈ search.taken, place < models.length
  nodup : search.taken.Nodup
  ordered : ∀ later place earlier, search.taken = later ++ place :: earlier →
    ∀ target ∈ before models place, target ∈ earlier
  nodup_pending : search.pending.Nodup
  pending : ∀ place ∈ search.pending, place < models.length ∧ place ∉ search.taken
  counters : ∀ place, place < models.length →
    search.counters[place]? =
      some (remaining models search.taken place + if place ∈ search.pending then 1 else 0)
  ascending : search.ready.Pairwise (· < ·)
  ready : ∀ place, place ∈ search.ready ↔
    place < models.length ∧ place ∉ search.taken ∧ search.counters[place]? = some 0

variable {models : List Model} {search next : Search}

theorem remaining_nil (place : Nat) : remaining models [] place = (before models place).length := by
  simp [remaining]

theorem remaining_eq_zero_iff {taken : List Nat} {place : Nat} :
    remaining models taken place = 0 ↔ ∀ earlier ∈ before models place, earlier ∈ taken := by
  simp [remaining, List.countP_eq_zero]

/-- Of distinct targets, the one taken next is the only one that is open no longer. -/
theorem countP_open_cons {taken targets : List Nat} {first : Nat} (hfresh : first ∉ taken)
    (hnodup : targets.Nodup) :
    targets.countP (fun target => !taken.contains target) =
      targets.countP (fun target => !(first :: taken).contains target) +
        if first ∈ targets then 1 else 0 := by
  induction targets with
  | nil => simp
  | cons target rest ih =>
      obtain ⟨hnot, hrest⟩ := List.nodup_cons.1 hnodup
      have hrec := ih hrest
      by_cases hsame : target = first
      · subst hsame
        rw [if_neg hnot] at hrec
        rw [List.countP_cons, List.countP_cons, hrec]
        simp [hfresh]
      · have hiff : first ∈ target :: rest ↔ first ∈ rest := by simp [Ne.symm hsame]
        have hopen : (first :: taken).contains target = taken.contains target := by
          simp [hsame]
        rw [List.countP_cons, List.countP_cons, hrec, hopen]
        simp only [hiff]
        omega

/-- Taking a place is one place less for exactly the places that wait for it. -/
theorem remaining_cons {taken : List Nat} {first : Nat} (hfresh : first ∉ taken) (place : Nat) :
    remaining models taken place =
      remaining models (first :: taken) place + if place ∈ after models first then 1 else 0 := by
  simp only [mem_after_iff]
  exact countP_open_cons hfresh (nodup_before models place)

theorem Valid.before_taken (valid : Valid models search) {place : Nat}
    (h : place ∈ search.taken) : ∀ target ∈ before models place, target ∈ search.taken := by
  intro target htarget
  obtain ⟨later, earlier, hsplit⟩ := List.append_of_mem h
  rw [hsplit]
  exact List.mem_append_right _
    (List.mem_cons_of_mem _ (valid.ordered later place earlier hsplit target htarget))

theorem valid_start (models : List Model) : Valid models (start models) where
  inside := by simp [start]
  nodup := by simp [start]
  ordered := by simp [start]
  nodup_pending := by simp [start]
  pending := by simp [start]
  counters := by
    intro place hplace
    simp [start, hplace, remaining_nil]
  ascending := List.pairwise_lt_range.filter _
  ready := by
    intro place
    simp only [start, List.mem_filter, List.mem_range, List.not_mem_nil, not_false_eq_true,
      true_and]
    constructor
    · rintro ⟨hplace, hempty⟩
      simp_all
    · rintro ⟨hplace, hzero⟩
      simp_all

theorem Valid.lower (valid : Valid models search) {place : Nat} {pending : List Nat}
    (hpending : search.pending = place :: pending) :
    Valid models (search.lower place pending) := by
  obtain ⟨hnot, hnodup⟩ := List.nodup_cons.1 (hpending ▸ valid.nodup_pending)
  obtain ⟨hplace, hopen⟩ := valid.pending place (by simp [hpending])
  have hcounters : ∀ other, other < models.length →
      (search.counters.modify place Nat.pred)[other]? =
        some (remaining models search.taken other + if other ∈ pending then 1 else 0) := by
    intro other hother
    have hold := valid.counters other hother
    by_cases hsame : other = place
    · subst hsame
      simp [hold, hpending, hnot]
    · rw [List.getElem?_modify_ne _ _ (Ne.symm hsame), hold]
      simp [hpending, hsame]
  refine
    { inside := valid.inside
      nodup := valid.nodup
      ordered := valid.ordered
      nodup_pending := hnodup
      pending := fun other hother => valid.pending other (hpending ▸ List.mem_cons_of_mem _ hother)
      counters := hcounters
      ascending := ?_
      ready := ?_ }
  · simp only [Search.lower]
    split
    · exact pairwise_enter valid.ascending
    · exact valid.ascending
  · intro other
    simp only [Search.lower]
    by_cases hsame : other = place
    · subst hsame
      have hwas : other ∉ search.ready := fun h => by
        have hzero := ((valid.ready other).1 h).2.2
        simp [valid.counters other hplace, hpending] at hzero
      split
      · next hzero => simp only [mem_enter_iff, true_or, hplace, hopen, hzero, not_false_eq_true,
          and_self]
      · next hzero => simp only [hwas, hzero, and_false]
    · rw [List.getElem?_modify_ne _ _ (Ne.symm hsame), ← valid.ready other]
      split
      · simp [mem_enter_iff, hsame]
      · rfl

theorem Valid.take (valid : Valid models search) {place : Nat} {ready : List Nat}
    (hpending : search.pending = []) (hready : search.ready = place :: ready) :
    Valid models (search.take models place ready) := by
  obtain ⟨hplace, hopen, hzero⟩ := (valid.ready place).1 (by simp [hready])
  obtain ⟨hleast, hrest⟩ := List.pairwise_cons.1 (hready ▸ valid.ascending)
  have hdone : ∀ target ∈ before models place, target ∈ search.taken := by
    rw [valid.counters place hplace] at hzero
    simpa [hpending, remaining_eq_zero_iff] using hzero
  refine
    { inside := ?_
      nodup := List.nodup_cons.2 ⟨hopen, valid.nodup⟩
      ordered := ?_
      nodup_pending := nodup_after models place
      pending := ?_
      counters := ?_
      ascending := hrest
      ready := ?_ }
  · intro other hother
    rcases List.mem_cons.1 hother with rfl | hmem
    · exact hplace
    · exact valid.inside other hmem
  · intro later other earlier hsplit
    cases later with
    | nil =>
        obtain ⟨rfl, rfl⟩ := List.cons.inj hsplit
        exact hdone
    | cons latest later =>
        obtain ⟨-, hrest⟩ := List.cons.inj hsplit
        exact valid.ordered later other earlier hrest
  · intro other hother
    have hwaits := mem_after_iff.1 hother
    refine ⟨List.mem_range.1 (List.mem_filter.1 hother).1, fun hmem => ?_⟩
    rcases List.mem_cons.1 hmem with rfl | hmem
    · exact (lt_and_ne_of_mem_before hwaits).2 rfl
    · exact hopen (valid.before_taken hmem place hwaits)
  · intro other hother
    have hold := valid.counters other hother
    simp only [hpending, List.not_mem_nil, if_false, Nat.add_zero] at hold
    exact hold.trans (congrArg some (remaining_cons hopen other))
  · intro other
    have hold := valid.ready other
    simp only [hready, List.mem_cons] at hold
    simp only [Search.take, List.mem_cons, not_or]
    constructor
    · intro hmem
      obtain ⟨hother, hfree, hcounter⟩ := hold.1 (Or.inr hmem)
      have hlater := hleast other hmem
      exact ⟨hother, ⟨by omega, hfree⟩, hcounter⟩
    · rintro ⟨hother, ⟨hne, hfree⟩, hcounter⟩
      exact (hold.2 ⟨hother, hfree, hcounter⟩).resolve_left hne

/-! ## Steps -/

/--
Every step lowers the first pending counter or, when none is pending, takes the first ready
place.
-/
theorem step_cases (h : search.step models = some next) :
    (∃ place pending, search.pending = place :: pending ∧ next = search.lower place pending) ∨
      ∃ place ready, search.pending = [] ∧ search.ready = place :: ready ∧
        next = search.take models place ready := by
  unfold step at h
  cases hpending : search.pending with
  | cons place pending =>
      simp only [hpending, Option.some.injEq] at h
      exact Or.inl ⟨place, pending, rfl, h.symm⟩
  | nil =>
      cases hready : search.ready with
      | nil => simp [hpending, hready] at h
      | cons place ready =>
          simp only [hpending, hready, Option.some.injEq] at h
          exact Or.inr ⟨place, ready, rfl, rfl, h.symm⟩

theorem step_eq_none_iff : search.step models = none ↔ search.pending = [] ∧ search.ready = [] := by
  unfold step
  cases search.pending <;> cases search.ready <;> simp

theorem Valid.step (valid : Valid models search) (h : search.step models = some next) :
    Valid models next := by
  rcases step_cases h with ⟨place, pending, hpending, rfl⟩ | ⟨place, ready, hpending, hready, rfl⟩
  · exact valid.lower hpending
  · exact valid.take hpending hready

def Reachable (models : List Model) (search : Search) : Prop :=
  Relation.ReflTransGen (fun search next => search.step models = some next) (start models) search

theorem Reachable.valid (h : Reachable models search) : Valid models search := by
  induction h with
  | refl => exact valid_start models
  | tail _ hstep ih => exact ih.step hstep

/-- A counter is above zero whenever it is about to be lowered. -/
theorem Reachable.counter_pos (h : Reachable models search) {place : Nat} {pending : List Nat}
    (hpending : search.pending = place :: pending) :
    ∃ count, search.counters[place]? = some (count + 1) := by
  have hplace := (h.valid.pending place (by simp [hpending])).1
  exact ⟨_, by rw [h.valid.counters place hplace, if_pos (by simp [hpending])]⟩

/-! ## The end of the search -/

theorem Valid.length_taken_le (valid : Valid models search) :
    search.taken.length ≤ models.length := by
  have hsubset : search.taken ⊆ List.range models.length := fun place hplace =>
    List.mem_range.2 (valid.inside place hplace)
  simpa using (List.subperm_of_subset valid.nodup hsubset).length_le

/-- How many steps a search has still before it at most. -/
def work (models : List Model) (search : Search) : Nat :=
  (models.length - search.taken.length) * (models.length + 1) + search.pending.length

theorem work_start (models : List Model) : work models (start models) = stepBound models := by
  simp [work, start, stepBound]

theorem Valid.work_step (valid : Valid models search) (h : search.step models = some next) :
    work models next < work models search := by
  have hlength := (valid.step h).length_taken_le
  rcases step_cases h with ⟨place, pending, hpending, rfl⟩ | ⟨place, ready, hpending, hready, rfl⟩
  · simp [work, Search.lower, hpending]
  · have hafter := length_after_le models place
    simp only [Search.take, List.length_cons] at hlength
    have hleft : models.length - search.taken.length =
        models.length - (search.taken.length + 1) + 1 := by omega
    simp only [work, Search.take, hpending, List.length_cons, List.length_nil, hleft, Nat.add_mul]
    omega

theorem Reachable.run (h : Reachable models search) (fuel : Nat) :
    Reachable models (search.run models fuel) := by
  induction fuel generalizing search with
  | zero => exact h
  | succ fuel ih =>
      unfold Search.run
      cases hstep : search.step models with
      | none => exact h
      | some next => exact ih (h.tail hstep)

/-- With fuel for the work before it, a search goes on until there is no step left. -/
theorem Valid.step_run (valid : Valid models search) {fuel : Nat}
    (enough : work models search ≤ fuel) : (search.run models fuel).step models = none := by
  induction fuel generalizing search with
  | zero =>
      cases hstep : search.step models with
      | none => exact hstep
      | some next =>
          have hless := valid.work_step hstep
          omega
  | succ fuel ih =>
      unfold run
      cases hstep : search.step models with
      | none => exact hstep
      | some next =>
          have hless := valid.work_step hstep
          exact ih (valid.step hstep) (by omega)

end Search

theorem search_reachable (models : List Model) : Search.Reachable models (search models) :=
  Search.Reachable.run Relation.ReflTransGen.refl _

theorem search_valid (models : List Model) : Search.Valid models (search models) :=
  (search_reachable models).valid

theorem search_ended (models : List Model) :
    (search models).pending = [] ∧ (search models).ready = [] :=
  Search.step_eq_none_iff.1
    ((Search.valid_start models).step_run (Nat.le_of_eq (Search.work_start models)))

/-- A place that was not taken waits for another one that was not taken. -/
theorem exists_before_not_taken {models : List Model} {place : Nat} (hplace : place < models.length)
    (h : place ∉ (search models).taken) :
    ∃ earlier ∈ before models place, earlier ∉ (search models).taken := by
  by_contra hnone
  push Not at hnone
  obtain ⟨hpending, hready⟩ := search_ended models
  have hcounter := (search_valid models).counters place hplace
  rw [Search.remaining_eq_zero_iff.2 hnone, hpending] at hcounter
  have hmem := ((search_valid models).ready place).2 ⟨hplace, h, by simpa using hcounter⟩
  simp [hready] at hmem

end Order

end SampleData
