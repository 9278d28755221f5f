import Mathlib.Data.List.FinRange
import SampleData.Proofs.Draws
import SampleData.Run.Generation

/-!
# Picks from a ledger

What is picked among the records of a table: a sample is a choice of different places of the
table's records, from one up to five of them and in any order, and every such choice comes out for
some numbers drawn.  So does every single record.
-/

namespace SampleData

namespace Draws

variable {α β : Type}

/-! ## Numbers in front -/

def afterAll (numbers : List UInt64) (draws : Draws) : Draws :=
  { draws with queued := numbers ++ draws.queued }

theorem afterAll_append (numbers others : List UInt64) (draws : Draws) :
    draws.afterAll (numbers ++ others) = (draws.afterAll others).afterAll numbers := by
  simp [afterAll]

theorem afterAll_cons (number : UInt64) (numbers : List UInt64) (draws : Draws) :
    draws.afterAll (number :: numbers) = (draws.afterAll numbers).after number := rfl

theorem afterAll_nil (draws : Draws) : draws.afterAll [] = draws := rfl

/-- How many numbers two draws together tell apart. -/
def pairSize : Nat :=
  wordSize * wordSize

/-- Every number below a bound comes out for some numbers, if two draws can tell the bound apart. -/
theorem exists_below {bound n : Nat} (hbound : bound ≤ pairSize) (hn : n < bound) :
    ∃ numbers, ∀ draws : Draws, below bound (draws.afterAll numbers) = (n, draws) := by
  by_cases hsmall : bound ≤ wordSize
  · exact ⟨[UInt64.ofNat n], fun draws => below_after hsmall hn draws⟩
  · have hpositive : 0 < wordSize := by decide
    have hpair : n < wordSize * wordSize := Nat.lt_of_lt_of_le hn hbound
    have hhigh : (UInt64.ofNat (n / wordSize)).toNat = n / wordSize :=
      UInt64.toNat_ofNat_of_lt (Nat.div_lt_of_lt_mul hpair)
    have hlow : (UInt64.ofNat (n % wordSize)).toNat = n % wordSize :=
      UInt64.toNat_ofNat_of_lt (Nat.mod_lt n hpositive)
    refine ⟨[UInt64.ofNat (n / wordSize), UInt64.ofNat (n % wordSize)], fun draws => ?_⟩
    rw [below, if_neg hsmall, bind_apply, bind_apply, pure_apply, afterAll_cons, next_after,
      afterAll_cons, next_after, hhigh, hlow, Nat.div_add_mod', Nat.mod_eq_of_lt hn, afterAll_nil]

theorem exists_between {low high n : Int} (hsmall : (high - low + 1).toNat ≤ pairSize) (hlow : low ≤ n)
    (hhigh : n ≤ high) :
    ∃ numbers, ∀ draws : Draws, between low high (draws.afterAll numbers) = (n, draws) := by
  have hoffset : (n - low).toNat < (high - low + 1).toNat := by omega
  have hn : low + ((n - low).toNat : Int) = n := by omega
  obtain ⟨numbers, hnumbers⟩ := exists_below hsmall hoffset
  refine ⟨numbers, fun draws => ?_⟩
  rw [between, bind_apply, pure_apply, hnumbers, hn]

/-! ## Choices of places -/

/--
The element at a place of a list, and what is left of the list with the first element in its
place.
-/
def takenAt (first : α) (rest : List α) : Nat → α × List α
  | 0 => (first, rest)
  | place + 1 => (rest[place]?.getD first, rest.set place first)

theorem takenAt_fst {first : α} {rest : List α} {index : Nat} (h : index < (first :: rest).length) :
    (takenAt first rest index).1 = (first :: rest)[index] := by
  cases index with
  | zero => rfl
  | succ place =>
      have hplace : place < rest.length := Nat.lt_of_succ_lt_succ h
      simp [takenAt, hplace]

theorem takenAt_perm {first : α} {rest : List α} {index : Nat} (h : index < (first :: rest).length) :
    ((takenAt first rest index).1 :: (takenAt first rest index).2).Perm (first :: rest) := by
  cases index with
  | zero => exact List.Perm.refl _
  | succ place =>
      have hplace : place < rest.length := Nat.lt_of_succ_lt_succ h
      rw [takenAt_fst h]
      exact cons_set_perm hplace first

theorem takenAt_map (f : α → β) (first : α) (rest : List α) (index : Nat) :
    takenAt (f first) (rest.map f) index =
      (f (takenAt first rest index).1, (takenAt first rest index).2.map f) := by
  cases index <;> simp [takenAt]

/--
The first of several elements is the one at the drawn place; the others come from what is left.
-/
theorem chooseMany_cons (amount : Nat) (first : α) (rest : List α) (draws : Draws) :
    chooseMany (amount + 1) (first :: rest) draws =
      let (index, later) := below (first :: rest).length draws
      let (element, left) := takenAt first rest index
      (element :: (chooseMany amount left later).1, (chooseMany amount left later).2) := by
  rw [chooseMany, bind_apply, ← List.length_cons]
  generalize below (first :: rest).length draws = drawn
  obtain ⟨index, later⟩ := drawn
  cases index <;> rfl

/-- What is drawn from a list depends on its elements only by their places. -/
theorem chooseMany_map (f : α → β) (amount : Nat) (pool : List α) (draws : Draws) :
    chooseMany amount (pool.map f) draws =
      ((chooseMany amount pool draws).1.map f, (chooseMany amount pool draws).2) := by
  induction amount generalizing pool draws with
  | zero => rfl
  | succ amount ih =>
      cases pool with
      | nil => rfl
      | cons first rest =>
          simp only [List.map_cons, chooseMany_cons, List.length_cons, List.length_map, takenAt_map, ih]
          rfl

theorem exists_chooseMany {chosen pool : List α} (h : chosen.Subperm pool)
    (hlength : pool.length ≤ pairSize) :
    ∃ numbers, ∀ draws : Draws,
      chooseMany chosen.length pool (draws.afterAll numbers) = (chosen, draws) := by
  induction chosen generalizing pool with
  | nil => exact ⟨[], fun _ => rfl⟩
  | cons element others ih =>
      cases pool with
      | nil => exact absurd h.length_le (by simp)
      | cons first rest =>
          obtain ⟨index, hindex, hget⟩ := List.getElem_of_mem (h.subset List.mem_cons_self)
          have helement : (takenAt first rest index).1 = element := (takenAt_fst hindex).trans hget
          have hperm := takenAt_perm hindex
          rw [helement] at hperm
          -- the place of the element is drawn first, and the others from what then is left
          have hleft : others.Subperm (takenAt first rest index).2 :=
            (List.subperm_cons element).1 (h.trans hperm.symm.subperm)
          have hshorter : (takenAt first rest index).2.length < (first :: rest).length := by
            rw [← hperm.length_eq]
            exact Nat.lt_succ_self _
          obtain ⟨front, hfront⟩ := exists_below hlength hindex
          obtain ⟨back, hback⟩ := ih hleft (Nat.le_of_lt (Nat.lt_of_lt_of_le hshorter hlength))
          refine ⟨front ++ back, fun draws => ?_⟩
          rw [List.length_cons, chooseMany_cons, afterAll_append, hfront]
          simp only [helement, hback]

theorem exists_places (amount : Nat) (pool : List α) (draws : Draws) :
    ∃ places : List (Fin pool.length), places.Nodup ∧
      (chooseMany amount pool draws).1 = places.map pool.get := by
  refine ⟨(chooseMany amount (List.finRange pool.length) draws).1, ?_, ?_⟩
  · obtain ⟨front, hperm, hsublist⟩ := chooseMany_subperm amount (List.finRange pool.length) draws
    exact hperm.nodup_iff.1 ((List.nodup_finRange _).sublist hsublist)
  · have hmap := chooseMany_map pool.get amount (List.finRange pool.length) draws
    rw [List.map_get_finRange] at hmap
    rw [hmap]

theorem exists_chooseMany_places {pool : List α} (hlength : pool.length ≤ pairSize)
    {places : List (Fin pool.length)} (h : places.Nodup) :
    ∃ numbers, ∀ draws : Draws,
      chooseMany places.length pool (draws.afterAll numbers) = (places.map pool.get, draws) := by
  have hsubperm : places.Subperm (List.finRange pool.length) :=
    h.subperm fun place _ => List.mem_finRange place
  obtain ⟨numbers, hnumbers⟩ := exists_chooseMany hsubperm (by rwa [List.length_finRange])
  refine ⟨numbers, fun draws => ?_⟩
  have hmap := chooseMany_map pool.get places.length (List.finRange pool.length) (draws.afterAll numbers)
  rwa [List.map_get_finRange, hnumbers] at hmap

theorem choose_eq_get {pool : List α} (h : pool ≠ []) (draws : Draws) :
    ∃ place : Fin pool.length, (choose pool draws).1 = some (pool.get place) := by
  obtain ⟨element, hmem, hchosen⟩ := exists_choose h draws
  obtain ⟨place, rfl⟩ := List.get_of_mem hmem
  exact ⟨place, hchosen⟩

theorem exists_choose_place {pool : List α} (hlength : pool.length ≤ pairSize)
    (place : Fin pool.length) :
    ∃ numbers, ∀ draws : Draws, choose pool (draws.afterAll numbers) = (some (pool.get place), draws) := by
  obtain ⟨numbers, hnumbers⟩ := exists_below hlength place.isLt
  refine ⟨numbers, fun draws => ?_⟩
  cases pool with
  | nil => exact place.elim0
  | cons first rest =>
      rw [choose, bind_apply, pure_apply, ← List.length_cons, hnumbers]
      exact congrArg (·, draws) (List.getElem?_eq_getElem place.isLt)

end Draws

namespace Ledger

/-- A choice of different places among so many, from one up to five of them, in any order. -/
structure IsChoice {count : Nat} (places : List (Fin count)) : Prop where
  nodup : places.Nodup
  pos : 1 ≤ places.length
  le : places.length ≤ min 5 count

variable {ledger : Ledger} {table : String}

theorem sample_of_created_eq_nil (h : ledger.created table = []) (draws : Draws) :
    ledger.sample table draws = ([], draws) := by
  simp only [sample, h, List.isEmpty_nil, if_true]
  rfl

theorem sample_eq_chooseMany (h : ledger.created table ≠ []) (draws : Draws) :
    ledger.sample table draws =
      let (amount, later) := Draws.between 1 (min maxLinks (ledger.created table).length : Nat) draws
      Draws.chooseMany amount.toNat (ledger.created table) later := by
  simp only [sample, List.isEmpty_eq_false_iff.2 h]
  rfl

theorem exists_isChoice_sample (h : ledger.created table ≠ []) (draws : Draws) :
    ∃ places : List (Fin (ledger.created table).length), IsChoice places ∧
      (ledger.sample table draws).1 = places.map (ledger.created table).get := by
  obtain ⟨hpos, hle⟩ := length_sample h draws
  let drawn := Draws.between 1 (min maxLinks (ledger.created table).length : Nat) draws
  obtain ⟨places, hnodup, hplaces⟩ :=
    Draws.exists_places drawn.1.toNat (ledger.created table) drawn.2
  have hsample : (ledger.sample table draws).1 = places.map (ledger.created table).get := by
    rw [sample_eq_chooseMany h]
    exact hplaces
  rw [hsample, List.length_map] at hpos hle
  exact ⟨places, ⟨hnodup, hpos, hle⟩, hsample⟩

theorem exists_sample_of_isChoice (hlength : (ledger.created table).length ≤ Draws.pairSize)
    {places : List (Fin (ledger.created table).length)} (h : IsChoice places) :
    ∃ numbers, ∀ draws : Draws,
      ledger.sample table (draws.afterAll numbers) = (places.map (ledger.created table).get, draws) := by
  obtain ⟨hnodup, hpos, hle⟩ := h
  have hne : ledger.created table ≠ [] := by
    refine List.ne_nil_of_length_pos ?_
    omega
  have hword : 5 ≤ Draws.pairSize := by decide
  have hmost : (places.length : Int) ≤ (min maxLinks (ledger.created table).length : Nat) := by
    simp only [maxLinks]
    omega
  have hspan : ((min maxLinks (ledger.created table).length : Nat) - (1 : Int) + 1).toNat ≤
      Draws.pairSize := by
    simp only [maxLinks]
    omega
  obtain ⟨front, hfront⟩ := Draws.exists_between hspan (by omega) hmost
  obtain ⟨back, hback⟩ := Draws.exists_chooseMany_places hlength hnodup
  refine ⟨front ++ back, fun draws => ?_⟩
  rw [sample_eq_chooseMany hne, Draws.afterAll_append, hfront]
  exact hback draws

theorem choose_eq_none_iff (draws : Draws) :
    (ledger.choose table draws).1 = none ↔ ledger.created table = [] := by
  constructor
  · intro hnone
    by_contra hne
    obtain ⟨place, hplace⟩ := Draws.choose_eq_get hne draws
    cases hnone.symm.trans hplace
  · intro hnil
    rw [choose_of_created_eq_nil hnil]

/--
Of a table without records nothing is picked, and nothing is drawn.  Of any other table a sample is
what stands at the places of a choice, different records if none is there twice, and a single pick is
one of the records.  As long as two draws can tell the places of the table's records apart, all
these choices and all these records come out, each for some numbers drawn.  Picking leaves the ledger
as it is.
-/
theorem picks_at_places (ledger : Ledger) (table : String) :
    let pool := ledger.created table
    (pool = [] → ∀ draws, ledger.sample table draws = ([], draws) ∧
      ledger.choose table draws = (none, draws)) ∧
    (pool ≠ [] → ∀ draws, ∃ places : List (Fin pool.length), IsChoice places ∧
      (ledger.sample table draws).1 = places.map pool.get) ∧
    (pool.Nodup → ∀ draws, (ledger.sample table draws).1.Nodup) ∧
    (∀ draws, (ledger.choose table draws).1 = none ↔ pool = []) ∧
    (∀ draws, ∀ record ∈ (ledger.choose table draws).1, record ∈ pool) ∧
    (pool.length ≤ Draws.pairSize →
      (∀ places : List (Fin pool.length), IsChoice places → ∃ numbers, ∀ draws : Draws,
        ledger.sample table (draws.afterAll numbers) = (places.map pool.get, draws)) ∧
      ∀ place : Fin pool.length, ∃ numbers, ∀ draws : Draws,
        ledger.choose table (draws.afterAll numbers) = (some (pool.get place), draws)) ∧
    ∀ (σ : Type) (run : Run σ), run.ledger = ledger →
      (Run.draw (run.ledger.sample table) run).2.ledger = ledger ∧
        (Run.draw (run.ledger.choose table) run).2.ledger = ledger := by
  refine ⟨fun hnil draws => ⟨sample_of_created_eq_nil hnil draws, choose_of_created_eq_nil hnil draws⟩,
    exists_isChoice_sample, fun hnodup draws => ?_, choose_eq_none_iff,
    fun _ _ hrecord => Draws.mem_of_choose hrecord,
    fun hlength => ⟨fun _ => exists_sample_of_isChoice hlength, Draws.exists_choose_place hlength⟩,
    fun _ _ hledger => ⟨hledger, hledger⟩⟩
  obtain ⟨front, hperm, hsublist⟩ := sample_subperm ledger table draws
  exact hperm.nodup_iff.1 (hnodup.sublist hsublist)

/-- Of three tags the last and the first are sampled in this order, and each tag is picked. -/
theorem picks_at_places_three_tags :
    let ledger : Ledger := (((Ledger.mk []).add ⟨"tag", "a"⟩).add ⟨"post", "p"⟩ |>.add ⟨"tag", "b"⟩).add ⟨"tag", "c"⟩
    ledger.created "tag" = [⟨"tag", "a"⟩, ⟨"tag", "b"⟩, ⟨"tag", "c"⟩] ∧
      (∃ numbers, ∀ draws : Draws, ledger.sample "tag" (draws.afterAll numbers) =
        ([⟨"tag", "c"⟩, ⟨"tag", "a"⟩], draws)) ∧
      ∃ numbers, ∀ draws : Draws, ledger.choose "tag" (draws.afterAll numbers) =
        (some ⟨"tag", "b"⟩, draws) := by
  intro ledger
  have hcreated : ledger.created "tag" = [⟨"tag", "a"⟩, ⟨"tag", "b"⟩, ⟨"tag", "c"⟩] := by decide
  obtain ⟨-, -, -, -, -, hreached, -⟩ := picks_at_places ledger "tag"
  obtain ⟨hsamples, hsingle⟩ := hreached (by decide)
  exact ⟨hcreated, hsamples [⟨2, by decide⟩, ⟨0, by decide⟩] ⟨by decide, by decide, by decide⟩, hsingle ⟨1, by decide⟩⟩

end Ledger

end SampleData
