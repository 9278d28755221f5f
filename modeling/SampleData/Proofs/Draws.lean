import Mathlib.Data.List.Perm.Subperm
import SampleData.Ledger

/-!
# What is drawn

A number drawn below a bound lies below it, and one drawn from a range in the range.  What is
drawn from a list is of the list, as many elements as are asked for as long as there are so many.
-/

namespace SampleData

section

variable {σ α β : Type}

@[simp] theorem pure_apply (result : α) (state : σ) :
    (pure result : StateM σ α) state = (result, state) := rfl

@[simp] theorem bind_apply (program : StateM σ α) (next : α → StateM σ β) (state : σ) :
    (program >>= next) state = next (program state).1 (program state).2 := rfl

end

namespace Draws

variable {α : Type}

theorem below_lt {bound : Nat} (h : 0 < bound) (draws : Draws) : (below bound draws).1 < bound := by
  unfold below
  split
  · exact Nat.mod_lt _ h
  · exact Nat.mod_lt _ h

theorem between_mem {low high : Int} (h : low ≤ high) (draws : Draws) :
    low ≤ (between low high draws).1 ∧ (between low high draws).1 ≤ high := by
  change low ≤ low + ((below (high - low + 1).toNat draws).1 : Int) ∧
    low + ((below (high - low + 1).toNat draws).1 : Int) ≤ high
  have hbound : 0 < (high - low + 1).toNat := by omega
  have hlt := below_lt hbound draws
  omega

def after (number : UInt64) (draws : Draws) : Draws :=
  { draws with queued := number :: draws.queued }

theorem next_after (number : UInt64) (draws : Draws) : next (draws.after number) = (number, draws) := rfl

theorem below_of_le {bound : Nat} (h : bound ≤ wordSize) (draws : Draws) :
    below bound draws = ((next draws).1.toNat % bound, (next draws).2) := by
  rw [below, if_pos h, bind_apply, pure_apply]

/-- A number below such a bound comes out when it is the next itself. -/
theorem below_after {bound n : Nat} (h : bound ≤ wordSize) (hn : n < bound) (draws : Draws) :
    below bound (draws.after (UInt64.ofNat n)) = (n, draws) := by
  have hword : (UInt64.ofNat n).toNat = n := UInt64.toNat_ofNat_of_lt (Nat.lt_of_lt_of_le hn h)
  rw [below_of_le h, next_after, hword, Nat.mod_eq_of_lt hn]

theorem between_of_le {low high : Int} (h : (high - low + 1).toNat ≤ wordSize) (draws : Draws) :
    (between low high draws).2 = (next draws).2 := by
  rw [between, bind_apply, pure_apply, below_of_le h]

theorem between_after {low high n : Int} (h : (high - low + 1).toNat ≤ wordSize) (hlow : low ≤ n)
    (hhigh : n ≤ high) (draws : Draws) :
    between low high (draws.after (UInt64.ofNat (n - low).toNat)) = (n, draws) := by
  have hoffset : (n - low).toNat < (high - low + 1).toNat := by omega
  have hn : low + ((n - low).toNat : Int) = n := by omega
  rw [between, bind_apply, pure_apply, below_after h hoffset, hn]

theorem mem_of_takeText {kind : TextKind} {texts rest : List (TextKind × String)} {text : String}
    (h : takeText kind texts = some (text, rest)) : (kind, text) ∈ texts := by
  induction texts generalizing rest with
  | nil => cases h
  | cons entry others ih =>
      obtain ⟨other, first⟩ := entry
      rw [takeText] at h
      by_cases hkind : other = kind
      · rw [if_pos hkind] at h
        cases h
        rw [hkind]
        exact List.mem_cons_self
      · rw [if_neg hkind, Option.map_eq_some_iff] at h
        obtain ⟨⟨found, left⟩, htaken, hpair⟩ := h
        cases hpair
        exact List.mem_cons_of_mem _ (ih htaken)

theorem textOr_cases (kind : TextKind) (makeUp : Sampler String) (draws : Draws) :
    (kind, (textOr kind makeUp draws).1) ∈ draws.texts ∨ textOr kind makeUp draws = makeUp draws := by
  unfold textOr
  cases htaken : takeText kind draws.texts with
  | none => exact .inr rfl
  | some taken => exact .inl (mem_of_takeText htaken)

theorem length_repeated_apply (count : Nat) (sampler : Sampler α) (draws : Draws) :
    (repeated count sampler draws).1.length = count :=
  length_repeated count sampler draws

/-- What holds of everything that a sampler can give holds of all its results in turn. -/
theorem forall_mem_repeated {property : α → Prop} {sampler : Sampler α}
    (h : ∀ draws, property (sampler draws).1) (count : Nat) (draws : Draws) :
    ∀ element ∈ (repeated count sampler draws).1, property element := by
  induction count generalizing draws with
  | zero => exact nofun
  | succ count ih =>
      change ∀ element ∈ (sampler draws).1 :: (repeated count sampler (sampler draws).2).1, _
      exact List.forall_mem_cons.2 ⟨h draws, ih (sampler draws).2⟩

theorem exists_choose {pool : List α} (h : pool ≠ []) (draws : Draws) :
    ∃ element ∈ pool, (choose pool draws).1 = some element := by
  cases pool with
  | nil => exact absurd rfl h
  | cons first rest =>
      have hlt := below_lt (Nat.succ_pos rest.length) draws
      refine ⟨(first :: rest)[(below (rest.length + 1) draws).1], List.getElem_mem _, ?_⟩
      exact List.getElem?_eq_getElem hlt

theorem mem_of_choose {pool : List α} {draws : Draws} {element : α}
    (h : (choose pool draws).1 = some element) : element ∈ pool := by
  by_cases hempty : pool = []
  · rw [hempty] at h
    cases h
  · obtain ⟨found, hfound, hchosen⟩ := exists_choose hempty draws
    obtain rfl : found = element := Option.some.inj (hchosen.symm.trans h)
    exact hfound

/--
An element that comes out and what is left, with the first in its place, are all that was there.
-/
theorem cons_set_perm {rest : List α} {place : Nat} (h : place < rest.length) (first : α) :
    (rest[place] :: rest.set place first).Perm (first :: rest) :=
  calc
    rest[place] :: rest.set place first
    _ |>.Perm (rest[place] :: first :: rest.eraseIdx place) := (List.set_perm_cons_eraseIdx h first).cons _
    _ |>.Perm (first :: rest[place] :: rest.eraseIdx place) := List.Perm.swap _ _ _
    _ |>.Perm (first :: rest) := (List.getElem_cons_eraseIdx_perm h).cons _

/-- What is drawn from a list are elements at different places of it. -/
theorem chooseMany_subperm (amount : Nat) (pool : List α) (draws : Draws) :
    (chooseMany amount pool draws).1.Subperm pool := by
  induction amount generalizing pool draws with
  | zero => exact List.nil_subperm
  | succ amount ih =>
      cases pool with
      | nil => exact List.nil_subperm
      | cons first rest =>
          have hlt := below_lt (Nat.succ_pos rest.length) draws
          simp only [chooseMany, bind_apply]
          generalize below (rest.length + 1) draws = drawn at hlt
          obtain ⟨index, later⟩ := drawn
          cases index with
          | zero => exact (List.subperm_cons first).2 (ih rest later)
          | succ place =>
              have hplace : place < rest.length := Nat.lt_of_succ_lt_succ hlt
              simp only [List.getElem?_eq_getElem hplace, Option.getD_some]
              exact ((List.subperm_cons _).2 (ih (rest.set place first) later)).trans
                (cons_set_perm hplace first).subperm

theorem length_chooseMany (amount : Nat) (pool : List α) (draws : Draws) :
    (chooseMany amount pool draws).1.length = min amount pool.length := by
  induction amount generalizing pool draws with
  | zero => simp [chooseMany]
  | succ amount ih =>
      cases pool with
      | nil => simp [chooseMany]
      | cons first rest =>
          simp only [chooseMany, bind_apply]
          generalize below (rest.length + 1) draws = drawn
          obtain ⟨index, later⟩ := drawn
          cases index with
          | zero =>
              change (_ :: (chooseMany amount rest later).1).length = _
              simp [ih]
          | succ place =>
              change (_ :: (chooseMany amount (rest.set place first) later).1).length = _
              simp [ih]

end Draws

namespace Ledger

theorem choose_of_created_eq_nil {ledger : Ledger} {table : String}
    (h : ledger.created table = []) (draws : Draws) : ledger.choose table draws = (none, draws) := by
  unfold choose
  rw [h]
  rfl

theorem sample_subperm (ledger : Ledger) (table : String) (draws : Draws) :
    (ledger.sample table draws).1.Subperm (ledger.created table) := by
  unfold sample
  split
  · exact List.nil_subperm
  · exact Draws.chooseMany_subperm _ _ _

theorem mem_created_of_mem_sample {ledger : Ledger} {table : String} {draws : Draws}
    {record : Record} (h : record ∈ (ledger.sample table draws).1) :
    record ∈ ledger.created table :=
  (ledger.sample_subperm table draws).subset h

/--
Of a table with records there are as many in a sample as a link set may hold, or fewer, but at
least one.
-/
theorem length_sample {ledger : Ledger} {table : String} (h : ledger.created table ≠ [])
    (draws : Draws) :
    1 ≤ (ledger.sample table draws).1.length ∧
      (ledger.sample table draws).1.length ≤ min maxLinks (ledger.count table) := by
  have hlength : 0 < (ledger.created table).length := List.length_pos_iff.2 h
  have hempty : (ledger.created table).isEmpty = false := by simpa using h
  have hpositive : (1 : Int) ≤ (min maxLinks (ledger.created table).length : Nat) := by
    simp only [maxLinks]
    omega
  let drawn := Draws.between 1 (min maxLinks (ledger.created table).length : Nat) draws
  have hamount := Draws.between_mem hpositive draws
  have hsample : ledger.sample table draws =
      Draws.chooseMany drawn.1.toNat (ledger.created table) drawn.2 := by
    simp only [sample, hempty]
    rfl
  rw [hsample, Draws.length_chooseMany, count]
  change 1 ≤ drawn.1 ∧ drawn.1 ≤ _ at hamount
  omega

theorem sample_ne_nil {ledger : Ledger} {table : String} (h : ledger.created table ≠ [])
    (draws : Draws) : (ledger.sample table draws).1 ≠ [] :=
  List.ne_nil_of_length_pos (length_sample h draws).1

end Ledger

end SampleData
