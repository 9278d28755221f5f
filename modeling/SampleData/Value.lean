import SampleData.Calendar
import SampleData.Record

/-!
# Values

What a field of an instance can hold, and the values of an instance as a list of named
entries, in which the last entry of a name counts.
-/

namespace SampleData

inductive Value where
  | text (content : String)
  | integer (number : Int)
  | decimal (numeral : String)
  | boolean (flag : Bool)
  | dateTime (instant : Instant)
  | date (day : Date)
  | record (target : Record)
  deriving DecidableEq, Repr, Inhabited

/-- The values of an instance by field name, in order. -/
abbrev Values := List (String × Value)

namespace Values

/-- The value under a name: the last entry of that name counts. -/
def get? (values : Values) (name : String) : Option Value :=
  match values with
  | [] => none
  | (field, value) :: rest =>
      match get? rest name with
      | some later => some later
      | none => if field = name then some value else none

theorem get?_cons (field : String) (value : Value) (rest : Values) (name : String) :
    get? ((field, value) :: rest) name =
      match get? rest name with
      | some later => some later
      | none => if field = name then some value else none := rfl

/-- There is a value under a name exactly when some entry has the name. -/
theorem get?_eq_none_iff {values : Values} {name : String} :
    values.get? name = none ↔ ∀ entry ∈ values, entry.1 ≠ name := by
  induction values with
  | nil => simp [get?]
  | cons entry rest ih =>
      obtain ⟨field, value⟩ := entry
      rw [get?_cons]
      cases hrest : get? rest name with
      | some later =>
          have hne := mt ih.2 (by simp [hrest])
          simp only [List.mem_cons, forall_eq_or_imp]
          constructor
          · intro h; simp at h
          · intro h; exact absurd h.2 hne
      | none =>
          have hall := ih.1 hrest
          by_cases hf : field = name
          · simp [hf]
          · simp [hf]; exact fun _ _ hm => hall _ hm

end Values

end SampleData
