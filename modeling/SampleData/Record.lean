import SampleData.Text.Pieces

/-!
# Records

A record is named by its table and its key.  Its text is `table:key`, and a text is
read back by cutting it at its first colon.
-/

namespace SampleData

structure Record where
  table : String
  key : String
  deriving DecidableEq, Repr, Inhabited

namespace Record

def text (record : Record) : String :=
  record.table ++ ":" ++ record.key

/-- Read a record: both the part before the first colon and the rest must not be empty. -/
def ofText? (raw : String) : Option Record :=
  match Text.cutAt ':' raw.toList with
  | none => none
  | some (table, key) =>
      if table.isEmpty || key.isEmpty then
        none
      else
        some ⟨String.ofList table, String.ofList key⟩

theorem toList_text (record : Record) :
    record.text.toList = record.table.toList ++ ':' :: record.key.toList := by
  simp [text, String.toList_append]

theorem text_of_ofText? {raw : String} {record : Record}
    (h : ofText? raw = some record) : record.text = raw := by
  unfold ofText? at h
  cases hcut : Text.cutAt ':' raw.toList with
  | none => simp [hcut] at h
  | some parts =>
      obtain ⟨table, key⟩ := parts
      simp only [hcut] at h
      split at h
      · simp at h
      · injection h with h
        subst h
        apply String.toList_inj.1
        rw [toList_text, Text.cutAt_eq_some hcut]
        simp

end Record

end SampleData
