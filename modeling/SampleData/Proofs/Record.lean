import SampleData.Proofs.Fake
import SampleData.Proofs.Naming

/-!
# Records and their texts

Writing a record and reading it are inverse to each other, as long as the table has no colon and neither
the table nor the key is empty; a key may have colons of its own.  No other texts are read.  The records
that a run makes are of this sort, as their tables are plain names and their keys letters and digits.
-/

namespace SampleData

namespace Record

variable {raw : String} {record : Record}

/-- The table of a record has no colon, and neither its table nor its key is empty. -/
structure Readable (record : Record) : Prop where
  table_ne : record.table ≠ ""
  not_colon : ':' ∉ record.table.toList
  key_ne : record.key ≠ ""

theorem ofText?_eq_some_iff : ofText? raw = some record ↔ record.Readable ∧ record.text = raw := by
  constructor
  · intro h
    refine ⟨?_, text_of_ofText? h⟩
    unfold ofText? at h
    cases hcut : Text.cutAt ':' raw.toList with
    | none =>
        rw [hcut] at h
        cases h
    | some pieces =>
        obtain ⟨table, key⟩ := pieces
        rw [hcut] at h
        dsimp only at h
        by_cases hempty : (table.isEmpty || key.isEmpty) = true
        · rw [if_pos hempty] at h
          cases h
        · rw [if_neg hempty] at h
          cases h
          have hparts : table ≠ [] ∧ key ≠ [] := by simpa using hempty
          have hcolon := Text.not_mem_of_cutAt_eq_some hcut
          exact ⟨by simpa using hparts.1, by simpa using hcolon, by simpa using hparts.2⟩
  · rintro ⟨⟨htable, hcolon, hkey⟩, rfl⟩
    have hparts : (record.table.toList.isEmpty || record.key.toList.isEmpty) = false := by
      simpa using ⟨htable, hkey⟩
    rw [ofText?, toList_text, Text.cutAt_append hcolon]
    dsimp only
    rw [hparts, if_neg Bool.false_ne_true, String.ofList_toList, String.ofList_toList]

theorem read_eq_ok_iff : read raw = .ok record ↔ record.Readable ∧ record.text = raw := by
  rw [← ofText?_eq_some_iff, read]
  cases ofText? raw <;> simp

theorem readable_of_test {table key : String} (htable : Identifier.test table = true)
    (hkey : Fake.IsKey key) : Readable ⟨table, key⟩ := by
  refine ⟨?_, fun hcolon => ?_, ?_⟩
  · rintro rfl
    cases htable
  · exact absurd (Identifier.isRest_of_mem htable hcolon) (by decide)
  · rintro rfl
    cases hkey.length_eq

/--
The texts that are read as records are those with a colon that has something in front of it, the first
one, and something behind it.  Writing what was read gives the text again, and reading what was written
gives the record again if its table is not empty and has no colon and its key is not empty.  That is so
for a table that may stand in a statement and a key that is made up, whatever is drawn: such a key has
20 characters, a small letter and then small letters and digits.
-/
theorem read_inverse_text :
    (∀ raw, (∃ record, read raw = .ok record) ↔
      ∃ table key : String, raw = table ++ ":" ++ key ∧ ':' ∉ table.toList ∧ table ≠ "" ∧ key ≠ "") ∧
    (∀ raw record, read raw = .ok record → record.text = raw) ∧
    (∀ record : Record, record.table ≠ "" → ':' ∉ record.table.toList → record.key ≠ "" →
      read record.text = .ok record) ∧
    ∀ draws, let key := (Fake.recordKey draws).1
      key.length = 20 ∧ Fake.IsKey key ∧
        ∀ role table, Identifier.require role table = .ok () →
          read (text ⟨table, key⟩) = .ok ⟨table, key⟩ := by
  refine ⟨fun raw => ⟨?_, ?_⟩, fun raw record h => (read_eq_ok_iff.1 h).2,
    fun record htable hcolon hkey => read_eq_ok_iff.2 ⟨⟨htable, hcolon, hkey⟩, rfl⟩,
    fun draws => ?_⟩
  · rintro ⟨record, h⟩
    obtain ⟨⟨htable, hcolon, hkey⟩, htext⟩ := read_eq_ok_iff.1 h
    exact ⟨record.table, record.key, htext.symm, hcolon, htable, hkey⟩
  · rintro ⟨table, key, hraw, hcolon, htable, hkey⟩
    exact ⟨⟨table, key⟩, read_eq_ok_iff.2 ⟨⟨htable, hcolon, hkey⟩, hraw.symm⟩⟩
  · have hkey := Fake.isKey_recordKey draws
    refine ⟨hkey.length_eq, hkey, fun role table htable => read_eq_ok_iff.2 ⟨?_, rfl⟩⟩
    exact readable_of_test (Identifier.require_eq_ok_iff.1 htable) hkey

/-- An escaped key keeps its brackets and its colon, and a key that is made up is read back. -/
theorem read_inverse_text_escaped_key :
    let key := (Fake.recordKey (.ofSeed 11)).1
    Identifier.require "table" "blog_post" = .ok () ∧
      read "person:⟨a:b⟩" = .ok ⟨"person", "⟨a:b⟩"⟩ ∧
      read (text ⟨"blog_post", key⟩) = .ok ⟨"blog_post", key⟩ := by
  intro key
  obtain ⟨-, -, hwritten, hkeys⟩ := read_inverse_text
  have htable : Identifier.require "table" "blog_post" = .ok () := by decide
  exact ⟨htable, hwritten ⟨"person", "⟨a:b⟩"⟩ (by decide) (by decide) (by decide),
    (hkeys (.ofSeed 11)).2.2 "table" "blog_post" htable⟩

example : ofText? "person" = none ∧ ofText? ":abc" = none ∧ ofText? "person:" = none := by decide

end Record

end SampleData
