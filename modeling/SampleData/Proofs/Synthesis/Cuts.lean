import SampleData.Proofs.Synthesis
import SampleData.Proofs.Text.Words

/-!
# Texts that are cut

A text that is cut to a limit is the longest part at its start that fits and does not end with a blank.
The text of a field is cut so wherever it comes from, by the field's name or from a source of its own, and
only addresses are not cut.
-/

namespace SampleData

namespace Text

/-! ## Longest starts -/

def EndsSolid (text : List Char) : Prop :=
  ∀ c ∈ text.getLast?, isBlank c = false

/--
The longest part at the start of a text that has so many characters at most and does not end
with a blank.
-/
structure IsLongestStart (limit : Nat) (text start : List Char) : Prop where
  starts : start <+: text
  fits : start.length ≤ limit
  endsSolid : EndsSolid start
  longest : ∀ other, other <+: text → other.length ≤ limit → EndsSolid other →
    other.length ≤ start.length

variable {limit : Nat} {text start other : List Char}

theorem IsLongestStart.eq (h : IsLongestStart limit text start) (hother : IsLongestStart limit text other) :
    start = other := by
  have hle := hother.longest start h.starts h.fits h.endsSolid
  have hge := h.longest other hother.starts hother.fits hother.endsSolid
  have hstart := List.prefix_of_prefix_length_le h.starts hother.starts hle
  exact hstart.eq_of_length (Nat.le_antisymm hle hge)

theorem isLongestStart_self (hfits : text.length ≤ limit) (hends : EndsSolid text) :
    IsLongestStart limit text text :=
  ⟨List.prefix_refl text, hfits, hends, fun _ hother _ _ => hother.length_le⟩

theorem endsSolid_trimEnd (text : List Char) : EndsSolid (trimEnd text) := by
  intro c hc
  have hhead := List.head?_dropWhile_not isBlank text.reverse
  rw [trimEnd, dropEndWhile, List.getLast?_reverse] at hc
  rw [hc] at hhead
  simpa using hhead

/-- No start of a text without a blank at its end is longer than the trimmed text. -/
theorem length_le_trimEnd (hstarts : other <+: text) (hends : EndsSolid other) :
    other.length ≤ (trimEnd text).length := by
  obtain ⟨gap, hgap, htext⟩ := exists_trimEnd_append_gap text
  generalize trimEnd text = trimmed at htext ⊢
  subst htext
  -- anything longer goes on with the blanks that were trimmed, and ends with one of them
  by_contra hlong
  obtain ⟨more, rfl⟩ := List.prefix_of_prefix_length_le ⟨gap, rfl⟩ hstarts (Nat.le_of_not_le hlong)
  have hne : more ≠ [] := by
    rintro rfl
    simp at hlong
  have hmore : more <+: gap := (List.prefix_append_right_inj trimmed).1 hstarts
  have hlast : (trimmed ++ more).getLast? = some (more.getLast hne) := by
    rw [List.getLast?_append_of_ne_nil _ hne, List.getLast?_eq_some_getLast hne]
  have hblank := hgap _ (hmore.subset (List.getLast_mem hne))
  rw [hends _ hlast] at hblank
  cases hblank

theorem isLongestStart_trimEnd_take (limit : Nat) (text : List Char) :
    IsLongestStart limit text (trimEnd (text.take limit)) := by
  obtain ⟨gap, -, htaken⟩ := exists_trimEnd_append_gap (text.take limit)
  have hstarts : trimEnd (text.take limit) <+: text.take limit := ⟨gap, htaken⟩
  have htake : text.take limit <+: text := List.take_prefix limit text
  refine ⟨hstarts.trans htake, Nat.le_trans hstarts.length_le (List.length_take_le limit text),
    endsSolid_trimEnd _, fun other hother hfits hends => ?_⟩
  exact length_le_trimEnd (List.prefix_take_iff.2 ⟨hother, hfits⟩) hends

theorem IsLongestStart.ne_nil (h : IsLongestStart limit text start) (hlimit : 1 ≤ limit) {c : Char}
    {rest : List Char} (htext : text = c :: rest) (hc : isBlank c = false) : start ≠ [] := by
  have hstarts : [c] <+: text := ⟨rest, htext.symm⟩
  have hends : EndsSolid [c] := by
    rintro _ ⟨⟩
    exact hc
  exact List.ne_nil_of_length_pos (h.longest [c] hstarts hlimit hends)

end Text

/-- What a source makes up before it is cut, if it is cut at all: an address is not. -/
def TextSource.uncut? : TextSource → Option (Sampler String)
  | .email => none
  | .phone => some Fake.phone
  | .name => some Fake.name
  | .sentence => some Fake.sentence
  | .paragraph => some Fake.paragraph
  | .url => some Fake.url
  | .languageCode => some (pure "en")

/--
The fields whose text is cut to so many characters, and the source that it comes from: a short text whose
name does not say that it is an address, and any text that is to come from another source than that of
addresses if the field has a limit.
-/
inductive Field.TakesCut (field : Field) : TextSource → Nat → Prop
  | byName (hsource : field.source = none) (hkind : field.kind = .shortText)
      (hname : ¬ "email".toList <:+ Text.lower field.name.toList) :
      field.TakesCut (Synthesis.suggestedSource (Text.lower field.name.toList))
        (field.maxLength.getD 100)
  | bySource {source : TextSource} {limit : Nat} (hsource : field.source = some source)
      (hother : source ≠ .email) (hkind : field.kind.isText = true)
      (hlimit : field.maxLength = some limit) : field.TakesCut source limit

namespace Synthesis

/-! ## Cutting -/

theorem isLongestStart_cut (limit : Nat) (text : String) :
    Text.IsLongestStart limit text.toList (cut limit text).toList := by
  rw [cut, String.toList_ofList]
  exact Text.isLongestStart_trimEnd_take limit text.toList

theorem cut_cut {limit larger : Nat} (h : limit ≤ larger) (text : String) :
    cut larger (cut limit text) = cut limit text := by
  have hcut := isLongestStart_cut limit text
  have hself := Text.isLongestStart_self (Nat.le_trans hcut.fits h) hcut.endsSolid
  exact String.toList_inj.1 ((isLongestStart_cut larger (cut limit text)).eq hself)

/-- No character is cut in two: what is cut off is a text as well. -/
theorem exists_cut_append (limit : Nat) (text : String) : ∃ rest, text = cut limit text ++ rest := by
  obtain ⟨rest, hrest⟩ := (isLongestStart_cut limit text).starts
  refine ⟨String.ofList rest, String.toList_inj.1 ?_⟩
  rw [String.toList_append, String.toList_ofList, hrest]

/-! ## Fields -/

theorem suggestedSource_ne_email {name : List Char} (h : ¬ "email".toList <:+ name) :
    suggestedSource name ≠ .email := by
  have hsuffix : ¬ "email".toList.isSuffixOf name = true := mt List.isSuffixOf_iff_suffix.1 h
  rw [suggestedSource, if_neg hsuffix]
  split_ifs <;> nofun

theorem exists_uncut {source : TextSource} (h : source ≠ .email) : ∃ sampler, source.uncut? = some sampler := by
  cases source with
  | email => exact absurd rfl h
  | phone | name | sentence | paragraph | url | languageCode => exact ⟨_, rfl⟩

theorem sourceText_of_uncut {source : TextSource} {sampler : Sampler String}
    (h : source.uncut? = some sampler) (addressLimit : Nat) (limit : Option Nat) :
    sourceText source addressLimit limit = cutText limit sampler := by
  cases source with
  | email => cases h
  | phone | name | sentence | paragraph | url | languageCode =>
      cases h
      rfl

theorem value_of_takesCut {field : Field} {source : TextSource} {limit : Nat}
    (h : field.TakesCut source limit) (now : Instant) :
    ∃ sampler, source.uncut? = some sampler ∧
      value now field = asValue .text (cutText (some limit) sampler) := by
  cases h with
  | byName hsource hkind hname =>
      obtain ⟨sampler, hsampler⟩ := exists_uncut (suggestedSource_ne_email hname)
      refine ⟨sampler, hsampler, ?_⟩
      rw [value, hsource, byKind, hkind, shortText, sourceText_of_uncut hsampler]
      rfl
  | bySource hsource hother hkind hlimit =>
      obtain ⟨sampler, hsampler⟩ := exists_uncut hother
      refine ⟨sampler, hsampler, ?_⟩
      rw [value, hsource]
      dsimp only
      rw [namedSourceText, if_pos hkind, sourceText_of_uncut hsampler, hlimit]

/--
The text of a field whose text is cut is the longest part at the start of what its source makes up that
keeps within the limit and does not end with a blank, whatever is drawn.  No character of it is cut in two,
something is left if the limit is not zero and the text does not start with a blank, and cutting once more
changes nothing.
-/
theorem value_longest_start {field : Field} {source : TextSource} {limit : Nat}
    (h : field.TakesCut source limit) (now : Instant) (draws : Draws) :
    ∃ sampler text, source.uncut? = some sampler ∧
      value now field draws = (.ok (some (.text text)), (sampler draws).2) ∧
      Text.IsLongestStart limit (sampler draws).1.toList text.toList ∧
      (∃ rest : String, (sampler draws).1.toUTF8 = text.toUTF8 ++ rest.toUTF8) ∧
      (1 ≤ limit → ∀ c rest, (sampler draws).1.toList = c :: rest → Text.isBlank c = false → text ≠ "") ∧
      ∀ larger, limit ≤ larger → cut larger text = text := by
  obtain ⟨sampler, hsampler, hvalue⟩ := value_of_takesCut h now
  have hcut := isLongestStart_cut limit (sampler draws).1
  refine ⟨sampler, cut limit (sampler draws).1, hsampler, by rw [hvalue]; rfl, hcut, ?_, ?_,
    fun larger hlarger => cut_cut hlarger _⟩
  · obtain ⟨rest, hrest⟩ := exists_cut_append limit (sampler draws).1
    exact ⟨rest, (congrArg String.toUTF8 hrest).trans String.toByteArray_append⟩
  · intro hlimit c rest htext hc hempty
    exact hcut.ne_nil hlimit htext hc (by rw [hempty]; rfl)

/-- Of a title for three characters two are left, as the third is a blank. -/
theorem value_longest_start_title :
    let field : Field := { name := "Title", kind := .shortText, maxLength := some 3 }
    let draws : Draws := { state := 0, texts := [(.sentence, "日本\u3000の空")] }
    field.TakesCut .sentence 3 ∧
      (value ⟨0, 0⟩ field draws).1 = .ok (some (.text "日本")) ∧
      Text.IsLongestStart 3 "日本\u3000の空".toList "日本".toList ∧ cut 4 "日本" = "日本" := by
  intro field draws
  have hname : ¬ "email".toList <:+ Text.lower field.name.toList := by decide
  have hsuggested : suggestedSource (Text.lower field.name.toList) = .sentence := by decide
  have htakes : field.TakesCut .sentence 3 := hsuggested ▸ .byName rfl rfl hname
  have hmade : (value ⟨0, 0⟩ field draws).1 = .ok (some (.text "日本")) := by decide
  obtain ⟨sampler, text, hsampler, hvalue, hlongest, -, -, hagain⟩ :=
    value_longest_start htakes ⟨0, 0⟩ draws
  cases hsampler
  obtain rfl : "日本" = text := by simpa [hvalue] using hmade.symm
  exact ⟨htakes, hmade, hlongest, hagain 4 (by decide)⟩

end Synthesis

end SampleData
