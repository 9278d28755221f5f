import SampleData.Proofs.Schema.Clauses
import SampleData.Proofs.Schema.Declaration
import SampleData.Proofs.Text.Numerals

/-!
# Declared types

A type of a declared schema is read as it was written, whether it is one token or two and
however many options are around it, and it says of its field what was declared.
-/

namespace SampleData

namespace Identifier

theorem not_mem_of_plain {name : String} (h : Plain name) {c : Char} (hc : isRest c = false) :
    c ∉ name.toList := by
  intro hmem
  rw [isRest_of_mem (test_iff_plain.2 h) hmem] at hc
  cases hc

theorem isBlank_of_isRest {c : Char} (h : isRest c = true) : Text.isBlank c = false := by
  have hbounds : 48 ≤ c.toNat ∧ c.toNat ≤ 122 := by
    rcases isRest_iff.1 h with ⟨hlow, hhigh⟩ | ⟨hlow, hhigh⟩ | rfl | ⟨hlow, hhigh⟩
    · have hlow : 65 ≤ c.toNat := hlow
      have hhigh : c.toNat ≤ 90 := hhigh
      omega
    · have hlow : 97 ≤ c.toNat := hlow
      have hhigh : c.toNat ≤ 122 := hhigh
      omega
    · decide
    · have hlow : 48 ≤ c.toNat := hlow
      have hhigh : c.toNat ≤ 57 := hhigh
      omega
  refine List.any_eq_false.2 fun range hrange => ?_
  have hapart : ∀ range ∈ Text.blankRanges, range.2 < 48 ∨ 122 < range.1 := by decide
  have hrange := hapart range hrange
  simp only [Bool.and_eq_true, decide_eq_true_eq]
  omega

theorem isSolid_of_plain {name : String} (h : Plain name) : Text.IsSolid name.toList :=
  fun _ hc => isBlank_of_isRest (isRest_of_mem (test_iff_plain.2 h) hc)

theorem toList_ne_nil_of_plain {name : String} (h : Plain name) : name.toList ≠ [] := by
  obtain ⟨first, rest, hlist, -⟩ := h
  simp [hlist]

end Identifier

namespace Schema

open Text

/-! ## Names -/

theorem nameOf_name {name : String} (h : IsName name) : nameOf name.toList = name := by
  have hclinging : ∀ c ∈ name.toList, isClinging c = false := by
    intro c hc
    have hrest := Identifier.isRest_of_mem (Identifier.test_iff_plain.2 h.1) hc
    cases hcase : isClinging c with
    | false => rfl
    | true =>
        simp only [isClinging, Bool.or_eq_true, beq_iff_eq] at hcase
        rcases hcase with (rfl | rfl) | rfl <;> exact absurd hrest (by decide)
  rw [nameOf, trimWhile_eq_self hclinging, String.ofList_toList]

theorem IsName.not_reserved {name : String} (h : IsName name) {word : String}
    (hword : word ∈ reservedWords) : isKeyword word name.toList = false :=
  h.2 word hword

theorem IsName.not_modifier {name : String} (h : IsName name) : isModifier name.toList = false := by
  simp only [isModifier, Bool.or_eq_false_iff]
  exact ⟨⟨⟨h.not_reserved (by decide), h.not_reserved (by decide)⟩, h.not_reserved (by decide)⟩,
    h.not_reserved (by decide)⟩

/-! ## Types -/

def Content.typeText (content : Content) : List Char :=
  content.typeParts.1 ++ content.typeParts.2.getD []

def itemText (target : String) (most : Option Nat) : List Char :=
  recordText target ++ most.elim [] fun most => ',' :: digitsOf most

theorem typeText_link (target : String) : (Content.link target).typeText = recordText target :=
  List.append_nil _

theorem typeText_links (distinct : Bool) (target : String) (most : Option Nat) :
    (Content.links distinct target most).typeText =
      collection distinct ++ '<' :: (itemText target most ++ ['>']) := by
  cases most with
  | none =>
      change (collection distinct ++ '<' :: recordText target ++ ['>']) ++ [] = _
      simp [itemText]
  | some most =>
      change (collection distinct ++ '<' :: recordText target ++ [',']) ++ (digitsOf most ++ ['>']) = _
      simp [itemText]

def FieldDeclaration.typeText (declared : FieldDeclaration) : List Char :=
  opened declared.options ++ declared.content.typeText ++ closed declared.options

theorem opened_succ (options : Nat) : opened (options + 1) = "option<".toList ++ opened options := rfl

theorem closed_succ (options : Nat) : closed (options + 1) = closed options ++ ['>'] :=
  List.replicate_succ'

theorem count_opened (options : Nat) :
    (opened options).count '<' = options ∧ (opened options).count '>' = 0 := by
  induction options with
  | zero => exact ⟨rfl, rfl⟩
  | succ options ih =>
      have hopen : "option<".toList.count '<' = 1 := by decide
      have hclose : "option<".toList.count '>' = 0 := by decide
      rw [opened_succ, List.count_append, List.count_append, ih.1, ih.2, hopen, hclose]
      omega

theorem count_closed (options : Nat) :
    (closed options).count '<' = 0 ∧ (closed options).count '>' = options := by
  rw [closed, List.count_replicate, List.count_replicate]
  simp

theorem count_name {name : String} (h : Identifier.Plain name) :
    name.toList.count '<' = 0 ∧ name.toList.count '>' = 0 :=
  ⟨List.count_eq_zero_of_not_mem (Identifier.not_mem_of_plain h (by decide)),
    List.count_eq_zero_of_not_mem (Identifier.not_mem_of_plain h (by decide))⟩

theorem not_mem_digitsOf (n : Nat) {c : Char} (hc : isPlainDigit c = false) : c ∉ digitsOf n := by
  intro hmem
  rw [isPlainDigit_of_mem_toDigits hmem] at hc
  cases hc

theorem recordText_eq (target : String) :
    recordText target = "record<".toList ++ target.toList ++ ['>'] := rfl

theorem count_recordText {target : String} (h : IsName target) :
    (recordText target).count '<' = 1 ∧ (recordText target).count '>' = 1 := by
  obtain ⟨hopen, hclose⟩ := count_name h.1
  have hopen' : "record<".toList.count '<' = 1 := by decide
  have hclose' : "record<".toList.count '>' = 0 := by decide
  rw [recordText_eq, List.count_append, List.count_append, List.count_append, List.count_append, hopen,
    hclose, hopen', hclose']
  exact ⟨rfl, rfl⟩

theorem count_collection (distinct : Bool) :
    (collection distinct).count '<' = 0 ∧ (collection distinct).count '>' = 0 := by
  cases distinct <;> decide

/--
A type is one token whose brackets close, or a token with one bracket open and what closes it.
-/
theorem count_typeParts {content : Content} (h : content.WellFormed) :
    (content.typeParts.2 = none → content.typeParts.1.count '<' = content.typeParts.1.count '>') ∧
      ∀ back, content.typeParts.2 = some back →
        content.typeParts.1.count '<' = content.typeParts.1.count '>' + 1 ∧
          back.count '<' = 0 ∧ back.count '>' = 1 := by
  cases content with
  | text conditions conjunction =>
      have hstring : "string".toList.count '<' = "string".toList.count '>' := by decide
      exact ⟨fun _ => hstring, nofun⟩
  | scalar type =>
      have hword : type.word.toList.count '<' = type.word.toList.count '>' := by
        cases type <;> decide
      exact ⟨fun _ => hword, nofun⟩
  | link target =>
      obtain ⟨hopen, hclose⟩ := count_recordText h.1
      exact ⟨fun _ => hopen.trans hclose.symm, nofun⟩
  | links distinct target most =>
      obtain ⟨hopen, hclose⟩ := count_recordText h.1
      obtain ⟨hopen', hclose'⟩ := count_collection distinct
      cases most with
      | none =>
          have hwhole : (collection distinct ++ '<' :: recordText target ++ ['>']).count '<' =
              (collection distinct ++ '<' :: recordText target ++ ['>']).count '>' := by
            simp [hopen, hclose, hopen', hclose']
          exact ⟨fun _ => hwhole, nofun⟩
      | some most =>
          refine ⟨nofun, fun back hback => ?_⟩
          cases hback
          have hdigits : (digitsOf most).count '<' = 0 ∧ (digitsOf most).count '>' = 0 :=
            ⟨List.count_eq_zero_of_not_mem (not_mem_digitsOf most (by decide)),
              List.count_eq_zero_of_not_mem (not_mem_digitsOf most (by decide))⟩
          have hfront : (collection distinct ++ '<' :: recordText target ++ [',']).count '<' =
              (collection distinct ++ '<' :: recordText target ++ [',']).count '>' + 1 := by
            simp [hopen, hclose, hopen', hclose']
          exact ⟨hfront, by simp [hdigits], by simp [hdigits]⟩

/-- The tokens of a type are put together again, and nothing behind them is. -/
theorem typeTokens_append {declared : FieldDeclaration} (h : declared.content.WellFormed)
    (more : List Token) : Schema.typeTokens 0 (declared.typeTokens ++ more) = declared.typeText := by
  obtain ⟨hwhole, hparts⟩ := count_typeParts h
  obtain ⟨hopen, hclose⟩ := count_opened declared.options
  obtain ⟨hopen', hclose'⟩ := count_closed declared.options
  unfold FieldDeclaration.typeTokens FieldDeclaration.typeText Content.typeText
  generalize declared.content.typeParts = parts at hwhole hparts
  obtain ⟨front, back⟩ := parts
  cases back with
  | none =>
      have hbalanced : front.count '<' = front.count '>' := hwhole rfl
      have hdepth : depthAfter 0 (opened declared.options ++ front ++ closed declared.options) = 0 := by
        simp only [depthAfter, List.count_append]
        omega
      simp only [List.singleton_append, Schema.typeTokens, hdepth, if_true, Option.getD_none,
        List.append_nil]
  | some back =>
      obtain ⟨hfront, hback, hback'⟩ := hparts back rfl
      dsimp only at hfront
      have hdepth : depthAfter 0 (opened declared.options ++ front) = declared.options + 1 := by
        simp only [depthAfter, List.count_append]
        omega
      have hdepth' : depthAfter (declared.options + 1) (back ++ closed declared.options) = 0 := by
        simp only [depthAfter, List.count_append]
        omega
      simp only [List.cons_append, List.nil_append, Schema.typeTokens, hdepth, hdepth', if_true,
        Nat.add_eq_zero_iff, Nat.one_ne_zero, and_false, if_false, Option.getD_some,
        List.append_assoc]

def isOrdinary (c : Char) : Bool :=
  Identifier.isRest c || c == '<' || c == '>' || c == ',' || c == '=' || c == '&'

/-- What a type is written with: ordinary characters, none of them a capital letter. -/
def IsTypeChar (c : Char) : Prop :=
  isUpperLetter c = false ∧ isOrdinary c = true

instance : DecidablePred IsTypeChar := fun _ => inferInstanceAs (Decidable (_ ∧ _))

theorem isOrdinary_of_isRest {c : Char} (h : Identifier.isRest c = true) : isOrdinary c = true := by
  simp [isOrdinary, h]

theorem isOrdinary_of_mem_name {name : String} (h : Identifier.Plain name) :
    ∀ c ∈ name.toList, isOrdinary c = true := fun _ hc =>
  isOrdinary_of_isRest (Identifier.isRest_of_mem (Identifier.test_iff_plain.2 h) hc)

theorem isRest_of_isPlainDigit {c : Char} (h : isPlainDigit c = true) : Identifier.isRest c = true := by
  simp [Identifier.isRest, h]

theorem isTypeChar_of_mem_target {target : String} (h : IsTarget target) :
    ∀ c ∈ target.toList, IsTypeChar c := by
  have hlower : lower target.toList = target.toList := by
    rw [← toList_lowerString, h.2]
  exact fun c hc => ⟨not_isUpperLetter_of_lower_eq hlower c hc, isOrdinary_of_mem_name h.1.1 c hc⟩

theorem isTypeChar_of_mem_digitsOf (n : Nat) : ∀ c ∈ digitsOf n, IsTypeChar c := by
  intro c hc
  have hdigit := isPlainDigit_of_mem_toDigits hc
  refine ⟨?_, isOrdinary_of_isRest (isRest_of_isPlainDigit hdigit)⟩
  cases hupper : isUpperLetter c with
  | false => rfl
  | true =>
      have hapart : ∀ place < 26, isPlainDigit (Char.ofNat (65 + place)) = false := by decide
      obtain ⟨place, hplace, rfl, -⟩ := exists_place_of_isUpperLetter hupper
      rw [hapart place hplace] at hdigit
      cases hdigit

theorem isTypeChar_of_mem_recordText {target : String} (h : IsTarget target) :
    ∀ c ∈ recordText target, IsTypeChar c := by
  rw [recordText_eq]
  simp only [List.forall_mem_append]
  exact ⟨⟨by decide, isTypeChar_of_mem_target h⟩, by decide⟩

theorem isTypeChar_of_mem_itemText {target : String} (h : IsTarget target) (most : Option Nat) :
    ∀ c ∈ itemText target most, IsTypeChar c := by
  refine List.forall_mem_append.2 ⟨isTypeChar_of_mem_recordText h, ?_⟩
  cases most with
  | none => exact nofun
  | some most => exact List.forall_mem_cons.2 ⟨by decide, isTypeChar_of_mem_digitsOf most⟩

theorem isTypeChar_of_mem_typeText {content : Content} (h : content.WellFormed) :
    ∀ c ∈ content.typeText, IsTypeChar c := by
  cases content with
  | text conditions conjunction =>
      have hstring : ∀ c ∈ "string".toList, IsTypeChar c := by decide
      exact List.forall_mem_append.2 ⟨hstring, nofun⟩
  | scalar type =>
      have hword : ∀ c ∈ type.word.toList, IsTypeChar c := by cases type <;> decide
      exact List.forall_mem_append.2 ⟨hword, nofun⟩
  | link target =>
      rw [typeText_link]
      exact isTypeChar_of_mem_recordText h
  | links distinct target most =>
      have hcollection : ∀ c ∈ collection distinct, IsTypeChar c := by cases distinct <;> decide
      rw [typeText_links]
      simp only [List.forall_mem_append, List.forall_mem_cons]
      exact ⟨hcollection, by decide, isTypeChar_of_mem_itemText h most, by decide, nofun⟩

theorem Content.typeText_ne_nil (content : Content) : content.typeText ≠ [] := by
  cases content with
  | text conditions conjunction =>
      have hstring : "string".toList ≠ [] := by decide
      exact List.append_ne_nil_of_left_ne_nil hstring _
  | scalar type =>
      have hword : type.word.toList ≠ [] := by cases type <;> decide
      exact List.append_ne_nil_of_left_ne_nil hword _
  | link target =>
      rw [typeText_link, recordText_eq]
      simp
  | links distinct target most =>
      rw [typeText_links]
      simp

theorem isTypeChar_of_mem_fieldType {declared : FieldDeclaration} (h : declared.content.WellFormed) :
    ∀ c ∈ declared.typeText, IsTypeChar c := by
  have hopened : ∀ c ∈ opened declared.options, IsTypeChar c := by
    intro c hc
    obtain ⟨part, hpart, hmem⟩ := List.mem_flatten.1 hc
    rw [List.eq_of_mem_replicate hpart] at hmem
    exact (by decide : ∀ c ∈ "option<".toList, IsTypeChar c) c hmem
  have hclosed : ∀ c ∈ closed declared.options, IsTypeChar c := by
    intro c hc
    rw [List.eq_of_mem_replicate hc]
    decide
  unfold FieldDeclaration.typeText
  simp only [List.forall_mem_append]
  exact ⟨⟨hopened, isTypeChar_of_mem_typeText h⟩, hclosed⟩

theorem typeText?_append {declared : FieldDeclaration} (h : declared.content.WellFormed)
    (more : List Token) : typeText? (declared.typeTokens ++ more) = some declared.typeText := by
  have hall := isTypeChar_of_mem_fieldType h
  have hne : declared.typeText.isEmpty = false := by
    refine List.isEmpty_eq_false_iff.2 fun hnil => declared.content.typeText_ne_nil ?_
    exact (List.append_eq_nil_iff.1 (List.append_eq_nil_iff.1 hnil).1).2
  have hclosing : ∀ c ∈ declared.typeText, (c == ';') = false := by
    intro c hc
    refine beq_false_of_ne fun heq => ?_
    have hordinary := (hall c hc).2
    rw [heq] at hordinary
    exact absurd hordinary (by decide)
  rw [typeText?, typeTokens_append h, hne, dropEndWhile_eq_self hclosing,
    lower_eq_self fun c hc => (hall c hc).1]
  rfl

/-! ## What types say -/

theorem plainKind?_eq_none {text : List Char} (h : '<' ∈ text) : plainKind? text = none := by
  have hne : ∀ {word : List Char}, '<' ∉ word → text ≠ word := fun hword heq => hword (heq ▸ h)
  unfold plainKind?
  rw [if_neg (hne (by decide)), if_neg (hne (by decide)), if_neg (hne (by decide)),
    if_neg (hne (by decide)), if_neg (hne (by decide)), if_neg (hne (by decide)),
    if_neg (hne (by decide))]

/-- The kind that the type of a field gives; what is asserted of texts is not part of it. -/
def Content.readKind : Content → FieldKind
  | text .. => .shortText
  | content => content.kind

theorem Content.WellFormed.plain {content : Content} (h : content.WellFormed) :
    ∀ target ∈ content.target?, Identifier.Plain target := by
  intro target htarget
  cases content with
  | text conditions conjunction => cases htarget
  | scalar type => cases htarget
  | link name =>
      cases htarget
      exact h.1.1
  | links distinct name most =>
      cases htarget
      exact h.1.1

theorem linkTarget_name {target : String} (h : Identifier.Plain target) :
    linkTarget target.toList = target := by
  have hbar : '|' ∉ target.toList := Identifier.not_mem_of_plain h (by decide)
  have htake : (target.toList.takeWhile fun c => c != '|') = target.toList := by
    have hall : ∀ c ∈ target.toList, (c != '|') = true :=
      fun c hc => bne_iff_ne.2 fun heq => hbar (heq ▸ hc)
    rw [← List.append_nil target.toList, List.takeWhile_append_of_pos hall]
    rfl
  rw [linkTarget, htake, trim_eq_self (Identifier.isSolid_of_plain h), String.ofList_toList]

theorem inside?_recordText (target : String) : inside? "record" (recordText target) = some target.toList := by
  have hopening : "record<".toList = "record".toList ++ ['<'] := by decide
  refine inside?_eq_some_iff.2 ?_
  rw [recordText_eq, hopening, List.append_assoc, List.append_assoc, List.singleton_append]

theorem itemTarget?_itemText {target : String} (h : Identifier.Plain target) (most : Option Nat) :
    itemTarget? (itemText target most) = some target := by
  have hcomma : ∀ c ∈ recordText target, (c != ',') = true := by
    have hname : ',' ∉ target.toList := Identifier.not_mem_of_plain h (by decide)
    have hopening : ∀ c ∈ "record<".toList, (c != ',') = true := by decide
    rw [recordText_eq]
    simp only [List.forall_mem_append]
    exact ⟨⟨hopening, fun c hc => bne_iff_ne.2 fun heq => hname (heq ▸ hc)⟩, by decide⟩
  have htake : ((itemText target most).takeWhile fun c => c != ',') = recordText target := by
    rw [itemText, List.takeWhile_append_of_pos hcomma]
    cases most <;> simp
  rw [itemTarget?, htake, inside?_recordText, Option.map_some, linkTarget_name h]

theorem inside?_append_eq_none {outer : String} {front : List Char} (hne : front ≠ [])
    (h : front.head? ≠ (outer.toList ++ ['<']).head?) (back : List Char) :
    inside? outer (front ++ back) = none := by
  cases hinside : inside? outer (front ++ back) with
  | none => rfl
  | some inner =>
      refine absurd ?_ h
      rw [← List.head?_append_of_ne_nil front hne, inside?_eq_some_iff.1 hinside]
      cases outer.toList <;> rfl

theorem items?_links (distinct : Bool) (inner : List Char) :
    items? (collection distinct ++ '<' :: (inner ++ ['>'])) = some inner := by
  cases distinct with
  | false =>
      have harray : inside? "array" ("array".toList ++ '<' :: (inner ++ ['>'])) = some inner :=
        inside?_eq_some_iff.2 rfl
      rw [collection, if_neg Bool.false_ne_true, items?, harray, Option.some_or]
  | true =>
      have hset : inside? "set" ("set".toList ++ '<' :: (inner ++ ['>'])) = some inner :=
        inside?_eq_some_iff.2 rfl
      have harray : inside? "array" ("set".toList ++ '<' :: (inner ++ ['>'])) = none :=
        inside?_append_eq_none (by decide) (by decide) _
      rw [collection, if_pos rfl, items?, harray, hset, Option.none_or]

theorem requiredReading_typeText {content : Content}
    (h : ∀ target ∈ content.target?, Identifier.Plain target) :
    requiredReading content.typeText = { kind := content.readKind, target := content.target? } := by
  cases content with
  | text conditions conjunction =>
      exact (by decide : requiredReading "string".toList = { kind := .shortText })
  | scalar type => cases type <;> decide
  | link target =>
      have hplain : plainKind? (recordText target) = none := by
        refine plainKind?_eq_none ?_
        rw [recordText_eq]
        simp
      rw [typeText_link, requiredReading, hplain, inside?_recordText]
      simp only [linkTarget_name (h target rfl)]
      rfl
  | links distinct target most =>
      rw [typeText_links]
      have hplain : plainKind? (collection distinct ++ '<' :: (itemText target most ++ ['>'])) = none :=
        plainKind?_eq_none (by simp)
      have hrecord : inside? "record" (collection distinct ++ '<' :: (itemText target most ++ ['>'])) = none :=
        inside?_append_eq_none (by cases distinct <;> decide) (by cases distinct <;> decide) _
      rw [requiredReading, hplain, hrecord, items?_links, Option.bind_some,
        itemTarget?_itemText (h target rfl)]
      rfl

theorem inside?_option_typeText (content : Content) : inside? "option" content.typeText = none := by
  cases content with
  | text conditions conjunction => exact (by decide : inside? "option" "string".toList = none)
  | scalar type => cases type <;> decide
  | link target =>
      rw [typeText_link, recordText_eq, List.append_assoc]
      exact inside?_append_eq_none (by decide) (by decide) _
  | links distinct target most =>
      rw [typeText_links]
      exact inside?_append_eq_none (by cases distinct <;> decide) (by cases distinct <;> decide) _

/-- Each option around a type is taken off, and one is enough to make the field optional. -/
theorem readingFuel_options {text : List Char} {kind : FieldKind} {target : Option String}
    (hinside : inside? "option" text = none) (hread : requiredReading text = { kind, target })
    (options fuel : Nat) :
    readingFuel (fuel + options) (opened options ++ text ++ closed options) =
      { kind, target, optional := options != 0 } := by
  induction options with
  | zero =>
      have htext : opened 0 ++ text ++ closed 0 = text := List.append_nil text
      rw [htext]
      cases fuel with
      | zero => exact hread
      | succ fuel =>
          rw [Nat.add_zero, readingFuel, hinside]
          exact hread
  | succ options ih =>
      have houter : inside? "option" (opened (options + 1) ++ text ++ closed (options + 1)) =
          some (opened options ++ text ++ closed options) := by
        have hopening : "option<".toList = "option".toList ++ ['<'] := by decide
        refine inside?_eq_some_iff.2 ?_
        rw [opened_succ, closed_succ, hopening]
        simp only [List.append_assoc, List.cons_append, List.nil_append]
      rw [← Nat.add_assoc, readingFuel, houter]
      simp only [ih]
      rfl

theorem reading_typeText {declared : FieldDeclaration}
    (h : ∀ target ∈ declared.content.target?, Identifier.Plain target) :
    reading declared.typeText =
      { kind := declared.content.readKind, target := declared.content.target?,
        optional := declared.options != 0 } := by
  have hread := requiredReading_typeText h
  have hlong : declared.options ≤ declared.typeText.length := by
    unfold FieldDeclaration.typeText
    rw [List.length_append, closed, List.length_replicate]
    omega
  have hfuel := readingFuel_options (inside?_option_typeText declared.content) hread declared.options
    (declared.typeText.length - declared.options)
  rwa [Nat.sub_add_cancel hlong] at hfuel

end Schema

end SampleData
