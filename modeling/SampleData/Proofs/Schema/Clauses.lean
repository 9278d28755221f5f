import SampleData.Proofs.Schema.Spacing

/-!
# Clauses put together

Where a statement is put together from parts, what is sought in it is found in the first part
that holds it: keywords among its tokens, assertions in its text.
-/

namespace SampleData

namespace Schema

open Text

/-! ## Keywords -/

theorem after?_append (keyword : String) (front back : List Token) :
    after? keyword (front ++ back) =
      ((after? keyword front).map (· ++ back)).or (after? keyword back) := by
  induction front with
  | nil => rfl
  | cons token front ih =>
      by_cases hkeyword : isKeyword keyword token = true
      · simp [after?, hkeyword]
      · simp only [List.cons_append, after?, hkeyword, ih]
        rfl

theorem after?_eq_none_iff {keyword : String} {tokens : List Token} :
    after? keyword tokens = none ↔ mentions keyword tokens = false := by
  induction tokens with
  | nil => simp [after?, mentions]
  | cons token tokens ih =>
      by_cases hkeyword : isKeyword keyword token = true
      · simp [after?, mentions, hkeyword]
      · have hrest : mentions keyword (token :: tokens) = mentions keyword tokens := by
          simp [mentions, hkeyword]
        rw [hrest, ← ih, after?, if_neg hkeyword]

theorem mentions_append (keyword : String) (front back : List Token) :
    mentions keyword (front ++ back) = (mentions keyword front || mentions keyword back) :=
  List.any_append

theorem mentions_eq_false_iff {keyword : String} {tokens : List Token} :
    mentions keyword tokens = false ↔ ∀ token ∈ tokens, isKeyword keyword token = false := by
  simp [mentions]

theorem after?_append_of_not_mentions {keyword : String} {front : List Token}
    (h : mentions keyword front = false) (back : List Token) :
    after? keyword (front ++ back) = after? keyword back := by
  rw [after?_append, after?_eq_none_iff.2 h]
  rfl

theorem mem_of_after?_eq_some {keyword : String} {tokens later : List Token}
    (h : after? keyword tokens = some later) : ∀ token ∈ later, token ∈ tokens := by
  induction tokens with
  | nil => cases h
  | cons first tokens ih =>
      rw [after?] at h
      split at h
      · cases h
        exact fun token => List.mem_cons_of_mem first
      · exact fun token hmem => List.mem_cons_of_mem first (ih h token hmem)

/-! ## Types -/

theorem beforeClosing?_eq_some_iff {closing : Char} {text front : List Char} :
    beforeClosing? closing text = some front ↔ text = front ++ [closing] := by
  have hreverse : text = text.reverse.reverse := text.reverse_reverse.symm
  rw [hreverse, beforeClosing?, List.reverse_reverse]
  cases text.reverse with
  | nil => simp
  | cons c back =>
      by_cases hc : c = closing
      · simp [hc]
      · simp [hc]

theorem inside?_eq_some_iff {outer : String} {text inner : List Char} :
    inside? outer text = some inner ↔ text = outer.toList ++ '<' :: (inner ++ ['>']) := by
  simp only [inside?, Option.bind_eq_some_iff, afterOpening?_eq_some_iff, beforeClosing?_eq_some_iff]
  constructor
  · rintro ⟨rest, htext, rfl⟩
    simpa using htext
  · intro htext
    exact ⟨inner ++ ['>'], by simpa using htext, rfl⟩

theorem mem_of_plainKind?_eq_some {type : List Char} {kind : FieldKind} (h : plainKind? type = some kind) :
    kind ∈ [FieldKind.shortText, .integer, .decimal, .boolean, .dateTime] := by
  unfold plainKind? at h
  split_ifs at h <;> cases h <;> decide

/--
A type that is not optional has a plain kind, links to something, or is of no kind that is
known.
-/
theorem requiredReading_cases (type : List Char) :
    (∃ kind, plainKind? type = some kind ∧ requiredReading type = { kind }) ∨
      (∃ kind target, kind.isLink = true ∧ requiredReading type = { kind, target := some target }) ∨
        requiredReading type = { kind := .other } := by
  unfold requiredReading
  cases hplain : plainKind? type with
  | some kind => exact Or.inl ⟨kind, rfl, rfl⟩
  | none =>
      cases inside? "record" type with
      | some target => exact Or.inr (Or.inl ⟨.foreignKey, linkTarget target, rfl, rfl⟩)
      | none =>
          cases (items? type).bind itemTarget? with
          | some target => exact Or.inr (Or.inl ⟨.manyToMany, target, rfl, rfl⟩)
          | none => exact Or.inr (Or.inr rfl)

/--
What holds of every type that is not optional, and still when it is optional, holds of every
type.
-/
theorem reading_induction {motive : TypeReading → Prop}
    (hrequired : ∀ type, motive (requiredReading type))
    (hoptional : ∀ read : TypeReading, motive read → motive { read with optional := true })
    (type : List Char) : motive (reading type) := by
  have hfuel : ∀ (fuel : Nat) (type : List Char), motive (readingFuel fuel type) := by
    intro fuel
    induction fuel with
    | zero => exact hrequired
    | succ fuel ih =>
        intro type
        rw [readingFuel]
        split
        · exact hoptional _ (ih _)
        · exact hrequired type
  exact hfuel type.length type

theorem target_reading (type : List Char) (h : (reading type).kind.isLink = true) :
    (reading type).target ≠ none := by
  revert h
  apply reading_induction (motive := fun read => read.kind.isLink = true → read.target ≠ none)
  · intro type
    rcases requiredReading_cases type with ⟨kind, hkind, heq⟩ | ⟨kind, target, -, heq⟩ | heq
    · rw [heq]
      intro hlink
      have hmem := mem_of_plainKind?_eq_some hkind
      have hplain : ∀ kind ∈ [FieldKind.shortText, .integer, .decimal, .boolean, .dateTime],
          kind.isLink = false := by decide
      rw [hplain kind hmem] at hlink
      cases hlink
    · rw [heq]
      exact fun _ => nofun
    · rw [heq]
      exact nofun
  · exact fun read hread => hread

theorem kind_reading_ne_longText (type : List Char) : (reading type).kind ≠ .longText := by
  apply reading_induction (motive := fun read => read.kind ≠ .longText)
  · intro type
    rcases requiredReading_cases type with ⟨kind, hkind, heq⟩ | ⟨kind, target, hlink, heq⟩ | heq
    · rw [heq]
      rintro rfl
      exact absurd (mem_of_plainKind?_eq_some hkind) (by decide)
    · rw [heq]
      rintro rfl
      cases hlink
    · rw [heq]
      exact nofun
  · exact fun read hread => hread

/-! ## Kinds that are asserted -/

theorem assertedKind_cases (statement : List Char) (kind : FieldKind) :
    assertedKind statement kind = kind ∨
      kind = .shortText ∧ (assertedKind statement kind = .email ∨ assertedKind statement kind = .url) := by
  unfold assertedKind
  split
  · rename_i hshort
    dsimp only
    split
    · exact Or.inr ⟨hshort, Or.inl rfl⟩
    · split
      · exact Or.inr ⟨hshort, Or.inr rfl⟩
      · exact Or.inl rfl
  · exact Or.inl rfl

theorem isLink_assertedKind (statement : List Char) (kind : FieldKind) :
    (assertedKind statement kind).isLink = kind.isLink := by
  rcases assertedKind_cases statement kind with heq | ⟨rfl, heq | heq⟩ <;> rw [heq] <;> rfl

/-! ## Assertions -/

theorem eq_of_foldedLetter_eq {c other : Char} (hother : isLowerLetter other = false)
    (h : foldedLetter c = other) : c = other := by
  unfold foldedLetter at h
  split at h
  · rw [← h] at hother
    exact absurd hother (by decide)
  · exact eq_of_lowerChar_eq hother h

theorem afterFolded?_eq_some_iff {opening text rest : List Char} :
    afterFolded? opening text = some rest ↔
      ∃ front, text = front ++ rest ∧ front.map foldedLetter = opening := by
  induction opening generalizing text with
  | nil => simp [afterFolded?, eq_comm]
  | cons o opening ih =>
      constructor
      · intro h
        cases text with
        | nil => cases h
        | cons c text =>
            rw [afterFolded?] at h
            split at h
            · rename_i hc
              obtain ⟨front, rfl, hfront⟩ := ih.1 h
              exact ⟨c :: front, rfl, by rw [List.map_cons, hfront, hc]⟩
            · cases h
      · rintro ⟨front, rfl, hfront⟩
        obtain ⟨c, front, rfl, hc, hmore⟩ := List.map_eq_cons_iff.1 hfront
        rw [List.cons_append, afterFolded?, if_pos hc.symm]
        exact ih.2 ⟨front, rfl, hmore⟩

theorem afterFolded?_eq_none {opening text : List Char} {c : Char} (hc : isLowerLetter c = false)
    (hopening : c ∈ opening) (htext : c ∉ text) : afterFolded? opening text = none := by
  induction opening generalizing text with
  | nil => cases hopening
  | cons o opening ih =>
      cases text with
      | nil => rfl
      | cons first text =>
          rw [afterFolded?]
          split
          · rename_i hfirst
            obtain ⟨hne, hmore⟩ := not_or.1 (mt List.mem_cons.2 htext)
            rcases List.mem_cons.1 hopening with rfl | hmem
            · exact absurd (eq_of_foldedLetter_eq hc hfirst.symm).symm hne
            · exact ih hmem hmore
          · rfl

/-- An opening that lacks a mark is read up to the mark as if the text ended there. -/
theorem afterFolded?_append_cons {opening : List Char} {mark : Char} (hmark : foldedLetter mark ∉ opening)
    (text rest : List Char) :
    afterFolded? opening (text ++ mark :: rest) =
      (afterFolded? opening text).map (· ++ mark :: rest) := by
  induction opening generalizing text with
  | nil => rfl
  | cons o opening ih =>
      obtain ⟨hne, hmore⟩ := not_or.1 (mt List.mem_cons.2 hmark)
      cases text with
      | nil => simp [afterFolded?, Ne.symm hne]
      | cons c text =>
          simp only [List.cons_append, afterFolded?]
          split
          · exact ih hmore text
          · rfl

/--
A character over which no assertion reaches: no blank, no digit, and none of those that one is
written with.
-/
def IsBarrier (mark : Char) : Prop :=
  isBlank mark = false ∧ isDecimalDigit mark = false ∧ foldedLetter mark ∉ "string::len($value)<=".toList

instance : DecidablePred IsBarrier := fun _ => inferInstanceAs (Decidable (_ ∧ _))

theorem takeWhile_append_cons {p : Char → Bool} {mark : Char} (hmark : p mark = false)
    (text rest : List Char) : (text ++ mark :: rest).takeWhile p = text.takeWhile p := by
  induction text with
  | nil => simp [hmark]
  | cons c text ih => rw [List.cons_append, List.takeWhile_cons, List.takeWhile_cons, ih]

section

variable {mark : Char} (hmark : IsBarrier mark)
include hmark

theorem IsBarrier.not_mem {opening : List Char} (h : opening ⊆ "string::len($value)<=".toList) :
    foldedLetter mark ∉ opening :=
  fun hmem => hmark.2.2 (h hmem)

theorem trimStart_append_barrier (text rest : List Char) :
    trimStart (text ++ mark :: rest) = trimStart text ++ mark :: rest := by
  unfold trimStart
  rw [List.dropWhile_append]
  split
  · rename_i hempty
    rw [List.isEmpty_iff.1 hempty]
    simp [hmark.1]
  · rfl

theorem comparison?_append_barrier (text rest : List Char) :
    comparison? (text ++ mark :: rest) =
      (comparison? text).map fun (strict, back) => (strict, back ++ mark :: rest) := by
  have hsign : ∀ sign ∈ ['<', '='], mark ≠ sign := by
    rintro sign hsign rfl
    rcases List.mem_cons.1 hsign with rfl | hequal
    · exact hmark.2.2 (by decide)
    · rw [List.mem_singleton.1 hequal] at hmark
      exact hmark.2.2 (by decide)
  have hless : mark ≠ '<' := hsign '<' (by decide)
  have hequal : mark ≠ '=' := hsign '=' (by decide)
  match text with
  | [] => exact comparison?_of_ne (by simpa using hless)
  | [c] =>
      by_cases hc : c = '<'
      · rw [hc]
        exact comparison?_less (by simpa using hequal)
      · rw [comparison?_of_ne (by simpa using hc), comparison?_of_ne (by simpa using hc)]
        rfl
  | c :: d :: text =>
      by_cases hc : c = '<'
      · rw [hc]
        by_cases hd : d = '='
        · rw [hd]
          rfl
        · have hne : ∀ more : List Char, (d :: more).head? ≠ some '=' := by simpa using hd
          rw [List.cons_append, List.cons_append, comparison?_less (hne _), comparison?_less (hne _)]
          rfl
      · rw [comparison?_of_ne (by simpa using hc), comparison?_of_ne (by simpa using hc)]
        rfl

theorem assertionAt?_append_barrier (text rest : List Char) :
    assertionAt? (text ++ mark :: rest) = assertionAt? text := by
  have hrel : ∀ {opening : List Char}, opening ⊆ "string::len($value)<=".toList → ∀ text : List Char,
      Option.Rel (fun long short => long = short ++ mark :: rest)
        (afterFolded? opening (text ++ mark :: rest)) (afterFolded? opening text) := by
    intro opening hopening text
    rw [afterFolded?_append_cons (hmark.not_mem hopening)]
    cases afterFolded? opening text with
    | none => exact .none
    | some back => exact .some rfl
  unfold assertionAt?
  refine bind_eq_of_rel (hrel (by decide) text) fun _ back hback => ?_
  rw [hback, trimStart_append_barrier hmark]
  refine bind_eq_of_rel (hrel (by decide) (trimStart back)) fun _ back hback => ?_
  rw [hback, trimStart_append_barrier hmark]
  refine bind_eq_of_rel (hrel (by decide) (trimStart back)) fun _ back hback => ?_
  rw [hback, trimStart_append_barrier hmark, comparison?_append_barrier hmark]
  cases comparison? (trimStart back) with
  | none => rfl
  | some compared =>
      obtain ⟨strict, digits⟩ := compared
      have hdigits : (trimStart digits ++ mark :: rest).takeWhile isDecimalDigit =
          (trimStart digits).takeWhile isDecimalDigit :=
        takeWhile_append_cons hmark.2.1 (trimStart digits) rest
      simp only [Option.map_some, Option.bind_eq_bind, Option.bind_some,
        trimStart_append_barrier hmark, hdigits]

theorem assertion?_append_barrier (text rest : List Char) :
    assertion? (text ++ mark :: rest) = (assertion? text).or (assertion? rest) := by
  induction text with
  | nil =>
      have hnone : assertionAt? (mark :: rest) = none := assertionAt?_append_barrier hmark [] rest
      have hrest : assertion? (mark :: rest) = assertion? rest := by rw [assertion?, hnone]
      exact hrest
  | cons c text ih =>
      rw [List.cons_append, assertion?, ← List.cons_append, assertionAt?_append_barrier hmark, assertion?]
      cases assertionAt? (c :: text) with
      | some assertion => rfl
      | none => exact ih

end

theorem assertion?_eq_none {text : List Char} (h : ':' ∉ text) : assertion? text = none := by
  induction text with
  | nil => rfl
  | cons c text ih =>
      have hnone : assertionAt? (c :: text) = none := by
        unfold assertionAt?
        rw [afterFolded?_eq_none (by decide) (by decide) h]
        rfl
      rw [assertion?, hnone]
      exact ih fun hmem => h (List.mem_cons_of_mem c hmem)

/-! ## Sorts of statements -/

/-- A token is one keyword at most. -/
theorem isKeyword_eq {keyword : String} {token : Token} (h : isKeyword keyword token = true)
    (other : String) : isKeyword other token = (lower keyword.toList == lower other.toList) := by
  have hlower : lower token = lower keyword.toList := eq_of_beq h
  rw [isKeyword, sameLetters, hlower]

theorem ofStatement?_field (app : String) {statement : List Char} {define sort : Token}
    {tokens : List Token} (hwords : words statement = define :: sort :: tokens) (hne : tokens ≠ [])
    (hdefine : isKeyword "DEFINE" define = true) (hsort : isKeyword "FIELD" sort = true) :
    Definition.ofStatement? app statement =
      (fieldOf? statement (tokens.dropWhile isModifier)).map fun (name, made) => .field name made := by
  have htable : isKeyword "TABLE" sort = false := by
    rw [isKeyword_eq hsort]
    decide
  cases tokens with
  | nil => exact absurd rfl hne
  | cons token rest =>
      rw [Definition.ofStatement?, hwords]
      simp only [hdefine, hsort, htable, if_true, Bool.false_eq_true, if_false]

/--
A statement that defines a field has the words for it, and the field is read off the tokens
behind them.
-/
theorem exists_of_ofStatement?_eq_field {app table : String} {statement : List Char} {made : Field}
    (h : Definition.ofStatement? app statement = some (.field table made)) :
    ∃ define sort tokens, words statement = define :: sort :: tokens ∧
      isKeyword "DEFINE" define = true ∧ isKeyword "FIELD" sort = true ∧
        fieldOf? statement (tokens.dropWhile isModifier) = some (table, made) := by
  rw [Definition.ofStatement?] at h
  split at h
  · rename_i define sort token rest hwords
    dsimp only at h
    split_ifs at h with hdefine htable hfield
    · obtain ⟨_, -, htable⟩ := Option.map_eq_some_iff.1 h
      cases htable
    · obtain ⟨⟨name, field⟩, hread, hmade⟩ := Option.map_eq_some_iff.1 h
      cases hmade
      exact ⟨define, sort, token :: rest, hwords, hdefine, hfield, hread⟩
    · obtain ⟨_, -, hcolumn⟩ := Option.map_eq_some_iff.1 h
      cases hcolumn
  · cases h

theorem exists_of_fieldOf?_eq_some {statement : List Char} {tokens : List Token} {table : String}
    {made : Field} (h : fieldOf? statement tokens = some (table, made)) :
    ∃ token rest clauses limit, tokens = token :: rest ∧ scope? rest = some (table, clauses) ∧
      isInnerName (nameOf token) = false ∧ mentions "VALUE" clauses = false ∧
        (assertion? statement).mapM LengthAssertion.bound? = some limit ∧
          made = fieldOfClauses statement (nameOf token) clauses limit := by
  cases tokens with
  | nil => cases h
  | cons token rest =>
      rw [fieldOf?] at h
      split at h
      · cases h
      · rename_i scope clauses hscope
        dsimp only at h
        split_ifs at h with hrefused
        obtain ⟨hinner, hvalue⟩ := Bool.or_eq_false_iff.1 (Bool.eq_false_iff.2 hrefused)
        split at h
        · rename_i hnone
          cases h
          exact ⟨token, rest, clauses, none, rfl, hscope, hinner, hvalue, by rw [hnone]; rfl, rfl⟩
        · rename_i assertion hassertion
          split at h
          · cases h
          · rename_i bound hbound
            cases h
            refine ⟨token, rest, clauses, some bound, rfl, hscope, hinner, hvalue, ?_, rfl⟩
            rw [hassertion, Option.mapM_some, hbound]
            rfl

end Schema

end SampleData
