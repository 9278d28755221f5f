import SampleData.Proofs.Schema.Types

/-!
# Reading declared statements

Every statement of a declared schema is read as what it was written for.  The clauses of a field
are found one by one among its tokens, its assertions in the text of the statement.
-/

namespace SampleData

namespace Schema

open Text

/-! ## Keywords -/

theorem isKeyword_eq_false {keyword : String} (hkeyword : ∀ c ∈ keyword.toList, isUpperLetter c = true)
    {token : Token} {c : Char} (hc : c ∈ token) (hupper : isUpperLetter c = false)
    (hlower : isLowerLetter c = false) : isKeyword keyword token = false := by
  refine Bool.eq_false_iff.2 fun h => ?_
  have hsame : lower token = lower keyword.toList := eq_of_beq h
  have hmem : c ∈ lower keyword.toList := by
    have hsmall : lowerChar c = c := by simp [lowerChar, hupper]
    rw [← hsame, ← hsmall]
    exact List.mem_map_of_mem hc
  obtain ⟨letter, hletter, hsmall⟩ := List.mem_map.1 hmem
  have heq : letter = c := eq_of_lowerChar_eq hlower hsmall
  rw [← heq, hkeyword letter hletter] at hupper
  cases hupper

/-- The keywords that are looked for behind the table of a field, other than that of the type. -/
def clauseKeywords : List String :=
  ["VALUE", "DEFAULT", "COMMENT"]

theorem isUpperLetter_of_mem_clauseKeywords :
    ∀ keyword ∈ clauseKeywords, ∀ c ∈ keyword.toList, isUpperLetter c = true := by
  decide

theorem isKeyword_wrapped {keyword : String} (hkeyword : keyword ∈ clauseKeywords) {whole : List Char}
    (hwhole : isKeyword keyword whole = false) (options : Nat) :
    isKeyword keyword (opened options ++ whole ++ closed options) = false := by
  cases options with
  | zero => rwa [opened, closed, List.replicate_zero, List.replicate_zero, List.append_nil]
  | succ options =>
      have hopen : '<' ∈ opened (options + 1) ++ whole ++ closed (options + 1) := by
        rw [opened_succ]
        simp
      exact isKeyword_eq_false (isUpperLetter_of_mem_clauseKeywords keyword hkeyword) hopen (by decide)
        (by decide)

theorem open_mem_recordText (target : String) : '<' ∈ recordText target := by
  rw [recordText_eq]
  simp

theorem mentions_typeTokens {keyword : String} (hkeyword : keyword ∈ clauseKeywords)
    (declared : FieldDeclaration) : mentions keyword declared.typeTokens = false := by
  have hupper := isUpperLetter_of_mem_clauseKeywords keyword hkeyword
  have hbracket : ∀ {token : Token}, '<' ∈ token ∨ '>' ∈ token → isKeyword keyword token = false := by
    intro token htoken
    rcases htoken with hopen | hclose
    · exact isKeyword_eq_false hupper hopen (by decide) (by decide)
    · exact isKeyword_eq_false hupper hclose (by decide) (by decide)
  have hwhole : ∀ {whole : List Char}, isKeyword keyword whole = false →
      mentions keyword [opened declared.options ++ whole ++ closed declared.options] = false := by
    intro whole hwhole
    rw [mentions, List.any_cons, isKeyword_wrapped hkeyword hwhole]
    rfl
  unfold FieldDeclaration.typeTokens
  cases declared.content with
  | text conditions conjunction =>
      have hstring : ∀ keyword ∈ clauseKeywords, isKeyword keyword "string".toList = false := by decide
      exact hwhole (hstring keyword hkeyword)
  | scalar type =>
      have hword : ∀ keyword ∈ clauseKeywords, isKeyword keyword type.word.toList = false := by
        cases type <;> decide
      exact hwhole (hword keyword hkeyword)
  | link target => exact hwhole (hbracket (Or.inl (open_mem_recordText target)))
  | links distinct target most =>
      cases most with
      | none => exact hwhole (hbracket (Or.inl (by simp)))
      | some most =>
          refine mentions_eq_false_iff.2 (List.forall_mem_cons.2 ⟨hbracket (Or.inl (by simp)), ?_⟩)
          exact List.forall_mem_singleton.2 (hbracket (Or.inr (by simp)))

theorem exists_digit_of_isNumber {number : List Char} (h : isNumber number = true) :
    ∃ c ∈ number, isPlainDigit c = true := by
  have hsub : ∀ c ∈ unsigned number, c ∈ number := by
    intro c hc
    unfold unsigned at hc
    split at hc
    · exact List.mem_cons_of_mem _ hc
    · exact List.mem_cons_of_mem _ hc
    · exact hc
  unfold isNumber at h
  cases hdigits : unsigned number with
  | nil => simp [hdigits] at h
  | cons c rest =>
      simp only [hdigits, Bool.and_eq_true] at h
      exact ⟨c, hsub c (by simp [hdigits]), h.1.1⟩

theorem not_letter_of_isPlainDigit {c : Char} (h : isPlainDigit c = true) :
    isUpperLetter c = false ∧ isLowerLetter c = false := by
  simp only [isPlainDigit, Bool.and_eq_true, decide_eq_true_eq] at h
  have hhigh : c.toNat ≤ 57 := h.2
  constructor
  · refine Bool.eq_false_iff.2 fun hupper => ?_
    simp only [isUpperLetter, Bool.and_eq_true, decide_eq_true_eq] at hupper
    have hlow : 65 ≤ c.toNat := hupper.1
    omega
  · refine Bool.eq_false_iff.2 fun hlower => ?_
    simp only [isLowerLetter, Bool.and_eq_true, decide_eq_true_eq] at hlower
    have hlow : 97 ≤ c.toNat := hlower.1
    omega

theorem isKeyword_of_digit {keyword : String} (hkeyword : keyword ∈ clauseKeywords) {token : Token}
    {c : Char} (hc : c ∈ token) (hdigit : isPlainDigit c = true) : isKeyword keyword token = false :=
  isKeyword_eq_false (isUpperLetter_of_mem_clauseKeywords keyword hkeyword) hc
    (not_letter_of_isPlainDigit hdigit).1 (not_letter_of_isPlainDigit hdigit).2

theorem isKeyword_digitsOf {keyword : String} (hkeyword : keyword ∈ clauseKeywords) (n : Nat) :
    isKeyword keyword (digitsOf n) = false := by
  obtain ⟨c, hc⟩ := List.exists_mem_of_ne_nil _ (Nat.toDigits_ne_nil : Nat.toDigits 10 n ≠ [])
  exact isKeyword_of_digit hkeyword hc (isPlainDigit_of_mem_toDigits hc)

def assertWords : List Token :=
  ["ASSERT".toList, "AND".toList, "&&".toList, "<".toList, "<=".toList, "string::len($value)".toList,
    "string::is::email($value)".toList, "string::is::url($value)".toList]

theorem mem_conditionTokens {condition : Condition} {token : Token} (h : token ∈ condition.tokens) :
    token ∈ assertWords ∨ ∃ n, token = digitsOf n := by
  cases condition with
  | address address =>
      have hcalls : ∀ token ∈ (Condition.address address).tokens, token ∈ assertWords := by
        cases address <;> decide
      exact Or.inl (hcalls token h)
  | limit bound =>
      rcases List.mem_cons.1 h with rfl | h
      · exact Or.inl (by decide)
      · rcases List.mem_cons.1 h with rfl | h
        · unfold Limit.comparison
          split <;> exact Or.inl (by decide)
        · exact Or.inr ⟨bound.length, List.mem_singleton.1 h⟩

theorem mem_assertTokens {content : Content} {token : Token} (h : token ∈ content.assertTokens) :
    token ∈ assertWords ∨ ∃ n, token = digitsOf n := by
  cases content with
  | text conditions conjunction =>
      have hconjunction : conjunction.token ∈ assertWords := by cases conjunction <;> decide
      cases conditions with
      | nil => cases h
      | cons first others =>
          rcases List.mem_cons.1 h with rfl | h
          · exact Or.inl (by decide)
          · rcases List.mem_append.1 h with h | h
            · exact mem_conditionTokens h
            · obtain ⟨condition, -, h⟩ := List.mem_flatMap.1 h
              rcases List.mem_cons.1 h with rfl | h
              · exact Or.inl hconjunction
              · exact mem_conditionTokens h
  | scalar type => cases h
  | link target => cases h
  | links distinct target most => cases h

theorem mentions_assertTokens {keyword : String} (hkeyword : keyword ∈ clauseKeywords)
    (content : Content) : mentions keyword content.assertTokens = false := by
  have hwords : ∀ keyword ∈ clauseKeywords, ∀ token ∈ assertWords, isKeyword keyword token = false := by
    decide
  refine mentions_eq_false_iff.2 fun token htoken => ?_
  rcases mem_assertTokens htoken with hword | ⟨n, rfl⟩
  · exact hwords keyword hkeyword token hword
  · exact isKeyword_digitsOf hkeyword n

theorem mentions_commentTokens (declared : FieldDeclaration) :
    mentions "VALUE" declared.commentTokens = false ∧ mentions "DEFAULT" declared.commentTokens = false := by
  unfold FieldDeclaration.commentTokens
  cases declared.source with
  | none => exact ⟨rfl, rfl⟩
  | some source => cases source <;> exact ⟨by decide, by decide⟩

theorem mentions_defaultTokens {declared : FieldDeclaration} (h : declared.WellFormed) :
    mentions "VALUE" declared.defaultTokens = false ∧
      mentions "COMMENT" declared.defaultTokens = false ∧
        mentions "DEFAULT" declared.defaultTokens = declared.default.isSome := by
  unfold FieldDeclaration.defaultTokens
  cases hdefault : declared.default with
  | none => exact ⟨rfl, rfl, rfl⟩
  | some number =>
      obtain ⟨c, hc, hdigit⟩ := exists_digit_of_isNumber (h.default number hdefault)
      have hvalue : isKeyword "VALUE" "DEFAULT".toList = false := by decide
      have hcomment : isKeyword "COMMENT" "DEFAULT".toList = false := by decide
      have hnumber : ∀ {keyword}, keyword ∈ clauseKeywords → isKeyword keyword number.toList = false :=
        fun hkeyword => isKeyword_of_digit hkeyword hc hdigit
      refine ⟨mentions_eq_false_iff.2 ?_, mentions_eq_false_iff.2 ?_, ?_⟩
      · exact List.forall_mem_cons.2 ⟨hvalue, List.forall_mem_singleton.2 (hnumber (by decide))⟩
      · exact List.forall_mem_cons.2 ⟨hcomment, List.forall_mem_singleton.2 (hnumber (by decide))⟩
      · rfl

/-! ## Clauses -/

variable {declared : FieldDeclaration}

theorem typeOfClauses_clauses (h : declared.WellFormed) :
    typeOfClauses declared.clauses = declared.typeText := by
  have htype : isKeyword "TYPE" "TYPE".toList = true := by decide
  rw [typeOfClauses, FieldDeclaration.clauses, after?, if_pos htype, Option.bind_some,
    typeText?_append h.content, Option.getD_some]

theorem mentions_clauses {keyword : String} (hkeyword : keyword ∈ clauseKeywords) :
    mentions keyword declared.clauses =
      (mentions keyword declared.defaultTokens || mentions keyword declared.commentTokens) := by
  have htype : ∀ keyword ∈ clauseKeywords, mentions keyword ["TYPE".toList] = false := by decide
  rw [FieldDeclaration.clauses, ← List.singleton_append, mentions_append, mentions_append,
    mentions_append, mentions_append, htype keyword hkeyword, mentions_typeTokens hkeyword,
    mentions_assertTokens hkeyword]
  rfl

theorem mentions_value_clauses (h : declared.WellFormed) : mentions "VALUE" declared.clauses = false := by
  rw [mentions_clauses (by decide), (mentions_defaultTokens h).1, (mentions_commentTokens declared).1]
  rfl

theorem mentions_default_clauses (h : declared.WellFormed) :
    mentions "DEFAULT" declared.clauses = declared.default.isSome := by
  rw [mentions_clauses (by decide), (mentions_defaultTokens h).2.2, (mentions_commentTokens declared).2,
    Bool.or_false]

theorem ofAnnotation?_annotationOf (source : TextSource) :
    (afterOpening? "dummy:".toList (trimWhile isCommentPunctuation (annotationOf source))).bind
      TextSource.ofAnnotation? = some source := by
  cases source <;> decide +kernel

theorem commentSource?_clauses (h : declared.WellFormed) :
    commentSource? declared.clauses = declared.source := by
  have hfront : after? "COMMENT" declared.clauses = after? "COMMENT" declared.commentTokens := by
    have htype : mentions "COMMENT" ["TYPE".toList] = false := by decide
    rw [FieldDeclaration.clauses, ← List.singleton_append, after?_append_of_not_mentions htype,
      after?_append_of_not_mentions (mentions_typeTokens (by decide) declared),
      after?_append_of_not_mentions (mentions_assertTokens (by decide) declared.content),
      after?_append_of_not_mentions (mentions_defaultTokens h).2.1]
  have hcomment : isKeyword "COMMENT" "COMMENT".toList = true := by decide
  rw [commentSource?, hfront, FieldDeclaration.commentTokens]
  cases declared.source with
  | none => rfl
  | some source =>
      simp only [after?, hcomment, if_true]
      exact ofAnnotation?_annotationOf source

/-! ## Texts of statements -/

def spaced (tokens : List Token) : List Char :=
  tokens.flatMap (· ++ [' '])

theorem spaced_cons (token : Token) (tokens : List Token) :
    spaced (token :: tokens) = token ++ ' ' :: spaced tokens := by
  simp [spaced]

theorem words_spaced {tokens : List Token} (h : ∀ token ∈ tokens, token ≠ [] ∧ IsSolid token) :
    words (spaced tokens) = tokens := by
  induction tokens with
  | nil => exact words_nil
  | cons token tokens ih =>
      obtain ⟨⟨hne, hsolid⟩, htokens⟩ := List.forall_mem_cons.1 h
      rw [spaced_cons, words_append_blank (by decide), words_of_isSolid hne hsolid, ih htokens]
      rfl

theorem contains_lower_spaced {sought : List Char} (hne : sought ≠ []) (hblank : ' ' ∉ sought)
    (tokens : List Token) :
    contains sought (lower (spaced tokens)) = tokens.any fun token => contains sought (lower token) := by
  induction tokens with
  | nil => exact contains_nil hne
  | cons token tokens ih =>
      have hlower : lower (token ++ ' ' :: spaced tokens) = lower token ++ ' ' :: lower (spaced tokens) := by
        rw [lower_append]
        rfl
      rw [spaced_cons, hlower, contains_append_cons hne hblank, ih, List.any_cons]

def opensLength (token : Token) : Bool :=
  contains "string::len(".toList (token.map foldedLetter)

theorem isPrefixOf_of_afterFolded? {opening text rest : List Char}
    (h : afterFolded? opening text = some rest) :
    opening.isPrefixOf (text.map foldedLetter) = true := by
  obtain ⟨front, rfl, rfl⟩ := afterFolded?_eq_some_iff.1 h
  rw [List.map_append]
  exact List.isPrefixOf_iff_prefix.2 (List.prefix_append _ _)

theorem assertion?_append_token {token : Token} (h : opensLength token = false) (rest : List Char) :
    assertion? (token ++ ' ' :: rest) = assertion? rest := by
  induction token with
  | nil => exact assertion?_gap_append (by decide : IsGap [' ']) rest
  | cons c token ih =>
      rw [opensLength, List.map_cons, contains, Bool.or_eq_false_iff] at h
      obtain ⟨hfront, hmore⟩ := h
      -- the opening of an assertion has no blank, so it is not found across the end of the token
      have hnone : assertionAt? (c :: (token ++ ' ' :: rest)) = none := by
        have hopening : afterFolded? "string::len(".toList (c :: token) = none := by
          cases hafter : afterFolded? "string::len(".toList (c :: token) with
          | none => rfl
          | some back =>
              have hstart := isPrefixOf_of_afterFolded? hafter
              rw [List.map_cons, hfront] at hstart
              cases hstart
        have hlonger := afterFolded?_append_cons (by decide : foldedLetter ' ' ∉ "string::len(".toList)
          (c :: token) rest
        rw [hopening] at hlonger
        unfold assertionAt?
        rw [← List.cons_append, hlonger]
        rfl
      rw [List.cons_append, assertion?, hnone]
      exact ih hmore

theorem assertion?_spaced_append {front : List Token} (h : ∀ token ∈ front, opensLength token = false)
    (back : List Token) : assertion? (spaced (front ++ back)) = assertion? (spaced back) := by
  induction front with
  | nil => rfl
  | cons token front ih =>
      obtain ⟨htoken, hfront⟩ := List.forall_mem_cons.1 h
      rw [List.cons_append, spaced_cons, assertion?_append_token htoken, ih hfront]

def Limit.assertion (bound : Limit) : LengthAssertion :=
  { strict := bound.strict, digits := digitsOf bound.length }

theorem bound?_assertion {bound : Limit} (h : bound.length < lengthLimit) :
    bound.assertion.bound? = some bound.most := by
  rw [LengthAssertion.bound?, Limit.assertion, digitsOf, numeral?_toDigits h]
  rfl

theorem afterFolded?_append_self {opening : List Char} (h : opening.map foldedLetter = opening)
    (rest : List Char) : afterFolded? opening (opening ++ rest) = some rest :=
  afterFolded?_eq_some_iff.2 ⟨opening, rfl, h⟩

theorem comparison?_comparison (bound : Limit) (rest : List Char) :
    comparison? (bound.comparison ++ ' ' :: rest) = some (bound.strict, ' ' :: rest) := by
  unfold Limit.comparison
  cases bound.strict with
  | true => exact comparison?_less (by simp)
  | false => rfl

theorem isSolid_comparison (bound : Limit) : bound.comparison ≠ [] ∧ IsSolid bound.comparison := by
  unfold Limit.comparison
  split <;> exact ⟨by decide, by decide⟩

theorem isSolid_digitsOf (n : Nat) : digitsOf n ≠ [] ∧ IsSolid (digitsOf n) :=
  ⟨Nat.toDigits_ne_nil, fun _ hc =>
    Identifier.isBlank_of_isRest (isRest_of_isPlainDigit (isPlainDigit_of_mem_toDigits hc))⟩

theorem takeWhile_digitsOf (n : Nat) (rest : List Char) :
    (digitsOf n ++ ' ' :: rest).takeWhile isDecimalDigit = digitsOf n := by
  have hdigits : ∀ c ∈ digitsOf n, isDecimalDigit c = true := fun c hc =>
    isDecimalDigit_of_plain (isPlainDigit_of_mem_toDigits hc)
  rw [List.takeWhile_append_of_pos hdigits,
    List.takeWhile_cons_of_neg (by simp [isDecimalDigit_blank (by decide : isBlank ' ' = true)]),
    List.append_nil]

theorem assertionAt?_limit (bound : Limit) (rest : List Char) :
    assertionAt? ("string::len($value)".toList ++
      ' ' :: (bound.comparison ++ ' ' :: (digitsOf bound.length ++ ' ' :: rest))) = some bound.assertion := by
  have hcall : "string::len($value)".toList = "string::len(".toList ++ ("$value".toList ++ ")".toList) := by
    decide
  have hgap : ∀ text, trimStart (' ' :: text) = trimStart text :=
    fun text => trimStart_gap_append (by decide : IsGap [' ']) text
  have hopening := fun text => afterFolded?_append_self
    (by decide : "string::len(".toList.map foldedLetter = "string::len(".toList) text
  have hvalue := fun text => afterFolded?_append_self
    (by decide : "$value".toList.map foldedLetter = "$value".toList) text
  have hclosing := fun text => afterFolded?_append_self
    (by decide : ")".toList.map foldedLetter = ")".toList) text
  have hvalue' := fun text => trimStart_word_append
    (by decide : "$value".toList ≠ []) (by decide : IsSolid "$value".toList) text
  have hclosing' := fun text => trimStart_word_append
    (by decide : ")".toList ≠ []) (by decide : IsSolid ")".toList) text
  obtain ⟨hcomparison, hcomparison'⟩ := isSolid_comparison bound
  obtain ⟨hdigits, hdigits'⟩ := isSolid_digitsOf bound.length
  have hne : (digitsOf bound.length).isEmpty = false := List.isEmpty_eq_false_iff.2 hdigits
  unfold assertionAt?
  simp only [hcall, List.append_assoc, hopening, hvalue, hclosing, hvalue', hclosing', hgap,
    trimStart_word_append hcomparison hcomparison', trimStart_word_append hdigits hdigits',
    comparison?_comparison, takeWhile_digitsOf, hne, Option.bind_eq_bind, Option.bind_some]
  rfl

theorem assertion?_limit (bound : Limit) (rest : List Token) :
    assertion? (spaced ((Condition.limit bound).tokens ++ rest)) = some bound.assertion := by
  have hfound := assertionAt?_limit bound (spaced rest)
  have htext : spaced ((Condition.limit bound).tokens ++ rest) = "string::len($value)".toList ++
      ' ' :: (bound.comparison ++ ' ' :: (digitsOf bound.length ++ ' ' :: spaced rest)) := by
    rw [← spaced_cons, ← spaced_cons, ← spaced_cons]
    rfl
  rw [htext]
  cases hcases : "string::len($value)".toList ++
      ' ' :: (bound.comparison ++ ' ' :: (digitsOf bound.length ++ ' ' :: spaced rest)) with
  | nil =>
      rw [hcases] at hfound
      cases hfound
  | cons c text =>
      rw [hcases] at hfound
      rw [assertion?, hfound]

theorem assertion?_condition (condition : Condition) (rest : List Token) :
    assertion? (spaced (condition.tokens ++ rest)) =
      (condition.limit?.map Limit.assertion).or (assertion? (spaced rest)) := by
  cases condition with
  | limit bound => rw [assertion?_limit, Condition.limit?, Option.map_some, Option.some_or]
  | address address =>
      have hcalls : ∀ token ∈ (Condition.address address).tokens, opensLength token = false := by
        cases address <;> decide
      rw [assertion?_spaced_append hcalls, Condition.limit?, Option.map_none, Option.none_or]

/-- The first limit among the conditions is the one that is read. -/
theorem assertion?_assertTokens (content : Content) {rest : List Token}
    (hrest : ∀ token ∈ rest, opensLength token = false) :
    assertion? (spaced (content.assertTokens ++ rest)) = content.limit?.map Limit.assertion := by
  have hend : assertion? (spaced rest) = none := by
    have hall := assertion?_spaced_append hrest []
    rw [List.append_nil] at hall
    exact hall
  cases content with
  | scalar type => exact hend
  | link target => exact hend
  | links distinct target most => exact hend
  | text conditions conjunction =>
      have hconjunction : opensLength conjunction.token = false := by cases conjunction <;> decide
      have hothers : ∀ others : List Condition,
          assertion? (spaced ((others.flatMap fun condition => conjunction.token :: condition.tokens) ++ rest)) =
            (others.findSome? Condition.limit?).map Limit.assertion := by
        intro others
        induction others with
        | nil => exact hend
        | cons condition others ih =>
            rw [List.flatMap_cons, List.cons_append, List.cons_append, spaced_cons,
              assertion?_append_token hconjunction, List.append_assoc, assertion?_condition, ih,
              List.findSome?_cons]
            cases condition.limit? <;> rfl
      cases conditions with
      | nil => exact hend
      | cons first others =>
          have hassert : opensLength "ASSERT".toList = false := by decide
          rw [Content.assertTokens, List.cons_append, spaced_cons, assertion?_append_token hassert,
            List.append_assoc, assertion?_condition, hothers, Content.limit?, List.findSome?_cons]
          cases first.limit? <;> rfl

/-! ## What tokens assert -/

def Address.sought : Address → List Char
  | email => "is::email".toList
  | url => "is::url".toList

/-- A token in which no assertion is found, neither of a length nor of an address. -/
def AssertsNothing (token : Token) : Prop :=
  opensLength token = false ∧ ∀ address : Address, contains address.sought (lower token) = false

theorem assertsNothing_of_not_mem {token : Token} (hopen : '(' ∉ token) (hcolon : ':' ∉ token) :
    AssertsNothing token := by
  constructor
  · refine contains_eq_false (by decide : '(' ∈ "string::len(".toList) fun hmem => hopen ?_
    obtain ⟨c, hc, hfolded⟩ := List.mem_map.1 hmem
    rwa [eq_of_foldedLetter_eq (by decide) hfolded] at hc
  · intro address
    have hsought : ':' ∈ address.sought := by cases address <;> decide
    exact contains_eq_false hsought (not_mem_lower (by decide) hcolon)

def IsOrdinaryToken (token : Token) : Prop :=
  ∀ c ∈ token, isOrdinary c = true

instance : DecidablePred IsOrdinaryToken := fun _ => inferInstanceAs (Decidable (∀ _ ∈ _, _))

theorem IsOrdinaryToken.not_mem {token : Token} (h : IsOrdinaryToken token) {c : Char}
    (hc : isOrdinary c = false) : c ∉ token := by
  intro hmem
  rw [h c hmem] at hc
  cases hc

theorem IsOrdinaryToken.assertsNothing {token : Token} (h : IsOrdinaryToken token) :
    AssertsNothing token :=
  assertsNothing_of_not_mem (h.not_mem (by decide)) (h.not_mem (by decide))

theorem isNumberRest_of_mem {number : List Char} (h : isNumber number = true) :
    ∀ c ∈ number, isNumberRest c = true := by
  have hdigits : ∀ c ∈ unsigned number, isNumberRest c = true := by
    unfold isNumber at h
    cases hcases : unsigned number with
    | nil => exact nofun
    | cons first rest =>
        simp only [hcases, Bool.and_eq_true, List.all_eq_true] at h
        refine List.forall_mem_cons.2 ⟨?_, h.1.2⟩
        simp [isNumberRest, isRest_of_isPlainDigit h.1.1]
  unfold unsigned at hdigits
  split at hdigits
  · exact List.forall_mem_cons.2 ⟨by decide, hdigits⟩
  · exact List.forall_mem_cons.2 ⟨by decide, hdigits⟩
  · exact hdigits

theorem not_mem_of_isNumber {number : List Char} (h : isNumber number = true) {c : Char}
    (hc : isNumberRest c = false) : c ∉ number := by
  intro hmem
  rw [isNumberRest_of_mem h c hmem] at hc
  cases hc

namespace FieldDeclaration

def frontTokens (declared : FieldDeclaration) (table : String) : List Token :=
  "DEFINE".toList :: "FIELD".toList :: declared.name.toList ::
    (declared.scopeTokens table ++ "TYPE".toList :: declared.typeTokens)

theorem statement_eq (declared : FieldDeclaration) (table : String) :
    declared.statement table = declared.frontTokens table ++
      (declared.content.assertTokens ++ (declared.defaultTokens ++ declared.commentTokens)) := by
  simp only [statement, clauses, frontTokens, List.cons_append, List.append_assoc]

end FieldDeclaration

theorem mem_typeText_of_mem_typeTokens {token : Token} (h : token ∈ declared.typeTokens) {c : Char}
    (hc : c ∈ token) : c ∈ declared.typeText := by
  have hflat : declared.typeTokens.flatten = declared.typeText := by
    unfold FieldDeclaration.typeTokens FieldDeclaration.typeText Content.typeText
    generalize declared.content.typeParts = parts
    obtain ⟨front, back⟩ := parts
    cases back <;> simp
  rw [← hflat]
  exact List.mem_flatten.2 ⟨token, h, hc⟩

theorem isOrdinaryToken_frontTokens (h : declared.WellFormed) {table : String} (htable : IsName table) :
    ∀ token ∈ declared.frontTokens table, IsOrdinaryToken token := by
  have hname : IsOrdinaryToken declared.name.toList := isOrdinary_of_mem_name h.name.1
  have htable' : IsOrdinaryToken table.toList := isOrdinary_of_mem_name htable.1
  have htypes : ∀ token ∈ declared.typeTokens, IsOrdinaryToken token := fun token htoken c hc =>
    (isTypeChar_of_mem_fieldType h.content c (mem_typeText_of_mem_typeTokens htoken hc)).2
  have hscope : ∀ token ∈ declared.scopeTokens table, IsOrdinaryToken token := by
    unfold FieldDeclaration.scopeTokens
    split
    · exact List.forall_mem_cons.2 ⟨by decide, List.forall_mem_cons.2 ⟨by decide,
        List.forall_mem_singleton.2 htable'⟩⟩
    · exact List.forall_mem_cons.2 ⟨by decide, List.forall_mem_singleton.2 htable'⟩
  unfold FieldDeclaration.frontTokens
  simp only [List.forall_mem_cons, List.forall_mem_append]
  exact ⟨by decide, by decide, hname, hscope, by decide, htypes⟩

theorem assertsNothing_annotationOf (source : TextSource) : AssertsNothing (annotationOf source) := by
  have hclosed : ∀ address : Address, contains address.sought (lower (annotationOf source)) = false := by
    intro address
    cases address <;> cases source <;> decide
  exact ⟨by cases source <;> decide, hclosed⟩

theorem mem_backTokens (h : declared.WellFormed) {token : Token}
    (htoken : token ∈ declared.defaultTokens ++ declared.commentTokens) :
    IsOrdinaryToken token ∨ isNumber token = true ∨ ∃ source, token = annotationOf source := by
  rcases List.mem_append.1 htoken with htoken | htoken
  · unfold FieldDeclaration.defaultTokens at htoken
    cases hdefault : declared.default with
    | none =>
        rw [hdefault] at htoken
        cases htoken
    | some number =>
        rw [hdefault] at htoken
        rcases List.mem_cons.1 htoken with rfl | htoken
        · exact Or.inl (by decide)
        · rw [List.mem_singleton.1 htoken]
          exact Or.inr (Or.inl (h.default number hdefault))
  · unfold FieldDeclaration.commentTokens at htoken
    cases hsource : declared.source with
    | none =>
        rw [hsource] at htoken
        cases htoken
    | some source =>
        rw [hsource] at htoken
        rcases List.mem_cons.1 htoken with rfl | htoken
        · exact Or.inl (by decide)
        · exact Or.inr (Or.inr ⟨source, List.mem_singleton.1 htoken⟩)

theorem assertsNothing_backTokens (h : declared.WellFormed) :
    ∀ token ∈ declared.defaultTokens ++ declared.commentTokens, AssertsNothing token := by
  intro token htoken
  rcases mem_backTokens h htoken with hordinary | hnumber | ⟨source, rfl⟩
  · exact hordinary.assertsNothing
  · exact assertsNothing_of_not_mem (not_mem_of_isNumber hnumber (by decide))
      (not_mem_of_isNumber hnumber (by decide))
  · exact assertsNothing_annotationOf source

theorem assertion?_statement (h : declared.WellFormed) {table : String} (htable : IsName table) :
    assertion? (spaced (declared.statement table)) = declared.content.limit?.map Limit.assertion := by
  rw [FieldDeclaration.statement_eq, assertion?_spaced_append fun token htoken =>
      (isOrdinaryToken_frontTokens h htable token htoken).assertsNothing.1]
  exact assertion?_assertTokens declared.content fun token htoken =>
    (assertsNothing_backTokens h token htoken).1

theorem any_sought_condition (address : Address) (condition : Condition) :
    (condition.tokens.any fun token => contains address.sought (lower token)) =
      (condition == .address address) := by
  cases condition with
  | address other => cases address <;> cases other <;> decide
  | limit bound =>
      have hlen : contains address.sought (lower "string::len($value)".toList) = false := by
        cases address <;> decide
      have hcomparison : contains address.sought (lower bound.comparison) = false := by
        unfold Limit.comparison
        cases address <;> cases bound.strict <;> decide
      have hdigits : IsOrdinaryToken (digitsOf bound.length) := fun c hc =>
        (isTypeChar_of_mem_digitsOf bound.length c hc).2
      rw [Condition.tokens, List.any_cons, List.any_cons, List.any_cons, hlen, hcomparison,
        hdigits.assertsNothing.2 address]
      rfl

theorem any_sought_assertTokens (address : Address) (conditions : List Condition)
    (conjunction : Conjunction) :
    ((Content.text conditions conjunction).assertTokens.any fun token =>
      contains address.sought (lower token)) = conditions.any (· == .address address) := by
  have hconjunction : contains address.sought (lower conjunction.token) = false := by
    cases address <;> cases conjunction <;> decide
  have hassert : contains address.sought (lower "ASSERT".toList) = false := by
    cases address <;> decide
  have hothers : ∀ others : List Condition,
      ((others.flatMap fun condition => conjunction.token :: condition.tokens).any fun token =>
        contains address.sought (lower token)) = others.any (· == .address address) := by
    intro others
    induction others with
    | nil => rfl
    | cons condition others ih =>
        rw [List.flatMap_cons, List.cons_append, List.any_cons, List.any_append, hconjunction,
          any_sought_condition, ih, List.any_cons, Bool.false_or]
  cases conditions with
  | nil => rfl
  | cons first others =>
      rw [Content.assertTokens, List.any_cons, List.any_append, hassert, any_sought_condition, hothers,
        List.any_cons, Bool.false_or]

theorem contains_sought_statement (h : declared.WellFormed) {table : String} (htable : IsName table)
    {conditions : List Condition} {conjunction : Conjunction}
    (hcontent : declared.content = .text conditions conjunction) (address : Address) :
    contains address.sought (lower (spaced (declared.statement table))) =
      conditions.any (· == .address address) := by
  have hsought : address.sought ≠ [] ∧ ' ' ∉ address.sought := by
    cases address <;> exact ⟨by decide, by decide⟩
  have hfront : ((declared.frontTokens table).any fun token => contains address.sought (lower token)) = false :=
    List.any_eq_false.2 fun token htoken => by
      simp [(isOrdinaryToken_frontTokens h htable token htoken).assertsNothing.2 address]
  have hback : ((declared.defaultTokens ++ declared.commentTokens).any fun token =>
      contains address.sought (lower token)) = false :=
    List.any_eq_false.2 fun token htoken => by simp [(assertsNothing_backTokens h token htoken).2 address]
  rw [contains_lower_spaced hsought.1 hsought.2, FieldDeclaration.statement_eq, List.any_append,
    List.any_append, hfront, hback, hcontent, any_sought_assertTokens, Bool.or_false, Bool.false_or]

theorem assertedKind_statement (h : declared.WellFormed) {table : String} (htable : IsName table) :
    assertedKind (spaced (declared.statement table)) declared.content.readKind = declared.content.kind := by
  cases hcontent : declared.content with
  | text conditions conjunction =>
      have hemail : contains "is::email".toList (lower (spaced (declared.statement table))) =
          conditions.any (· == .address .email) := contains_sought_statement h htable hcontent .email
      have hurl : contains "is::url".toList (lower (spaced (declared.statement table))) =
          conditions.any (· == .address .url) := contains_sought_statement h htable hcontent .url
      have hmem : ∀ address : Address, conditions.any (· == .address address) =
          decide (Condition.address address ∈ conditions) := by
        intro address
        rw [Bool.eq_iff_iff]
        simp
      rw [hmem] at hemail hurl
      unfold assertedKind
      simp only [Content.readKind, Content.kind, hemail, hurl, if_true, decide_eq_true_eq]
  | scalar type => cases type <;> rfl
  | link target => rfl
  | links distinct target most => rfl

/-! ## Fields -/

theorem isInnerName_name (h : declared.WellFormed) : isInnerName declared.name = false := by
  have hsigns : (declared.name.toList.any fun c => c == '.' || c == '[' || c == '*') = false := by
    refine List.any_eq_false.2 fun c hc => ?_
    have hrest := Identifier.isRest_of_mem (Identifier.test_iff_plain.2 h.name.1) hc
    simp only [Bool.or_eq_true, beq_iff_eq]
    rintro ((rfl | rfl) | rfl) <;> exact absurd hrest (by decide)
  rw [isInnerName, hsigns, beq_false_of_ne h.not_id]
  rfl

theorem scope?_statement (declared : FieldDeclaration) {table : String} (htable : IsName table) :
    scope? (declared.scopeTokens table ++ declared.clauses) = some (table, declared.clauses) := by
  have hon : isKeyword "ON" "ON".toList = true := by decide
  have hword : isKeyword "TABLE" "TABLE".toList = true := by decide
  have hname : isKeyword "TABLE" table.toList = false := htable.not_reserved (by decide)
  unfold FieldDeclaration.scopeTokens
  split <;> simp only [List.cons_append, List.nil_append, scope?, after?, hon, hword, hname, if_true,
    Bool.false_eq_true, if_false, nameOf_name htable]

theorem typeText_ne_anyType (declared : FieldDeclaration) : declared.typeText ≠ anyType := by
  have hbracket : ∀ {text : List Char}, '<' ∈ text → text ≠ anyType := by
    intro text hmem heq
    rw [heq] at hmem
    exact absurd hmem (by decide)
  unfold FieldDeclaration.typeText
  cases declared.options with
  | succ options =>
      refine hbracket ?_
      rw [opened_succ]
      simp
  | zero =>
      have htext : opened 0 ++ declared.content.typeText ++ closed 0 = declared.content.typeText :=
        List.append_nil _
      rw [htext]
      cases declared.content with
      | text conditions conjunction => exact (by decide : "string".toList ≠ anyType)
      | scalar type => cases type <;> decide
      | link target =>
          rw [typeText_link]
          exact hbracket (open_mem_recordText target)
      | links distinct target most =>
          rw [typeText_links]
          exact hbracket (by simp)

/-- What a field's clauses say is what was declared; that it is unique is said elsewhere. -/
theorem fieldOfClauses_statement (h : declared.WellFormed) {table : String} (htable : IsName table)
    (maxLength : Option Nat) :
    fieldOfClauses (spaced (declared.statement table)) declared.name declared.clauses maxLength =
      { declared.field with unique := false, maxLength } := by
  have hany : (declared.typeText != anyType) = true := bne_iff_ne.2 (typeText_ne_anyType declared)
  have hrequired : (!(declared.options != 0) && !declared.default.isSome && true) =
      (declared.options == 0 && declared.default.isNone) := by
    cases declared.default <;> simp [bne]
  simp only [fieldOfClauses, typeOfClauses_clauses h, reading_typeText h.content.plain,
    assertedKind_statement h htable, mentions_default_clauses h, commentSource?_clauses h, hany, hrequired]
  rfl

theorem inRange_of_limit? {content : Content} (h : content.WellFormed) {bound : Limit}
    (hbound : content.limit? = some bound) : bound.length < lengthLimit := by
  cases content with
  | text conditions conjunction =>
      obtain ⟨condition, hmem, hlimit⟩ := List.exists_of_findSome?_eq_some hbound
      have hrange := h condition hmem
      cases condition with
      | limit other =>
          cases hlimit
          exact hrange
      | address address => cases hlimit
  | scalar type => cases hbound
  | link target => cases hbound
  | links distinct target most => cases hbound

theorem fieldOf?_statement (h : declared.WellFormed) {table : String} (htable : IsName table) :
    fieldOf? (spaced (declared.statement table))
        (declared.name.toList :: (declared.scopeTokens table ++ declared.clauses)) =
      some (table, { declared.field with unique := false }) := by
  have hfield := fieldOfClauses_statement h htable
  simp only [fieldOf?, scope?_statement declared htable, nameOf_name h.name, isInnerName_name h,
    mentions_value_clauses h, Bool.or_self, Bool.false_eq_true, if_false, assertion?_statement h htable]
  cases hlimit : declared.content.limit? with
  | none =>
      have hlength : declared.field.maxLength = none := by rw [FieldDeclaration.field, hlimit]; rfl
      simp only [Option.map_none, hfield, ← hlength]
  | some bound =>
      have hlength : declared.field.maxLength = some bound.most := by
        rw [FieldDeclaration.field, hlimit]
        rfl
      simp only [Option.map_some, bound?_assertion (inRange_of_limit? h.content hlimit), hfield]
      rw [hlength]

/-! ## Statements -/

theorem words_spaced_of_words_eq {piece : List Char} {tokens : List Token} (h : words piece = tokens) :
    words (spaced tokens) = tokens :=
  words_spaced fun _ htoken => mem_words (h ▸ htoken)

theorem ofStatement?_fieldStatement (app : String) (h : declared.WellFormed) {table : String}
    (htable : IsName table) {piece : List Char} (hpiece : words piece = declared.statement table) :
    Definition.ofStatement? app piece = some (.field table { declared.field with unique := false }) := by
  have hspaced := words_spaced_of_words_eq hpiece
  have hcut : words (spaced (declared.statement table)) = "DEFINE".toList :: "FIELD".toList ::
      (declared.name.toList :: (declared.scopeTokens table ++ declared.clauses)) := hspaced
  have hmodifier : ¬isModifier declared.name.toList = true := by simp [h.name.not_modifier]
  rw [Definition.ofStatement?_of_words_eq app (hpiece.trans hspaced.symm),
    ofStatement?_field app hcut (by simp) (by decide) (by decide),
    List.dropWhile_cons_of_neg hmodifier, fieldOf?_statement h htable]
  rfl

theorem ofStatement?_tableStatement (app : String) {declared : TableDeclaration} (hname : IsName declared.name)
    (hvisible : declared.name.toList.head? ≠ some '_') {piece : List Char}
    (hpiece : words piece = declared.statement) :
    Definition.ofStatement? app piece = some (.table declared.name app) := by
  have hdefine : isKeyword "DEFINE" "DEFINE".toList = true := by decide
  have hsort : isKeyword "TABLE" "TABLE".toList = true := by decide
  have hmodifier : ¬isModifier declared.name.toList = true := by simp [hname.not_modifier]
  have hrelation : isRelationTable ["SCHEMAFULL".toList] = false := by decide
  have hstart : declared.name.startsWith "_" = false := by
    rw [String.startsWith_string_eq_false_iff]
    rintro ⟨rest, hrest⟩
    rw [← hrest] at hvisible
    exact hvisible rfl
  rw [Definition.ofStatement?, hpiece, TableDeclaration.statement]
  simp only [hdefine, hsort, if_true, List.dropWhile_cons_of_neg hmodifier, tableOf?, nameOf_name hname,
    hstart, hrelation, Bool.or_self, Bool.false_eq_true, if_false, Option.map_some]

theorem columnsOf_name {name : String} (h : IsName name) : columnsOf [name.toList] = [name] := by
  have hcomma : ',' ∉ name.toList := Identifier.not_mem_of_plain h.1 (by decide)
  have hne : name ≠ "" := fun heq => Identifier.toList_ne_nil_of_plain h.1 (by rw [heq]; rfl)
  rw [columnsOf, joined, List.intercalate_singleton, List.splitOn_eq_singleton hcomma]
  simp only [List.map_cons, List.map_nil, trim_eq_self (Identifier.isSolid_of_plain h.1), nameOf_name h]
  simp [hne]

theorem ofStatement?_indexStatement (app : String) (h : declared.WellFormed) {table index : String}
    (htable : IsName table) (hindex : IsName index) {piece : List Char}
    (hpiece : words piece = declared.indexStatement table index) :
    Definition.ofStatement? app piece = some (.uniqueColumn table declared.name) := by
  have hdefine : isKeyword "DEFINE" "DEFINE".toList = true := by decide
  have hsort : isKeyword "INDEX" "INDEX".toList = true := by decide
  have htable' : isKeyword "TABLE" "INDEX".toList = false := by decide
  have hfield : isKeyword "FIELD" "INDEX".toList = false := by decide
  have hmodifier : ¬isModifier index.toList = true := by simp [hindex.not_modifier]
  have hscope : scope? ["ON".toList, table.toList, "FIELDS".toList, declared.name.toList, "UNIQUE".toList] =
      some (table, ["FIELDS".toList, declared.name.toList, "UNIQUE".toList]) := by
    have hon : isKeyword "ON" "ON".toList = true := by decide
    have hname : isKeyword "TABLE" table.toList = false := htable.not_reserved (by decide)
    simp only [scope?, after?, hon, hname, if_true, Bool.false_eq_true, if_false, nameOf_name htable]
  have hcolumns : uniqueColumns? ["FIELDS".toList, declared.name.toList, "UNIQUE".toList] =
      some [declared.name.toList] := by
    have hfields : isKeyword "UNIQUE" "FIELDS".toList = false := by decide
    have hfields' : isKeyword "FIELDS" "FIELDS".toList = true := by decide
    have hunique : isKeyword "UNIQUE" "UNIQUE".toList = true := by decide
    have hname : isKeyword "UNIQUE" declared.name.toList = false := h.name.not_reserved (by decide)
    simp only [uniqueColumns?, List.findIdx?_cons, hfields, hfields', hunique, hname]
    rfl
  rw [Definition.ofStatement?, hpiece, FieldDeclaration.indexStatement]
  simp only [hdefine, hsort, htable', hfield, if_true, Bool.false_eq_true, if_false,
    List.dropWhile_cons_of_neg hmodifier, uniqueColumnOf?, List.tail_cons, hscope, Option.bind_eq_bind,
    Option.bind_some, hcolumns, columnsOf_name h.name, Option.map_some]

end Schema

end SampleData
