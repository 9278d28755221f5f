import SampleData.Proofs.Schema.Clauses

/-!
# Prose of comment clauses

The clauses of a field are found by keywords among the words of its statement, those between
quotes included.  So a comment counts for nothing only while it holds none of the keywords.
-/

namespace SampleData

namespace Schema

open Text

/-! ## Commented statements -/

def commentKeyword : Token :=
  "COMMENT".toList

def quotedProse (prose : List Char) : List Char :=
  '"' :: (prose ++ ['"'])

def commented (front gap between prose : List Char) : List Char :=
  front ++ (gap ++ (commentKeyword ++ (between ++ quotedProse prose)))

/-- The words of a quoted comment, the quotes belonging to the first and the last. -/
def proseTokens (prose : List Char) : List Token :=
  words (quotedProse prose)

/-- Prose has no colons and no angle brackets, so it is no annotation and writes no type. -/
def IsProse (prose : List Char) : Prop :=
  ∀ c ∈ prose, c ≠ ':' ∧ c ≠ '<' ∧ c ≠ '>'

/-- None of the keywords by which the clauses of a field are found is a word of a comment. -/
def IsDiscreet (prose : List Char) : Prop :=
  ∀ keyword ∈ ["ON", "TYPE", "VALUE", "DEFAULT"], mentions keyword (proseTokens prose) = false

instance : DecidablePred IsProse := fun _ => inferInstanceAs (Decidable (∀ _ ∈ _, _))

instance : DecidablePred IsDiscreet := fun _ => inferInstanceAs (Decidable (∀ _ ∈ _, _))

def DefinesField (statement : List Char) : Prop :=
  ∃ define sort tokens, words statement = define :: sort :: tokens ∧
    isKeyword "DEFINE" define = true ∧ isKeyword "FIELD" sort = true

theorem words_commented {gap between : List Char} (hgap : gap ≠ []) (hblank : IsGap gap)
    (hbetween : between ≠ []) (hblank' : IsGap between) (front prose : List Char) :
    words (commented front gap between prose) =
      words front ++ commentKeyword :: proseTokens prose := by
  rw [commented, words_append_gap hgap hblank,
    words_cons_append_gap (by decide) (by decide) hbetween hblank']
  rfl

theorem mem_of_mem_proseTokens {prose : List Char} {token : Token} (h : token ∈ proseTokens prose)
    {c : Char} (hc : c ∈ token) : c = '"' ∨ c ∈ prose := by
  have hflat : c ∈ (proseTokens prose).flatten := List.mem_flatten.2 ⟨token, h, hc⟩
  rw [proseTokens, flatten_words, quotedProse] at hflat
  have hmem := List.mem_of_mem_filter hflat
  simp only [List.mem_cons, List.mem_append, List.not_mem_nil, or_false] at hmem
  rcases hmem with hquote | hprose | hquote
  · exact Or.inl hquote
  · exact Or.inr hprose
  · exact Or.inl hquote

theorem IsProse.not_mem {prose : List Char} (h : IsProse prose) {token : Token}
    (htoken : token ∈ proseTokens prose) : ':' ∉ token ∧ '<' ∉ token ∧ '>' ∉ token := by
  have hnot : ∀ {c : Char}, c ∈ token → c ≠ ':' ∧ c ≠ '<' ∧ c ≠ '>' := by
    intro c hc
    rcases mem_of_mem_proseTokens htoken hc with rfl | hprose
    · decide
    · exact h c hprose
  exact ⟨fun hc => (hnot hc).1 rfl, fun hc => (hnot hc).2.1 rfl, fun hc => (hnot hc).2.2 rfl⟩

theorem exists_proseTokens_flatten (prose : List Char) :
    ∃ front, (proseTokens prose).flatten = front ++ ['"'] := by
  have hquote : isBlank '"' = false := by decide
  refine ⟨('"' :: prose).filter fun c => !isBlank c, ?_⟩
  rw [proseTokens, flatten_words, quotedProse, ← List.cons_append, List.filter_append]
  simp [hquote]

/-! ## Types -/

theorem depthAfter_of_not_mem {token : Token} (hopen : '<' ∉ token) (hclose : '>' ∉ token)
    (depth : Nat) : depthAfter depth token = depth := by
  rw [depthAfter, List.count_eq_zero_of_not_mem hopen, List.count_eq_zero_of_not_mem hclose]
  rfl

/-- Inside a bracket that nothing closes the type goes on to the end. -/
theorem typeTokens_of_open {depth : Nat} (hdepth : 0 < depth) {tokens : List Token}
    (h : ∀ token ∈ tokens, '<' ∉ token ∧ '>' ∉ token) : typeTokens depth tokens = tokens.flatten := by
  induction tokens with
  | nil => rfl
  | cons token tokens ih =>
      obtain ⟨⟨hopen, hclose⟩, htokens⟩ := List.forall_mem_cons.1 h
      have hne : depth ≠ 0 := by omega
      simp only [typeTokens, depthAfter_of_not_mem hopen hclose, if_neg hne, ih htokens,
        List.flatten_cons]

/-- A type ends among the tokens it starts with, or a bracket is open behind them. -/
theorem typeTokens_append_cases {tokens : List Token} (hne : tokens ≠ []) (depth : Nat) :
    (∀ more, typeTokens depth (tokens ++ more) = typeTokens depth tokens) ∨
      ∃ inner, 0 < inner ∧
        ∀ more, typeTokens depth (tokens ++ more) = typeTokens depth tokens ++ typeTokens inner more := by
  induction tokens generalizing depth with
  | nil => exact absurd rfl hne
  | cons token tokens ih =>
      by_cases hclosed : depthAfter depth token = 0
      · exact Or.inl fun more => by simp [typeTokens, hclosed]
      · by_cases hlast : tokens = []
        · refine Or.inr ⟨depthAfter depth token, Nat.pos_of_ne_zero hclosed, fun more => ?_⟩
          simp [typeTokens, hclosed, hlast]
        · rcases ih hlast (depthAfter depth token) with hsame | ⟨inner, hpos, hmore⟩
          · exact Or.inl fun more => by simp [typeTokens, hclosed, hsame]
          · exact Or.inr ⟨inner, hpos, fun more => by simp [typeTokens, hclosed, hmore]⟩

/-- A type that a quote ends is none that is known, and it is required. -/
theorem reading_of_quote (text : List Char) :
    reading (text ++ ['"']) = { kind := .other } ∧ text ++ ['"'] ≠ anyType := by
  have hne : ∀ {other : List Char}, other.getLast? ≠ some '"' → text ++ ['"'] ≠ other := by
    intro other hlast heq
    rw [← heq, List.getLast?_append_of_ne_nil] at hlast
    · exact hlast rfl
    · simp
  have hinside : ∀ outer, inside? outer (text ++ ['"']) = none := by
    intro outer
    cases hfound : inside? outer (text ++ ['"']) with
    | none => rfl
    | some inner =>
        refine absurd (inside?_eq_some_iff.1 hfound) (hne ?_)
        rw [← List.cons_append, ← List.append_assoc, List.getLast?_concat]
        decide
  have hplain : plainKind? (text ++ ['"']) = none := by
    unfold plainKind?
    rw [if_neg (hne (by decide)), if_neg (hne (by decide)), if_neg (hne (by decide)),
      if_neg (hne (by decide)), if_neg (hne (by decide)), if_neg (hne (by decide)),
      if_neg (hne (by decide))]
  have hrequired : requiredReading (text ++ ['"']) = { kind := .other } := by
    simp [requiredReading, hplain, hinside, items?]
  refine ⟨?_, hne (by decide)⟩
  rw [reading, List.length_append, List.length_singleton, readingFuel, hinside, hrequired]

/-- Clauses that a quoted comment may follow: none, or the last of them is its keyword. -/
def AwaitsProse (clauses : List Token) : Prop :=
  clauses = [] ∨ ∃ front, clauses = front ++ [commentKeyword]

def typeSays (clauses : List Token) : TypeReading × Bool :=
  (reading (typeOfClauses clauses), typeOfClauses clauses != anyType)

/-- A comment is no part of the type before it, unless a bracket is open: then nothing is known. -/
theorem typeSays_prose {clauses : List Token} (hclauses : AwaitsProse clauses)
    {prose other : List Char} (hprose : IsProse prose) (hother : IsProse other)
    (htype : mentions "TYPE" (proseTokens prose) = false)
    (htype' : mentions "TYPE" (proseTokens other) = false) :
    typeSays (clauses ++ proseTokens prose) = typeSays (clauses ++ proseTokens other) := by
  cases hafter : after? "TYPE" clauses with
  | none =>
      have hany : ∀ {tokens}, mentions "TYPE" tokens = false →
          typeOfClauses (clauses ++ tokens) = anyType := by
        intro tokens htokens
        rw [typeOfClauses, after?_append, hafter, after?_eq_none_iff.2 htokens]
        rfl
      rw [typeSays, typeSays, hany htype, hany htype']
  | some later =>
      have hlater : later ≠ [] := by
        rcases hclauses with rfl | ⟨front, rfl⟩
        · cases hafter
        · rw [after?_append] at hafter
          have hlast : after? "TYPE" [commentKeyword] = none := by decide
          rw [hlast, Option.or_none, Option.map_eq_some_iff] at hafter
          obtain ⟨clauses, -, rfl⟩ := hafter
          simp
      have htext : ∀ tokens, typeOfClauses (clauses ++ tokens) =
          (typeText? (later ++ tokens)).getD anyType := by
        intro tokens
        rw [typeOfClauses, after?_append, hafter]
        rfl
      -- either the type ends before the comment, or an open bracket makes the comment part of it
      rcases typeTokens_append_cases hlater 0 with hsame | ⟨depth, hdepth, hmore⟩
      · have hall : ∀ tokens, typeText? (later ++ tokens) = typeText? later := by
          intro tokens
          rw [typeText?, hsame, typeText?]
        rw [typeSays, typeSays, htext, htext, hall, hall]
      · have hopen : ∀ {prose}, IsProse prose →
            typeSays (clauses ++ proseTokens prose) = ({ kind := .other }, true) := by
          intro prose hprose
          obtain ⟨front, hfront⟩ := exists_proseTokens_flatten prose
          have hbrackets : ∀ token ∈ proseTokens prose, '<' ∉ token ∧ '>' ∉ token :=
            fun token htoken => (hprose.not_mem htoken).2
          have hquote : typeText? (later ++ proseTokens prose) =
              some (lower (typeTokens 0 later ++ front) ++ ['"']) := by
            have hsmall : lower ['"'] = ['"'] := by decide
            have hends : ('"' == ';') = false := by decide
            rw [typeText?, hmore, typeTokens_of_open hdepth hbrackets, hfront, ← List.append_assoc,
              dropEndWhile_concat, hends, if_neg Bool.false_ne_true, lower_append _ ['"'], hsmall]
            simp
          obtain ⟨hreading, hne⟩ := reading_of_quote (lower (typeTokens 0 later ++ front))
          rw [typeSays, htext, hquote, Option.getD_some, hreading, bne_iff_ne.2 hne]
        rw [hopen hprose, hopen hother]

/-! ## Scope -/

theorem scope?_comment (tokens : List Token) :
    (∀ more, mentions "ON" more = false → scope? (tokens ++ commentKeyword :: more) = none) ∨
      ∃ table clauses, AwaitsProse clauses ∧
        ∀ more, scope? (tokens ++ commentKeyword :: more) = some (table, clauses ++ more) := by
  cases hafter : after? "ON" tokens with
  | none =>
      refine Or.inl fun more hmore => ?_
      have hnone : after? "ON" (commentKeyword :: more) = none := by
        refine after?_eq_none_iff.2 (mentions_eq_false_iff.2 (List.forall_mem_cons.2 ⟨by decide, ?_⟩))
        exact mentions_eq_false_iff.1 hmore
      rw [scope?, after?_append, hafter, hnone]
      rfl
  | some later =>
      have hcomment : isKeyword "TABLE" commentKeyword = false := by decide
      refine Or.inr ?_
      simp only [scope?, after?_append, hafter, Option.map_some, Option.some_or]
      cases later with
      | nil => exact ⟨nameOf commentKeyword, [], Or.inl rfl, fun more => by simp [hcomment]⟩
      | cons token clauses =>
          by_cases htable : isKeyword "TABLE" token = true
          · cases clauses with
            | nil => exact ⟨nameOf commentKeyword, [], Or.inl rfl, fun more => by simp [htable]⟩
            | cons name clauses =>
                exact ⟨nameOf name, clauses ++ [commentKeyword], Or.inr ⟨clauses, rfl⟩,
                  fun more => by simp [htable]⟩
          · exact ⟨nameOf token, clauses ++ [commentKeyword], Or.inr ⟨clauses, rfl⟩,
              fun more => by simp [htable]⟩

/-! ## Fields -/

theorem commentSource?_prose (clauses : List Token) {prose : List Char} (hprose : IsProse prose) :
    commentSource? (clauses ++ proseTokens prose) = commentSource? clauses := by
  have hnone : ∀ word ∈ proseTokens prose,
      afterOpening? "dummy:".toList (trimWhile isCommentPunctuation word) = none := by
    intro word hword
    cases hopens : afterOpening? "dummy:".toList (trimWhile isCommentPunctuation word) with
    | none => rfl
    | some rest =>
        have hcolon : ':' ∈ trimWhile isCommentPunctuation word := by
          rw [afterOpening?_eq_some_iff.1 hopens]
          exact List.mem_append_left rest (by decide)
        have hmem : ':' ∈ word := by
          rw [trimWhile, dropEndWhile, List.mem_reverse] at hcolon
          have hback := List.mem_reverse.1 ((List.dropWhile_sublist _).subset hcolon)
          exact (List.dropWhile_sublist _).subset hback
        exact absurd hmem (hprose.not_mem hword).1
  unfold commentSource?
  rw [after?_append]
  cases hafter : after? "COMMENT" clauses with
  | none =>
      cases hprose : after? "COMMENT" (proseTokens prose) with
      | none => rfl
      | some later =>
          cases later with
          | nil => rfl
          | cons word later =>
              have hword := mem_of_after?_eq_some hprose word List.mem_cons_self
              simp only [Option.map_none, Option.none_or, hnone word hword, Option.bind_none]
  | some later =>
      cases later with
      | cons word later => rfl
      | nil =>
          cases hprose : proseTokens prose with
          | nil => rfl
          | cons word others =>
              have hword : word ∈ proseTokens prose := by simp [hprose]
              simp only [Option.map_some, Option.some_or, List.nil_append, hnone word hword,
                Option.bind_none]

theorem assertedKind_prose (front : List Char) {prose : List Char} (hprose : ':' ∉ prose)
    (kind : FieldKind) :
    assertedKind (front ++ quotedProse prose) kind = assertedKind front kind := by
  have htail : ':' ∉ lower (prose ++ ['"']) := by
    refine not_mem_lower (by decide) fun hmem => ?_
    rcases List.mem_append.1 hmem with hmem | hmem
    · exact hprose hmem
    · exact absurd hmem (by decide)
  have hquote : lower (quotedProse prose) = '"' :: lower (prose ++ ['"']) := rfl
  have hfound : ∀ {sought : List Char}, ':' ∈ sought → '"' ∉ sought →
      contains sought (lower (front ++ quotedProse prose)) = contains sought (lower front) := by
    intro sought hcolon hmark
    rw [lower_append, hquote, contains_append_cons (List.ne_nil_of_mem hcolon) hmark,
      contains_eq_false hcolon htail, Bool.or_false]
  have hemail := hfound (by decide : ':' ∈ "is::email".toList) (by decide)
  have hurl := hfound (by decide : ':' ∈ "is::url".toList) (by decide)
  unfold assertedKind
  simp only [hemail, hurl]

theorem assertion?_prose (front : List Char) {prose : List Char} (hprose : ':' ∉ prose) :
    assertion? (front ++ quotedProse prose) = assertion? front := by
  have htail : ':' ∉ prose ++ ['"'] := by
    intro hmem
    rcases List.mem_append.1 hmem with hmem | hmem
    · exact hprose hmem
    · exact absurd hmem (by decide)
  rw [quotedProse, assertion?_append_barrier (by decide : IsBarrier '"'), assertion?_eq_none htail, Option.or_none]

theorem fieldOfClauses_prose {clauses : List Token} (hclauses : AwaitsProse clauses)
    (front : List Char) {prose other : List Char} (hprose : IsProse prose) (hother : IsProse other)
    (hdiscreet : IsDiscreet prose) (hdiscreet' : IsDiscreet other) (name : String)
    (maxLength : Option Nat) :
    fieldOfClauses (front ++ quotedProse prose) name (clauses ++ proseTokens prose) maxLength =
      fieldOfClauses (front ++ quotedProse other) name (clauses ++ proseTokens other) maxLength := by
  have hcolon : ∀ {prose}, IsProse prose → ':' ∉ prose := fun hprose hmem => (hprose _ hmem).1 rfl
  have htype := hdiscreet "TYPE" (by decide)
  have htype' := hdiscreet' "TYPE" (by decide)
  have hsays := typeSays_prose hclauses hprose hother htype htype'
  obtain ⟨hreading, hany⟩ := Prod.mk.inj hsays
  have hdefault := hdiscreet "DEFAULT" (by decide)
  have hdefault' := hdiscreet' "DEFAULT" (by decide)
  simp only [fieldOfClauses, hreading, hany, mentions_append, hdefault, hdefault',
    assertedKind_prose front (hcolon hprose), assertedKind_prose front (hcolon hother),
    commentSource?_prose clauses hprose, commentSource?_prose clauses hother]

theorem fieldOf?_prose (front : List Char) (tokens : List Token) {prose other : List Char}
    (hprose : IsProse prose) (hother : IsProse other) (hdiscreet : IsDiscreet prose)
    (hdiscreet' : IsDiscreet other) :
    fieldOf? (front ++ quotedProse prose) (tokens ++ commentKeyword :: proseTokens prose) =
      fieldOf? (front ++ quotedProse other) (tokens ++ commentKeyword :: proseTokens other) := by
  have hcolon : ∀ {prose}, IsProse prose → ':' ∉ prose := fun hprose hmem => (hprose _ hmem).1 rfl
  have hon := hdiscreet "ON" (by decide)
  have hon' := hdiscreet' "ON" (by decide)
  cases tokens with
  | nil =>
      have hnone : ∀ {more : List Token}, mentions "ON" more = false → scope? more = none := by
        intro more hmore
        rw [scope?, after?_eq_none_iff.2 hmore]
      simp only [List.nil_append, fieldOf?, hnone hon, hnone hon']
  | cons token rest =>
      simp only [List.cons_append, fieldOf?]
      rcases scope?_comment rest with hnone | ⟨table, clauses, hclauses, hsome⟩
      · rw [hnone _ hon, hnone _ hon']
      · have hvalue := hdiscreet "VALUE" (by decide)
        have hvalue' := hdiscreet' "VALUE" (by decide)
        have hfield := fieldOfClauses_prose hclauses front hprose hother hdiscreet hdiscreet'
        simp only [hsome, mentions_append, hvalue, hvalue', hfield,
          assertion?_prose front (hcolon hprose), assertion?_prose front (hcolon hother)]

theorem dropWhile_append_comment (tokens more : List Token) :
    (tokens ++ commentKeyword :: more).dropWhile isModifier =
      tokens.dropWhile isModifier ++ commentKeyword :: more := by
  have hcomment : isModifier commentKeyword = false := by decide
  rw [List.dropWhile_append]
  split
  · rename_i hempty
    rw [List.isEmpty_iff.1 hempty, List.dropWhile_cons_of_neg (by simp [hcomment]), List.nil_append]
  · rfl

theorem ofStatement?_commented (app : String) {front gap between : List Char} {define sort : Token}
    {tokens : List Token} (hwords : words front = define :: sort :: tokens)
    (hdefine : isKeyword "DEFINE" define = true) (hsort : isKeyword "FIELD" sort = true)
    (hgap : gap ≠ [] ∧ IsGap gap) (hbetween : between ≠ [] ∧ IsGap between) (prose : List Char) :
    Definition.ofStatement? app (commented front gap between prose) =
      (fieldOf? (commented front gap between prose)
        (tokens.dropWhile isModifier ++ commentKeyword :: proseTokens prose)).map
          fun (name, made) => .field name made := by
  have hall := words_commented hgap.1 hgap.2 hbetween.1 hbetween.2 front prose
  rw [hwords, List.cons_append, List.cons_append] at hall
  rw [ofStatement?_field app hall (by simp) hdefine hsort, dropWhile_append_comment]

/--
The prose of a comment changes nothing of what a field's definition defines, as long as neither
comment has one of the keywords among its inner words.
-/
theorem ofStatement?_prose (app : String) {front gap between : List Char} (hfront : DefinesField front)
    (hgap : gap ≠ [] ∧ IsGap gap) (hbetween : between ≠ [] ∧ IsGap between)
    {prose other : List Char} (hprose : IsProse prose) (hother : IsProse other)
    (hdiscreet : IsDiscreet prose) (hdiscreet' : IsDiscreet other) :
    Definition.ofStatement? app (commented front gap between prose) =
      Definition.ofStatement? app (commented front gap between other) := by
  obtain ⟨define, sort, tokens, hwords, hdefine, hsort⟩ := hfront
  have hcut := ofStatement?_commented app hwords hdefine hsort hgap hbetween
  have hcommented : ∀ prose, commented front gap between prose =
      front ++ (gap ++ (commentKeyword ++ between)) ++ quotedProse prose := by
    intro prose
    simp only [commented, List.append_assoc]
  rw [hcut, hcut, hcommented, hcommented, fieldOf?_prose _ _ hprose hother hdiscreet hdiscreet']

theorem ofStatement?_prose_age :
    DefinesField "DEFINE FIELD age ON person TYPE int".toList ∧
      IsProse "whole years".toList ∧ IsDiscreet "whole years".toList ∧
      Definition.ofStatement? "app"
          (commented "DEFINE FIELD age ON person TYPE int".toList [' '] [' '] "whole years".toList) =
        Definition.ofStatement? "app"
          (commented "DEFINE FIELD age ON person TYPE int".toList [' '] [' '] "Valued 3 times".toList) :=
  have hfront : DefinesField "DEFINE FIELD age ON person TYPE int".toList :=
    ⟨"DEFINE".toList, "FIELD".toList, _, rfl, by decide, by decide⟩
  ⟨hfront, by decide, by decide, ofStatement?_prose "app" hfront (by decide) (by decide) (by decide)
    (by decide) (by decide) (by decide)⟩

/-- A comment with `VALUE` among its inner words makes its field one that is not filled. -/
theorem ofStatement?_prose_value (app : String) {front gap between : List Char}
    (hfront : DefinesField front) (hgap : gap ≠ [] ∧ IsGap gap) (hbetween : between ≠ [] ∧ IsGap between)
    {prose : List Char} (hon : mentions "ON" (proseTokens prose) = false)
    (hvalue : mentions "VALUE" (proseTokens prose) = true) :
    Definition.ofStatement? app (commented front gap between prose) = none := by
  obtain ⟨define, sort, tokens, hwords, hdefine, hsort⟩ := hfront
  rw [ofStatement?_commented app hwords hdefine hsort hgap hbetween, Option.map_eq_none_iff]
  cases tokens.dropWhile isModifier with
  | nil =>
      rw [List.nil_append, fieldOf?, scope?, after?_eq_none_iff.2 hon]
  | cons token rest =>
      simp only [List.cons_append, fieldOf?]
      rcases scope?_comment rest with hnone | ⟨table, clauses, -, hsome⟩
      · rw [hnone _ hon]
      · simp [hsome, mentions_append, hvalue]

/-- One word between the quotes decides whether there is a field, another whether it is required. -/
theorem ofStatement?_prose_keywords :
    Definition.ofStatement? "app" (commented "DEFINE FIELD age ON person TYPE int".toList [' '] [' ']
        "full years here".toList) = some (.field "person" { name := "age", kind := .integer }) ∧
      Definition.ofStatement? "app" (commented "DEFINE FIELD age ON person TYPE int".toList [' '] [' ']
        "a value here".toList) = none ∧
      Definition.ofStatement? "app" (commented "DEFINE FIELD age ON person TYPE int".toList [' '] [' ']
        "no default here".toList) =
          some (.field "person" { name := "age", kind := .integer, required := false }) := by
  decide +kernel

end Schema

end SampleData
