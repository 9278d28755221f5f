import SampleData.Proofs.Schema.Clauses

/-!
# Spacing of types

The tokens of a type are put together as long as a bracket is open.  So the gaps inside the brackets
of a type do not matter, while the first gap outside of them ends it; and a word that stands alone in
a type may be taken for the keyword of another clause.
-/

namespace SampleData

namespace Schema

open Text

/-! ## Type expressions -/

def typeMarks : List Char :=
  ['<', '>', ',', '|']

/--
What type expressions are built from: a mark, or a name or a number, without marks, blanks and
colons.
-/
def IsElement (element : Token) : Prop :=
  (∃ mark ∈ typeMarks, element = [mark]) ∨
    element ≠ [] ∧ ∀ c ∈ element, isBlank c = false ∧ c ∉ typeMarks ∧ c ≠ ':'

/-- Marks are sought among the marks there are, not among all characters. -/
instance : DecidablePred IsElement := fun element =>
  have : Decidable (∃ mark ∈ typeMarks, element = [mark]) := List.decidableBEx _ typeMarks
  inferInstanceAs (Decidable (_ ∨ _))

/--
Two spellings of one expression behind so many open brackets: the same elements, whose brackets all
close, with gaps between them that may differ inside brackets.  Outside there is a gap in both or in
neither.
-/
inductive SpacedAlike : Nat → List Char → List Char → Prop
  | last {depth : Nat} {element : Token} (helement : IsElement element)
      (hcloses : element = ['>'] → depth ≠ 0) (hclosed : depthAfter depth element = 0) :
      SpacedAlike depth element element
  | next {depth : Nat} {element gap other text rest : List Char} (helement : IsElement element)
      (hcloses : element = ['>'] → depth ≠ 0) (hgap : IsGap gap) (hother : IsGap other)
      (hsame : depthAfter depth element = 0 → (gap = [] ↔ other = []))
      (h : SpacedAlike (depthAfter depth element) text rest) :
      SpacedAlike depth (element ++ (gap ++ text)) (element ++ (other ++ rest))

theorem IsElement.ne_nil {element : Token} (h : IsElement element) : element ≠ [] := by
  rcases h with ⟨mark, -, rfl⟩ | ⟨hne, -⟩
  · exact List.cons_ne_nil mark []
  · exact hne

theorem IsElement.isSolid {element : Token} (h : IsElement element) : IsSolid element := by
  rcases h with ⟨mark, hmark, rfl⟩ | ⟨-, hall⟩
  · have hsolid : ∀ mark ∈ typeMarks, IsSolid [mark] := by decide
    exact hsolid mark hmark
  · exact fun c hc => (hall c hc).1

theorem IsElement.colon_not_mem {element : Token} (h : IsElement element) : ':' ∉ element := by
  rcases h with ⟨mark, hmark, rfl⟩ | ⟨-, hall⟩
  · have hcolon : ∀ mark ∈ typeMarks, ':' ∉ [mark] := by decide
    exact hcolon mark hmark
  · exact fun hmem => (hall ':' hmem).2.2 rfl

theorem IsElement.count_le {element : Token} (h : IsElement element) {depth : Nat}
    (hcloses : element = ['>'] → depth ≠ 0) : element.count '>' ≤ depth + element.count '<' := by
  rcases h with ⟨mark, hmark, rfl⟩ | ⟨-, hall⟩
  · by_cases hclose : mark = '>'
    · have hpositive := Nat.pos_of_ne_zero (hcloses (by rw [hclose]))
      simp [hclose]
      omega
    · simp [hclose]
  · rw [List.count_eq_zero_of_not_mem fun hmem => (hall '>' hmem).2.1 (by decide)]
    exact Nat.zero_le _

theorem SpacedAlike.symm {depth : Nat} {text other : List Char} (h : SpacedAlike depth text other) :
    SpacedAlike depth other text := by
  induction h with
  | last helement hcloses hclosed => exact .last helement hcloses hclosed
  | next helement hcloses hgap hother hsame _ ih =>
      exact .next helement hcloses hother hgap (fun hclosed => (hsame hclosed).symm) ih

theorem SpacedAlike.colon_not_mem {depth : Nat} {text other : List Char}
    (h : SpacedAlike depth text other) : ':' ∉ text := by
  have hblank : ∀ {gap : List Char}, IsGap gap → ':' ∉ gap := fun hgap hmem =>
    absurd (hgap ':' hmem) (by decide)
  induction h with
  | last helement => exact helement.colon_not_mem
  | next helement _ hgap _ _ _ ih =>
      exact List.not_mem_append helement.colon_not_mem (List.not_mem_append (hblank hgap) ih)

/-! ## Putting types together -/

/--
A type that is being put together: its finished tokens, the brackets open behind them, and the
token that goes on.
-/
structure Assembly where
  finished : List Char := []
  outer : Nat := 0
  part : Token := []

namespace Assembly

variable {assembly : Assembly}

def depth (assembly : Assembly) : Nat :=
  depthAfter assembly.outer assembly.part

def soFar (assembly : Assembly) : List Char :=
  assembly.finished ++ assembly.part

def result (assembly : Assembly) (text : List Char) : List Char :=
  assembly.finished ++ typeTokens assembly.outer (words (assembly.part ++ text))

structure Sound (assembly : Assembly) : Prop where
  solid : IsSolid assembly.part
  /-- No more brackets close in the token than are open. -/
  closes : assembly.part.count '>' ≤ assembly.outer + assembly.part.count '<'

theorem Sound.depthAfter_append (h : assembly.Sound) (element : Token) :
    depthAfter assembly.outer (assembly.part ++ element) = depthAfter assembly.depth element := by
  have hcloses := h.closes
  simp only [depth, depthAfter, List.count_append]
  omega

theorem Sound.append (h : assembly.Sound) {element : Token} (helement : IsElement element)
    (hcloses : element = ['>'] → assembly.depth ≠ 0) :
    Sound { assembly with part := assembly.part ++ element } where
  solid := isSolid_append_iff.2 ⟨h.solid, helement.isSolid⟩
  closes := by
    have hpart := h.closes
    have hadded := helement.count_le hcloses
    simp only [depth, depthAfter] at hadded
    simp only [List.count_append]
    omega

/-- An element behind which no bracket is open and no token goes on is the last of the type. -/
theorem Sound.result_closed (h : assembly.Sound) {element : Token} (helement : IsElement element)
    (hclosed : depthAfter assembly.depth element = 0) {rest : List Char} (hrest : AtBreak rest) :
    assembly.result (element ++ rest) = assembly.soFar ++ element := by
  have hsolid : IsSolid (assembly.part ++ element) := isSolid_append_iff.2 ⟨h.solid, helement.isSolid⟩
  have hne : assembly.part ++ element ≠ [] := List.append_ne_nil_of_right_ne_nil _ helement.ne_nil
  have hwords := words_of_first_word isGap_nil hne hsolid hrest
  rw [List.nil_append, List.append_assoc] at hwords
  rw [result, hwords, typeTokens, h.depthAfter_append, hclosed, if_pos rfl, soFar, List.append_assoc]

/-- An element and the gap behind it are taken in, unless the gap ends the type. -/
theorem Sound.step (h : assembly.Sound) {element gap : List Char} (helement : IsElement element)
    (hcloses : element = ['>'] → assembly.depth ≠ 0) (hgap : IsGap gap)
    (hopen : gap = [] ∨ depthAfter assembly.depth element ≠ 0) :
    ∃ next : Assembly, next.Sound ∧ next.depth = depthAfter assembly.depth element ∧
      next.soFar = assembly.soFar ++ element ∧
        ∀ rest, assembly.result (element ++ (gap ++ rest)) = next.result rest := by
  by_cases hnone : gap = []
  · refine ⟨{ assembly with part := assembly.part ++ element }, h.append helement hcloses,
      h.depthAfter_append element, (List.append_assoc _ _ _).symm, fun rest => ?_⟩
    rw [hnone, List.nil_append, result, result, List.append_assoc]
  · have hdepth := hopen.resolve_left hnone
    have hsolid : IsSolid (assembly.part ++ element) :=
      isSolid_append_iff.2 ⟨h.solid, helement.isSolid⟩
    have hne : assembly.part ++ element ≠ [] := List.append_ne_nil_of_right_ne_nil _ helement.ne_nil
    refine ⟨{ finished := assembly.soFar ++ element, outer := depthAfter assembly.depth element },
      ⟨isSolid_nil, Nat.zero_le _⟩, rfl, List.append_nil _, fun rest => ?_⟩
    have hwords := words_cons_append_gap hne hsolid hnone hgap rest
    rw [List.append_assoc] at hwords
    rw [result, hwords, typeTokens, h.depthAfter_append, if_neg hdepth, result, soFar]
    simp only [List.append_assoc, List.nil_append]

end Assembly

/--
Spellings that are alike are put together to the same type, if the same was put together before.
-/
theorem SpacedAlike.result_eq {depth : Nat} {text other : List Char} (h : SpacedAlike depth text other)
    {first second : Assembly} (hfirst : first.Sound) (hsecond : second.Sound)
    (hdepth : first.depth = depth) (hdepth' : second.depth = depth)
    (hsame : first.soFar = second.soFar) {back behind : List Char} (hback : AtBreak back)
    (hbehind : AtBreak behind) : first.result (text ++ back) = second.result (other ++ behind) := by
  induction h generalizing first second with
  | last helement _ hclosed =>
      rw [hfirst.result_closed helement (by rw [hdepth, hclosed]) hback,
        hsecond.result_closed helement (by rw [hdepth', hclosed]) hbehind, hsame]
  | @next depth element gap between text rest helement hcloses hgap hbetween hgaps h ih =>
      simp only [List.append_assoc]
      by_cases hends : depthAfter depth element = 0 ∧ gap ≠ []
      · have hne : between ≠ [] := fun hnil => hends.2 ((hgaps hends.1).2 hnil)
        rw [hfirst.result_closed helement (by rw [hdepth, hends.1]) (atBreak_gap_append hends.2 hgap _),
          hsecond.result_closed helement (by rw [hdepth', hends.1]) (atBreak_gap_append hne hbetween _),
          hsame]
      · have hopen : gap = [] ∨ depthAfter depth element ≠ 0 := by tauto
        have hopen' : between = [] ∨ depthAfter depth element ≠ 0 := by
          by_cases hclosed : depthAfter depth element = 0
          · exact Or.inl ((hgaps hclosed).1 (hopen.resolve_right (not_not.2 hclosed)))
          · exact Or.inr hclosed
        subst hdepth
        obtain ⟨later, hlater, hdeep, hput, hresult⟩ := hfirst.step helement hcloses hgap hopen
        rw [← hdepth'] at hcloses hopen'
        obtain ⟨later', hlater', hdeep', hput', hresult'⟩ :=
          hsecond.step helement hcloses hbetween hopen'
        rw [hresult, hresult']
        exact ih hlater hlater' hdeep (by rw [hdeep', hdepth']) (by rw [hput, hput', hsame])

theorem SpacedAlike.typeText?_eq {one two : List Char} (h : SpacedAlike 0 one two)
    {back behind : List Char} (hback : AtBreak back) (hbehind : AtBreak behind) :
    typeText? (words one ++ words back) = typeText? (words two ++ words behind) := by
  have hsound : Assembly.Sound {} := ⟨isSolid_nil, Nat.le_refl 0⟩
  have hresult : typeTokens 0 (words (one ++ back)) = typeTokens 0 (words (two ++ behind)) :=
    h.result_eq hsound hsound rfl rfl rfl hback hbehind
  rw [words_append_atBreak one hback, words_append_atBreak two hbehind] at hresult
  rw [typeText?, typeText?, hresult]

/-! ## Statements around a type -/

/--
The front of a field's definition, with its scope and perhaps clauses, but without a type as
yet.
-/
def AwaitsType (front : List Char) : Prop :=
  ∃ define sort tokens name rest table clauses, words front = define :: sort :: tokens ∧
    isKeyword "DEFINE" define = true ∧ isKeyword "FIELD" sort = true ∧
      tokens.dropWhile isModifier = name :: rest ∧ scope? rest = some (table, clauses) ∧
        mentions "TYPE" clauses = false

def typed (front gap keyword between type back : List Char) : List Char :=
  front ++ (gap ++ (keyword ++ (between ++ (type ++ back))))

/-- No word that stands alone in a type is the keyword of another clause. -/
def NamesNoClause (type : List Char) : Prop :=
  ∀ keyword ∈ ["VALUE", "DEFAULT", "COMMENT"], mentions keyword (words type) = false

instance : DecidablePred NamesNoClause := fun _ => inferInstanceAs (Decidable (∀ _ ∈ _, _))

theorem scope?_append {tokens clauses : List Token} {table : String}
    (h : scope? tokens = some (table, clauses)) (more : List Token) :
    scope? (tokens ++ more) = some (table, clauses ++ more) := by
  rw [scope?] at h
  rw [scope?, after?_append]
  cases hafter : after? "ON" tokens with
  | none =>
      rw [hafter] at h
      cases h
  | some later =>
      rw [hafter] at h
      cases later with
      | nil => cases h
      | cons token later =>
          simp only [Option.map_some, Option.some_or, List.cons_append] at h ⊢
          by_cases htable : isKeyword "TABLE" token = true
          · rw [if_pos htable] at h ⊢
            cases later with
            | nil => cases h
            | cons name later =>
                cases h
                rfl
          · rw [if_neg htable] at h ⊢
            cases h
            rfl

/-- The keyword is a word with a barrier in it. -/
theorem isKeyword_type {keyword : Token} (h : isKeyword "TYPE" keyword = true) :
    IsSolid keyword ∧ ∃ first mark others, keyword = first :: mark :: others ∧ IsBarrier mark ∧
      ':' ∉ others := by
  have hlower : lower keyword = "type".toList := eq_of_beq h
  obtain ⟨first, tail, rfl, hfirst, htail⟩ := List.map_eq_cons_iff.1 hlower
  obtain ⟨mark, others, rfl, hmark, hothers⟩ := List.map_eq_cons_iff.1 htail
  have hsolid : IsSolid (first :: mark :: others) := by
    intro c hc
    have hmem : lowerChar c ∈ lower (first :: mark :: others) := List.mem_map_of_mem hc
    rw [hlower] at hmem
    rw [← isBlank_lowerChar]
    exact (by decide : ∀ c ∈ "type".toList, isBlank c = false) _ hmem
  refine ⟨hsolid, first, mark, others, rfl, ?_, fun hcolon => ?_⟩
  · by_cases hupper : isUpperLetter mark = true
    · have hletters : ∀ place < 26, lowerChar (Char.ofNat (65 + place)) = 'y' →
          IsBarrier (Char.ofNat (65 + place)) := by decide
      obtain ⟨place, hplace, rfl, -⟩ := exists_place_of_isUpperLetter hupper
      exact hletters place hplace hmark
    · rw [lowerChar, if_neg hupper] at hmark
      rw [hmark]
      decide
  · have hmem : lowerChar ':' ∈ others.map lowerChar := List.mem_map_of_mem hcolon
    rw [hothers] at hmem
    exact absurd hmem (by decide)

/-- An assertion does not start in a text without a colon, if the text ends with a word. -/
theorem assertion?_append_of_not_mem {text : List Char} (h : ':' ∉ text) {back : List Char}
    (hback : AtBreak back) : assertion? (text ++ back) = assertion? back := by
  induction text with
  | nil => rfl
  | cons c text ih =>
      have hopening : afterFolded? "string::len(".toList (c :: text ++ back) = none := by
        have hnone := @afterFolded?_eq_none "string::len(".toList (c :: text) ':' (by decide) (by decide) h
        rcases hback with rfl | ⟨blank, rest, rfl, hblank⟩
        · rw [List.append_nil, hnone]
        · have hmark : foldedLetter blank ∉ "string::len(".toList := by
            rw [foldedLetter_blank hblank]
            intro hmem
            rw [(by decide : IsSolid "string::len(".toList) blank hmem] at hblank
            cases hblank
          rw [afterFolded?_append_cons hmark, hnone]
          rfl
      rw [List.cons_append] at hopening ⊢
      rw [assertion?, assertionAt?, hopening]
      exact ih fun hmem => h (List.mem_cons_of_mem c hmem)

section

variable {front gap keyword between type back : List Char} (hgap : gap ≠ [] ∧ IsGap gap)
  (hkeyword : isKeyword "TYPE" keyword = true) (hbetween : between ≠ [] ∧ IsGap between)
  (hback : AtBreak back)
include hgap hkeyword hbetween hback

theorem words_typed :
    words (typed front gap keyword between type back) =
      words front ++ keyword :: (words type ++ words back) := by
  obtain ⟨hsolid, first, mark, others, rfl, -⟩ := isKeyword_type hkeyword
  rw [typed, words_append_gap hgap.1 hgap.2,
    words_cons_append_gap (List.cons_ne_nil _ _) hsolid hbetween.1 hbetween.2,
    words_append_atBreak type hback]

omit hgap in
theorem assertion?_typed (hcolon : ':' ∉ type) :
    assertion? (typed front gap keyword between type back) =
      (assertion? (front ++ (gap ++ keyword))).or (assertion? back) := by
  obtain ⟨-, first, mark, others, rfl, hmark, hothers⟩ := isKeyword_type hkeyword
  have hblank : ':' ∉ between := fun hmem => absurd (hbetween.2 ':' hmem) (by decide)
  have htext : typed front gap (first :: mark :: others) between type back =
      (front ++ (gap ++ [first])) ++ mark :: ((others ++ (between ++ type)) ++ back) := by
    simp [typed]
  have hfront : front ++ (gap ++ first :: mark :: others) =
      (front ++ (gap ++ [first])) ++ mark :: others := by
    simp
  have hpassed := assertion?_append_of_not_mem
    (List.not_mem_append hothers (List.not_mem_append hblank hcolon)) hback
  rw [htext, hfront, assertion?_append_barrier hmark, assertion?_append_barrier hmark, hpassed,
    assertion?_eq_none hothers, Option.or_none]

/--
What a text of colons and no blanks is sought in is every word of a statement but those of its
type.
-/
theorem contains_typed {sought : List Char} (hsought : ':' ∈ sought) (hsolid : IsSolid sought)
    (hcolon : ':' ∉ type) :
    contains sought (lower (typed front gap keyword between type back)) =
      (words front ++ keyword :: words back).any fun word => contains sought (lower word) := by
  have hne := List.ne_nil_of_mem hsought
  have hnone : ((words type).any fun word => contains sought (lower word)) = false := by
    refine List.any_eq_false.2 fun word hword => ?_
    have hmem : ':' ∉ word := by
      intro hmem
      have hflat : ':' ∈ (words type).flatten := List.mem_flatten.2 ⟨word, hword, hmem⟩
      rw [flatten_words] at hflat
      exact hcolon (List.mem_of_mem_filter hflat)
    rw [contains_eq_false hsought (not_mem_lower (by decide) hmem)]
    exact Bool.false_ne_true
  rw [contains_eq_any_words hne hsolid, words_lower, words_typed hgap hkeyword hbetween hback,
    List.any_map]
  simp only [List.any_append, List.any_cons, Function.comp_def, hnone, Bool.false_or]

theorem assertedKind_typed {one two : List Char} (hone : ':' ∉ one) (htwo : ':' ∉ two) (kind : FieldKind) :
    assertedKind (typed front gap keyword between one back) kind =
      assertedKind (typed front gap keyword between two back) kind := by
  have hfound : ∀ {sought : List Char}, ':' ∈ sought → IsSolid sought →
      contains sought (lower (typed front gap keyword between one back)) =
        contains sought (lower (typed front gap keyword between two back)) := by
    intro sought hsought hsolid
    rw [contains_typed hgap hkeyword hbetween hback hsought hsolid hone,
      contains_typed hgap hkeyword hbetween hback hsought hsolid htwo]
  have hemail := hfound (by decide : ':' ∈ "is::email".toList) (by decide)
  have hurl := hfound (by decide : ':' ∈ "is::url".toList) (by decide)
  unfold assertedKind
  simp only [hemail, hurl]

end

theorem mentions_typed {sought : String} {type : List Token} (htype : mentions sought type = false)
    (clauses : List Token) (keyword : Token) (back : List Token) :
    mentions sought (clauses ++ keyword :: (type ++ back)) = mentions sought (clauses ++ keyword :: back) := by
  have hsplit : ∀ more, keyword :: more = [keyword] ++ more := fun _ => rfl
  rw [hsplit, hsplit back]
  simp only [mentions_append, htype, Bool.false_or]

theorem commentSource?_typed {clauses : List Token} {keyword : Token}
    (hkeyword : isKeyword "TYPE" keyword = true) {type : List Token}
    (htype : mentions "COMMENT" type = false) (back : List Token) :
    commentSource? (clauses ++ keyword :: (type ++ back)) = commentSource? (clauses ++ keyword :: back) := by
  have hcomment : isKeyword "COMMENT" keyword = false := by
    rw [isKeyword_eq hkeyword]
    decide
  have hnot : mentions "COMMENT" [keyword] = false := mentions_eq_false_iff.2 (by simpa using hcomment)
  have hbehind : ∀ more, after? "COMMENT" (keyword :: more) = after? "COMMENT" more :=
    after?_append_of_not_mentions hnot
  unfold commentSource?
  rw [after?_append, after?_append, hbehind, hbehind, after?_append_of_not_mentions htype]
  cases after? "COMMENT" clauses with
  | none => rfl
  | some later => cases later <;> rfl

theorem fieldOfClauses_typed {front gap keyword between back one two : List Char}
    (hgap : gap ≠ [] ∧ IsGap gap) (hkeyword : isKeyword "TYPE" keyword = true)
    (hbetween : between ≠ [] ∧ IsGap between) (hback : AtBreak back) (halike : SpacedAlike 0 one two)
    (hone : NamesNoClause one) (htwo : NamesNoClause two) {clauses : List Token}
    (hclauses : mentions "TYPE" clauses = false) (name : String) (limit : Option Nat) :
    fieldOfClauses (typed front gap keyword between one back) name
        (clauses ++ keyword :: (words one ++ words back)) limit =
      fieldOfClauses (typed front gap keyword between two back) name
        (clauses ++ keyword :: (words two ++ words back)) limit := by
  have htype : typeOfClauses (clauses ++ keyword :: (words one ++ words back)) =
      typeOfClauses (clauses ++ keyword :: (words two ++ words back)) := by
    rw [typeOfClauses, typeOfClauses, after?_append_of_not_mentions hclauses,
      after?_append_of_not_mentions hclauses, after?, after?, if_pos hkeyword, if_pos hkeyword,
      Option.bind_some, Option.bind_some, halike.typeText?_eq hback hback]
  have hkind : ∀ kind, assertedKind (typed front gap keyword between one back) kind =
      assertedKind (typed front gap keyword between two back) kind :=
    assertedKind_typed hgap hkeyword hbetween hback halike.colon_not_mem halike.symm.colon_not_mem
  simp only [fieldOfClauses, htype, hkind, mentions_typed (hone "DEFAULT" (by decide)),
    mentions_typed (htwo "DEFAULT" (by decide)),
    commentSource?_typed hkeyword (hone "COMMENT" (by decide)),
    commentSource?_typed hkeyword (htwo "COMMENT" (by decide))]

/--
What a statement with a type behind its front defines is read off the words of both and what
follows.
-/
theorem ofStatement?_typed (app : String) {front gap keyword between back : List Char} {define sort name : Token}
    {tokens rest : List Token} (hwords : words front = define :: sort :: tokens)
    (hdefine : isKeyword "DEFINE" define = true) (hsort : isKeyword "FIELD" sort = true)
    (htokens : tokens.dropWhile isModifier = name :: rest) (hgap : gap ≠ [] ∧ IsGap gap)
    (hkeyword : isKeyword "TYPE" keyword = true) (hbetween : between ≠ [] ∧ IsGap between)
    (hback : AtBreak back) (type : List Char) :
    Definition.ofStatement? app (typed front gap keyword between type back) =
      (fieldOf? (typed front gap keyword between type back)
        (name :: (rest ++ keyword :: (words type ++ words back)))).map
          fun (name, made) => .field name made := by
  have hall : words (typed front gap keyword between type back) =
      define :: sort :: (tokens ++ keyword :: (words type ++ words back)) := by
    rw [words_typed hgap hkeyword hbetween hback, hwords, List.cons_append, List.cons_append]
  have hrest : (tokens ++ keyword :: (words type ++ words back)).dropWhile isModifier =
      name :: (rest ++ keyword :: (words type ++ words back)) := by
    rw [List.dropWhile_append, htokens]
    rfl
  rw [ofStatement?_field app hall (by simp) hdefine hsort, hrest]

/--
Two spellings of a type that differ in the gaps inside its brackets, and outside in no more than the
lengths of the gaps, define the same field, as long as no word that stands alone in either is the
keyword of another clause.
-/
theorem ofStatement?_type_respaced (app : String) {front gap keyword between back one two : List Char}
    (hfront : AwaitsType front) (hgap : gap ≠ [] ∧ IsGap gap) (hkeyword : isKeyword "TYPE" keyword = true)
    (hbetween : between ≠ [] ∧ IsGap between) (hback : AtBreak back) (halike : SpacedAlike 0 one two)
    (hone : NamesNoClause one) (htwo : NamesNoClause two) :
    Definition.ofStatement? app (typed front gap keyword between one back) =
      Definition.ofStatement? app (typed front gap keyword between two back) := by
  obtain ⟨define, sort, tokens, name, rest, table, clauses, hwords, hdefine, hsort, htokens, hscope,
    hclauses⟩ := hfront
  have hcut := ofStatement?_typed app hwords hdefine hsort htokens hgap hkeyword hbetween hback
  have hassertion : assertion? (typed front gap keyword between one back) =
      assertion? (typed front gap keyword between two back) := by
    rw [assertion?_typed hkeyword hbetween hback halike.colon_not_mem,
      assertion?_typed hkeyword hbetween hback halike.symm.colon_not_mem]
  have hfield : ∀ limit, fieldOfClauses (typed front gap keyword between one back) (nameOf name)
        (clauses ++ keyword :: (words one ++ words back)) limit =
      fieldOfClauses (typed front gap keyword between two back) (nameOf name)
        (clauses ++ keyword :: (words two ++ words back)) limit :=
    fieldOfClauses_typed hgap hkeyword hbetween hback halike hone htwo hclauses (nameOf name)
  rw [hcut, hcut]
  simp only [fieldOf?, scope?_append hscope, hassertion, hfield,
    mentions_typed (hone "VALUE" (by decide)), mentions_typed (htwo "VALUE" (by decide))]

/--
The links of an array, with the gaps of its spellings in different places, and a clause behind.
-/
theorem ofStatement?_type_respaced_tags :
    let front := "DEFINE FIELD OVERWRITE tags ON TABLE post".toList
    let one := "array<record<tag >,10>".toList
    let two := "array< record<tag> , 10>".toList
    AwaitsType front ∧ SpacedAlike 0 one two ∧ NamesNoClause one ∧ NamesNoClause two ∧
      Definition.ofStatement? "blog" (typed front [' '] "type".toList [' '] one " DEFAULT []".toList) =
        Definition.ofStatement? "blog" (typed front [' '] "type".toList [' '] two " DEFAULT []".toList) := by
  intro front one two
  have hfront : AwaitsType front :=
    ⟨"DEFINE".toList, "FIELD".toList,
      ["OVERWRITE".toList, "tags".toList, "ON".toList, "TABLE".toList, "post".toList], "tags".toList,
      ["ON".toList, "TABLE".toList, "post".toList], "post", [], by decide +kernel⟩
  have hone : NamesNoClause one := by decide +kernel
  have htwo : NamesNoClause two := by decide +kernel
  have halike : SpacedAlike 0 one two :=
    .next (by decide : IsElement "array".toList) nofun isGap_nil isGap_nil (fun _ => Iff.rfl)
      (.next (by decide : IsElement ['<']) nofun isGap_nil (by decide : IsGap [' ']) nofun
        (.next (by decide : IsElement "record".toList) nofun isGap_nil isGap_nil nofun
          (.next (by decide : IsElement ['<']) nofun isGap_nil isGap_nil nofun
            (.next (by decide : IsElement "tag".toList) nofun (by decide : IsGap [' ']) isGap_nil nofun
              (.next (by decide : IsElement ['>']) (by decide) isGap_nil (by decide : IsGap [' ']) nofun
                (.next (by decide : IsElement [',']) nofun isGap_nil (by decide : IsGap [' ']) nofun
                  (.next (by decide : IsElement "10".toList) nofun isGap_nil isGap_nil nofun
                    (.last (by decide : IsElement ['>']) (by decide) (by decide)))))))))
  exact ⟨hfront, halike, hone, htwo, ofStatement?_type_respaced "blog" hfront (by decide) (by decide)
    (by decide) (Or.inr ⟨' ', _, rfl, by decide⟩) halike hone htwo⟩

/--
With a gap in front of its bracket a type ends there, as does one of several choices in front of the
next; and a table named like a keyword is no table when it stands alone.
-/
theorem ofStatement?_type_gaps :
    let field := fun type : String => Definition.ofStatement? "blog"
      (typed "DEFINE FIELD editor ON post".toList [' '] "TYPE".toList [' '] type.toList [])
    field "option<string>" =
        some (.field "post" { name := "editor", kind := .shortText, required := false }) ∧
      field "option <string>" = some (.field "post" { name := "editor", kind := .other }) ∧
      field "string|int" = some (.field "post" { name := "editor", kind := .other }) ∧
      field "string | int" = some (.field "post" { name := "editor", kind := .shortText }) ∧
      field "record<value>" =
        some (.field "post" { name := "editor", kind := .foreignKey, target := some "value" }) ∧
      field "record< value >" = none := by
  decide +kernel

end Schema

end SampleData
