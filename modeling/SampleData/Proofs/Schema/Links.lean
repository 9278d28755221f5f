import SampleData.Proofs.Order.Acyclic
import SampleData.Proofs.Registry
import SampleData.Proofs.Schema.Tables
import SampleData.Proofs.Schema.Types

/-!
# Links between declared tables

A type names the table that it links to, and is read in small letters; a table's own name is
taken as it stands.  So a link comes out at the table it names exactly when that name has no
capital letters, and then the table precedes whatever must link to it.
-/

namespace SampleData

namespace Identifier

theorem plain_lowerString {name : String} (h : Plain name) : Plain (Text.lowerString name) := by
  have hletters : ∀ place < 26, isStart (Char.ofNat (97 + place)) = true := by decide
  have hstart : ∀ {c : Char}, isStart c = true → isStart (Text.lowerChar c) = true := by
    intro c hc
    by_cases hupper : Text.isUpperLetter c = true
    · obtain ⟨place, hplace, -, hsmall⟩ := Text.exists_place_of_isUpperLetter hupper
      rw [hsmall, hletters place hplace]
    · rwa [Text.lowerChar, if_neg hupper]
  have hrest : ∀ {c : Char}, isRest c = true → isRest (Text.lowerChar c) = true := by
    intro c hc
    by_cases hupper : Text.isUpperLetter c = true
    · exact isRest_of_isStart (hstart (by simp [isStart, hupper]))
    · rwa [Text.lowerChar, if_neg hupper]
  obtain ⟨first, rest, hlist, hfirst, hall⟩ := h
  refine ⟨Text.lowerChar first, Text.lower rest, ?_, isStart_iff.1 (hstart (isStart_iff.2 hfirst)), ?_⟩
  · rw [Text.toList_lowerString, hlist]
    rfl
  · intro c hc
    obtain ⟨letter, hletter, rfl⟩ := List.mem_map.1 hc
    exact isRest_iff.1 (hrest (isRest_iff.2 (hall letter hletter)))

end Identifier

/--
In an order of selected models the table of a required link stands in front of the model that
links to it.
-/
theorem Registry.linked_earlier {models : List Model} {registry : Registry}
    (hregistry : ofModels models = .ok registry) {exclude : List String} {authApp : String}
    {order : List Model} (horder : Order.dependencyOrder (registry.select exclude authApp) = .ok order)
    {model linked : Model} {field : Field} (hfield : field ∈ model.fields) (hkind : field.kind = .foreignKey)
    (hrequired : field.required = true) (htarget : field.target = some linked.table)
    (hne : linked.table ≠ model.table) (hlinked : linked ∈ order) {earlier later : List Model}
    (hsplit : order = earlier ++ model :: later) : linked ∈ earlier := by
  have hperm := Order.dependencyOrder_perm horder
  have hmodel : model ∈ order := by
    rw [hsplit]
    simp
  apply Order.dependencyOrder_ordered (select_nodup hregistry exclude authApp) horder hsplit
  exact ⟨hperm.mem_iff.1 hmodel, hperm.mem_iff.1 hlinked, fun heq => hne (congrArg Model.table heq),
    field, hfield, hkind, hrequired, htarget⟩

namespace Schema

open Text

/-! ## Types that link -/

inductive LinkForm where
  | record
  | option
  | array
  | set
  deriving DecidableEq, Repr, Inhabited

namespace LinkForm

def outer? : LinkForm → Option String
  | record => none
  | option => some "option"
  | array => some "array"
  | set => some "set"

def text (form : LinkForm) (target : String) : List Char :=
  match form.outer? with
  | none => recordText target
  | some outer => outer.toList ++ '<' :: (recordText target ++ ['>'])

def kind : LinkForm → FieldKind
  | record | option => .foreignKey
  | array | set => .manyToMany

def isOptional : LinkForm → Bool
  | option => true
  | _ => false

def declaration (target : String) : LinkForm → FieldDeclaration
  | record => { name := "", content := .link target }
  | option => { name := "", content := .link target, options := 1 }
  | array => { name := "", content := .links false target none }
  | set => { name := "", content := .links true target none }

theorem typeText_declaration (form : LinkForm) (target : String) :
    (form.declaration target).typeText = form.text target := by
  have hbare : ∀ content : Content,
      FieldDeclaration.typeText { name := "", content } = content.typeText := fun _ => List.append_nil _
  have hlinks : ∀ distinct, (Content.links distinct target none).typeText =
      collection distinct ++ '<' :: (recordText target ++ ['>']) := by
    intro distinct
    rw [typeText_links, itemText, Option.elim_none, List.append_nil]
  cases form with
  | record => exact (hbare _).trans (typeText_link target)
  | option =>
      have hopened : opened 1 = "option".toList ++ ['<'] := by decide
      rw [declaration, FieldDeclaration.typeText, typeText_link, hopened, List.append_assoc,
        List.append_assoc]
      rfl
  | array => exact (hbare _).trans (hlinks false)
  | set => exact (hbare _).trans (hlinks true)

theorem reading_text (form : LinkForm) {target : String} (h : Identifier.Plain target) :
    reading (form.text target) =
      { kind := form.kind, target := some target, optional := form.isOptional } := by
  have htarget : ∀ name ∈ (form.declaration target).content.target?, Identifier.Plain name := by
    intro name hname
    cases form <;> cases hname <;> exact h
  rw [← typeText_declaration, reading_typeText htarget]
  cases form <;> rfl

theorem lower_text (form : LinkForm) (target : String) :
    lower (form.text target) = form.text (lowerString target) := by
  have hrecord : lower (recordText target) = recordText (lowerString target) := by
    rw [recordText_eq, recordText_eq, lower_append, lower_append, toList_lowerString]
    rfl
  have houter : ∀ outer ∈ form.outer?, lower outer.toList = outer.toList := by
    cases form <;> decide
  unfold text
  cases hcase : form.outer? with
  | none => exact hrecord
  | some outer =>
      dsimp only
      rw [lower_append, houter outer hcase, ← List.singleton_append, lower_append, lower_append, hrecord]
      rfl

theorem text_ne_nil (form : LinkForm) (target : String) : form.text target ≠ [] := by
  unfold text
  cases form.outer? with
  | none => simp [recordText_eq]
  | some outer => simp

/-- In a type of the form every bracket that is opened closes at the end. -/
theorem exists_text_eq (form : LinkForm) {target : String} (h : Identifier.Plain target) :
    ∃ inner, form.text target = inner ++ List.replicate (inner.count '<') '>' ∧ '>' ∉ inner := by
  have hopen : '<' ∉ target.toList := Identifier.not_mem_of_plain h (by decide)
  have hclose : '>' ∉ target.toList := Identifier.not_mem_of_plain h (by decide)
  have hrecord : ("record<".toList ++ target.toList).count '<' = 1 := by
    rw [List.count_append, List.count_eq_zero_of_not_mem hopen]
    decide
  have hrecord' : '>' ∉ "record<".toList ++ target.toList :=
    List.not_mem_append (by decide) hclose
  unfold text
  cases hcase : form.outer? with
  | none => exact ⟨"record<".toList ++ target.toList, by rw [hrecord]; rfl, hrecord'⟩
  | some outer =>
      have houter : outer.toList.count '<' = 0 ∧ '>' ∉ outer.toList := by
        cases form <;> cases hcase <;> decide
      refine ⟨outer.toList ++ '<' :: ("record<".toList ++ target.toList), ?_, ?_⟩
      · rw [List.count_append, List.count_cons, hrecord, houter.1, recordText_eq]
        simp
      · simp only [List.mem_append, List.mem_cons, not_or]
        exact ⟨houter.2, by decide, not_or.1 (mt List.mem_append.2 hrecord')⟩

theorem semicolon_not_mem_text (form : LinkForm) {target : String} (h : Identifier.Plain target) :
    ';' ∉ form.text target := by
  have hrecord : ';' ∉ recordText target := by
    rw [recordText_eq]
    exact List.not_mem_append (List.not_mem_append (by decide)
      (Identifier.not_mem_of_plain h (by decide))) (by decide)
  unfold text
  cases hcase : form.outer? with
  | none => exact hrecord
  | some outer =>
      have houter : ';' ∉ outer.toList := by cases form <;> cases hcase <;> decide
      simp only [List.mem_append, List.mem_cons, not_or]
      exact ⟨houter, by decide, hrecord, by decide, List.not_mem_nil⟩

end LinkForm

/-! ## Types in tokens -/

/--
Tokens that together open brackets first and then close all that are open make up a type, and
it ends with them.
-/
theorem typeTokens_nested {parts : List Token} {inner : List Char} {depth : Nat} (hinner : '>' ∉ inner)
    (hopen : 0 < depth + (parts.headD []).count '<')
    (h : parts.flatten = inner ++ List.replicate (depth + inner.count '<') '>') (more : List Token) :
    typeTokens depth (parts ++ more) = parts.flatten := by
  induction parts generalizing depth inner with
  | nil =>
      obtain ⟨rfl, hclosers⟩ := List.append_eq_nil_iff.1 h.symm
      have hzero : depth = 0 := by simpa using hclosers
      simp [hzero] at hopen
  | cons token parts ih =>
      have hopen : 0 < depth + token.count '<' := hopen
      rw [List.flatten_cons] at h
      rw [List.cons_append, typeTokens, List.flatten_cons]
      rcases List.append_eq_append_iff.1 h with ⟨mid, rfl, hparts⟩ | ⟨closers, rfl, hclosers⟩
      · -- the token ends before any bracket closes, so the type goes on behind it
        obtain ⟨htoken, hmid⟩ := not_or.1 (mt List.mem_append.2 hinner)
        have hdepth : depthAfter depth token = depth + token.count '<' := by
          rw [depthAfter, List.count_eq_zero_of_not_mem htoken, Nat.sub_zero]
        have hne : depthAfter depth token ≠ 0 := by omega
        rw [List.count_append, ← Nat.add_assoc, ← hdepth] at hparts
        rw [if_neg hne, ih hmid (by omega) hparts]
      · -- the token closes some brackets, and what is left closes the others
        obtain ⟨hsum, hclosers, hleft⟩ := List.replicate_eq_append_iff.1 hclosers
        have hcount := count_closed closers.length
        rw [closed, ← hclosers] at hcount
        have hdepth : depthAfter depth (inner ++ closers) = parts.flatten.length := by
          rw [depthAfter, List.count_append, List.count_append, hcount.1, hcount.2,
            List.count_eq_zero_of_not_mem hinner]
          omega
        rw [hdepth]
        split
        · rename_i hnone
          rw [List.length_eq_zero_iff.1 hnone, List.append_nil]
        · rename_i hsome
          rw [ih List.not_mem_nil (by omega) hleft]

theorem count_lower {c : Char} (hsmall : isLowerLetter c = false) (hcapital : isUpperLetter c = false)
    (text : List Char) : (lower text).count c = text.count c := by
  rw [lower, List.count_eq_countP, List.countP_map, List.count_eq_countP]
  refine List.countP_congr fun other _ => ?_
  simp only [Function.comp_apply, beq_iff_eq]
  constructor
  · exact eq_of_lowerChar_eq hsmall
  · rintro rfl
    simp [lowerChar, hcapital]

theorem typeTokens_lower (depth : Nat) (tokens : List Token) :
    typeTokens depth (tokens.map lower) = lower (typeTokens depth tokens) := by
  induction tokens generalizing depth with
  | nil => rfl
  | cons token tokens ih =>
      have hdepth : depthAfter depth (lower token) = depthAfter depth token := by
        rw [depthAfter, depthAfter, count_lower (by decide) (by decide), count_lower (by decide) (by decide)]
      rw [List.map_cons, typeTokens, typeTokens, hdepth, ih]
      split
      · rfl
      · rw [lower_append]

/--
Tokens write a type: the first opens a bracket, and together they are the type's letters in any
case.
-/
def WritesType (parts : List Token) (type : List Char) : Prop :=
  '<' ∈ parts.headD [] ∧ sameLetters parts.flatten type = true

theorem typeText?_of_writesType {parts : List Token} {form : LinkForm} {target : String}
    (hplain : Identifier.Plain target) (h : WritesType parts (form.text target)) (more : List Token) :
    typeText? (parts ++ more) = some (form.text (lowerString target)) := by
  have hlower := Identifier.plain_lowerString hplain
  have hflat : lower parts.flatten = form.text (lowerString target) := by
    rw [← form.lower_text]
    exact eq_of_beq h.2
  -- brackets have no case, so the type ends at the same token when all letters are small
  have hsmall : lower (typeTokens 0 (parts ++ more)) = lower parts.flatten := by
    obtain ⟨inner, htext, hinner⟩ := form.exists_text_eq hlower
    have hflatten : (parts.map lower).flatten = lower parts.flatten := List.map_flatten.symm
    have hopen : 0 < 0 + ((parts.map lower).headD []).count '<' := by
      obtain ⟨hmem, -⟩ := h
      cases parts with
      | nil => cases hmem
      | cons first parts =>
          have hcount : (lower first).count '<' = first.count '<' := count_lower (by decide) (by decide) first
          simp only [List.map_cons, List.headD_cons, hcount, Nat.zero_add]
          exact List.count_pos_iff.2 hmem
    have hnested : (parts.map lower).flatten = inner ++ List.replicate (0 + inner.count '<') '>' := by
      rw [hflatten, hflat, Nat.zero_add]
      exact htext
    rw [← typeTokens_lower, List.map_append, typeTokens_nested hinner hopen hnested, hflatten]
  have hne : (typeTokens 0 (parts ++ more)).isEmpty = false := by
    refine List.isEmpty_eq_false_iff.2 fun hnil => ?_
    rw [hnil, hflat] at hsmall
    exact form.text_ne_nil _ hsmall.symm
  have hclosing : ∀ c ∈ typeTokens 0 (parts ++ more), (c == ';') = false := by
    intro c hc
    refine beq_false_of_ne fun heq => ?_
    have hmem : lowerChar c ∈ lower (typeTokens 0 (parts ++ more)) := List.mem_map_of_mem hc
    have hmark : lowerChar ';' = ';' := by decide
    rw [hsmall, hflat, heq, hmark] at hmem
    exact form.semicolon_not_mem_text hlower hmem
  rw [typeText?, hne, dropEndWhile_eq_self hclosing, hsmall, hflat]
  rfl

/-! ## Statements that link -/

/--
A statement that defines a field whose type links to a table: its keywords in any case, with
modifiers before the name, clauses before the type, and whatever may stand behind it.
-/
structure LinkStatement (statement : List Char) (form : LinkForm) (target : String) where
  define : Token
  sort : Token
  modifiers : List Token
  name : Token
  on : Token
  /-- The word `TABLE` before the table, if it is there. -/
  tableWord : List Token
  table : Token
  before : List Token
  type : Token
  parts : List Token
  after : List Token
  words_eq : words statement = define :: sort :: (modifiers ++ name :: on ::
    (tableWord ++ table :: (before ++ type :: (parts ++ after))))
  isDefine : isKeyword "DEFINE" define = true
  isField : isKeyword "FIELD" sort = true
  areModifiers : ∀ modifier ∈ modifiers, isModifier modifier = true
  isName : isModifier name = false
  isOn : isKeyword "ON" on = true
  isTable : (tableWord = [] ∧ isKeyword "TABLE" table = false) ∨
    ∃ word, tableWord = [word] ∧ isKeyword "TABLE" word = true
  before_type : mentions "TYPE" before = false
  isType : isKeyword "TYPE" type = true
  writes : WritesType parts (form.text target)

namespace LinkStatement

variable {statement : List Char} {form : LinkForm} {target : String}

def clauses (written : LinkStatement statement form target) : List Token :=
  written.before ++ written.type :: (written.parts ++ written.after)

theorem dropWhile_isModifier (written : LinkStatement statement form target) :
    (written.modifiers ++ written.name :: written.on ::
      (written.tableWord ++ written.table :: written.clauses)).dropWhile isModifier =
        written.name :: written.on :: (written.tableWord ++ written.table :: written.clauses) := by
  have hname : ¬ isModifier written.name = true := by simp [written.isName]
  rw [List.dropWhile_append_of_pos written.areModifiers, List.dropWhile_cons_of_neg hname]

theorem scope?_eq (written : LinkStatement statement form target) :
    scope? (written.on :: (written.tableWord ++ written.table :: written.clauses)) =
      some (nameOf written.table, written.clauses) := by
  rw [scope?, after?, if_pos written.isOn]
  rcases written.isTable with ⟨hnone, htable⟩ | ⟨word, hword, htable⟩
  · simp [hnone, htable]
  · simp [hword, htable]

theorem typeOfClauses_eq (written : LinkStatement statement form target)
    (hplain : Identifier.Plain target) :
    typeOfClauses written.clauses = form.text (lowerString target) := by
  rw [typeOfClauses, clauses, after?_append_of_not_mentions written.before_type, after?,
    if_pos written.isType, Option.bind_some, typeText?_of_writesType hplain written.writes]
  rfl

theorem made_of_ofStatement? (written : LinkStatement statement form target)
    (hplain : Identifier.Plain target) {app table : String} {made : Field}
    (h : Definition.ofStatement? app statement = some (.field table made)) :
    table = nameOf written.table ∧ made.name = nameOf written.name ∧ made.kind = form.kind ∧
      made.target = some (lowerString target) := by
  obtain ⟨define, sort, tokens, hwords, -, -, hread⟩ := exists_of_ofStatement?_eq_field h
  obtain ⟨rfl, rfl, rfl⟩ : define = written.define ∧ sort = written.sort ∧ tokens = _ := by
    have hcons := hwords.symm.trans written.words_eq
    exact ⟨(List.cons.inj hcons).1, (List.cons.inj (List.cons.inj hcons).2).1,
      (List.cons.inj (List.cons.inj hcons).2).2⟩
  obtain ⟨token, rest, clauses, limit, htokens, hscope, -, -, -, rfl⟩ := exists_of_fieldOf?_eq_some hread
  rw [← LinkStatement.clauses, written.dropWhile_isModifier] at htokens
  obtain ⟨rfl, rfl⟩ := List.cons.inj htokens
  rw [written.scope?_eq] at hscope
  cases hscope
  have hreading := form.reading_text (Identifier.plain_lowerString hplain)
  refine ⟨rfl, rfl, ?_, ?_⟩
  · simp only [fieldOfClauses, written.typeOfClauses_eq hplain, hreading]
    cases form <;> rfl
  · simp only [fieldOfClauses, written.typeOfClauses_eq hplain, hreading]

end LinkStatement

/-! ## Links of models -/

theorem hasTarget_of_ofStatement? {app table : String} {statement : List Char} {made : Field}
    (h : Definition.ofStatement? app statement = some (.field table made)) : Registry.HasTarget made := by
  obtain ⟨_, _, _, -, -, -, hread⟩ := exists_of_ofStatement?_eq_field h
  obtain ⟨_, _, clauses, _, -, -, -, -, -, rfl⟩ := exists_of_fieldOf?_eq_some hread
  intro hlink
  rw [fieldOfClauses, isLink_assertedKind] at hlink
  exact target_reading _ hlink

theorem hasTarget_of_mem_models {sources : List Source} {model : Model} (hmodel : model ∈ models sources)
    {field : Field} (hfield : field ∈ model.allFields) : Registry.HasTarget field := by
  obtain ⟨app, statement, made, columns, hmade, rfl⟩ := exists_stated_of_mem_allFields hmodel hfield
  have hhas : Registry.HasTarget made := hasTarget_of_ofStatement? hmade
  exact hhas

/-- The models of a schema are accepted as they are, but for links that are resolved. -/
theorem ofModels_models (sources : List Source) :
    Registry.ofModels (models sources) =
      .ok ⟨(models sources).map (Registry.resolvedModel (models sources))⟩ :=
  Registry.ofModels_eq_ok (nodup_tables_models sources) fun _ hmodel _ hfield =>
    hasTarget_of_mem_models hmodel hfield

theorem resolvedField_of_plain {field : Field} (hlink : field.kind.isLink = true) {target : String}
    (htarget : field.target = some target) (hplain : Identifier.Plain target) (models : List Model) :
    Registry.resolvedField models field = field := by
  rw [Registry.resolvedField, if_pos hlink, htarget, Option.map_some,
    Registry.resolveTarget_of_not_mem (Identifier.not_mem_of_plain hplain (by decide)), ← htarget]

/--
A field that a schema's statement gives a table, with a type that links to a table of a plain name,
has in the registry the name that its type names, in small letters.  When these are the letters
of a table of the schema, its target is that table exactly, and a table that must link to another
comes behind it in every order of the models selected.
-/
theorem links_resolved {sources : List Source} {front back : List (String × List Char)}
    {app table target : String} {statement : List Char} {form : LinkForm} {made : Field}
    (hstated : statedIn sources = front ++ (app, statement) :: back)
    (written : LinkStatement statement form target) (hplain : Identifier.Plain target)
    (hmade : Definition.ofStatement? app statement = some (.field table made))
    (hlast : ∀ later ∈ back, ∀ field, defined? later = some (.field table field) → field.name ≠ made.name)
    (htable : Defines sources table) (htarget : Defines sources target) :
    ∃ registry, Registry.ofModels (models sources) = .ok registry ∧
      ∃ model ∈ registry.models, model.table = table ∧
        ∃ field ∈ model.allFields, field.name = nameOf written.name ∧
          (∀ other ∈ model.allFields, other.name = field.name → other = field) ∧
          field.kind = form.kind ∧ field.target = some (lowerString target) ∧
          (lowerString target = target → ∃ linked ∈ registry.models, linked.table = target ∧
            field.target = some linked.table ∧
            (form = .record → field.required = true → target ≠ table →
              ∀ exclude authApp order,
                Order.dependencyOrder (registry.select exclude authApp) = .ok order → linked ∈ order →
                  ∀ earlier later, order = earlier ++ model :: later → linked ∈ earlier)) := by
  obtain ⟨model, hmodel, rfl⟩ := exists_mem_models_iff.2 htable
  obtain ⟨linked, hlinked, rfl⟩ := exists_mem_models_iff.2 htarget
  obtain ⟨-, hname, hkind, hnamed⟩ := written.made_of_ofStatement? hplain hmade
  obtain ⟨columns, hmem, honly⟩ := exists_marked_of_stated hstated hmodel hmade hlast
  have hlink : (marked columns made).kind.isLink = true := by
    show made.kind.isLink = true
    rw [hkind]
    cases form <;> rfl
  have hresolved : Registry.resolvedField (models sources) (marked columns made) = marked columns made :=
    resolvedField_of_plain hlink hnamed (Identifier.plain_lowerString hplain) (models sources)
  refine ⟨_, ofModels_models sources, _, List.mem_map_of_mem hmodel, rfl, marked columns made, ?_, hname,
    fun other hother heq => ?_, hkind, hnamed, fun hsmall => ?_⟩
  · rw [Registry.allFields_resolvedModel]
    exact List.mem_map.2 ⟨_, hmem, hresolved⟩
  · rw [Registry.allFields_resolvedModel] at hother
    obtain ⟨before, hbefore, rfl⟩ := List.mem_map.1 hother
    rw [Registry.resolvedField_name] at heq
    rw [honly before hbefore heq, hresolved]
  · have hexact : (marked columns made).target =
        some (Registry.resolvedModel (models sources) linked).table :=
      hnamed.trans (congrArg some hsmall)
    refine ⟨_, List.mem_map_of_mem hlinked, rfl, hexact, ?_⟩
    intro hform hrequired hne exclude authApp order horder hselected earlier later hsplit
    have hforeign : (marked columns made).kind = .foreignKey := by
      rw [hform] at hkind
      exact hkind
    have hfield : marked columns made ∈ (Registry.resolvedModel (models sources) model).fields :=
      List.mem_map.2 ⟨_, mem_fields_of_mem_models hmodel hmem (by rw [hforeign]; decide), hresolved⟩
    exact Registry.linked_earlier (ofModels_models sources) horder hfield hforeign hrequired
      hexact hne hselected hsplit

def blogSources : List Source :=
  [⟨"blog", "DEFINE TABLE post;\nDEFINE FIELD OVERWRITE author ON TABLE post TYPE RECORD< author >;\nDEFINE TABLE author;"⟩]

def authorStatement :
    LinkStatement "DEFINE FIELD OVERWRITE author ON TABLE post TYPE RECORD< author >".toList .record "author" where
  define := "DEFINE".toList
  sort := "FIELD".toList
  modifiers := ["OVERWRITE".toList]
  name := "author".toList
  on := "ON".toList
  tableWord := ["TABLE".toList]
  table := "post".toList
  before := []
  type := "TYPE".toList
  parts := ["RECORD<".toList, "author".toList, ">".toList]
  after := []
  words_eq := by decide +kernel
  isDefine := by decide
  isField := by decide
  areModifiers := by decide
  isName := by decide
  isOn := by decide
  isTable := Or.inr ⟨"TABLE".toList, rfl, by decide⟩
  before_type := rfl
  isType := by decide
  writes := ⟨by decide, by decide⟩

/-- The author of a post links to the table of authors, which comes before that of posts. -/
theorem links_resolved_author :
    ∃ registry, Registry.ofModels (models blogSources) = .ok registry ∧
      ∃ model ∈ registry.models, model.table = "post" ∧
        ∃ field ∈ model.allFields, field.name = "author" ∧ field.target = some "author" ∧
          ∃ linked ∈ registry.models, linked.table = "author" ∧
            (field.required = true → ∀ exclude authApp order,
              Order.dependencyOrder (registry.select exclude authApp) = .ok order → linked ∈ order →
                ∀ earlier later, order = earlier ++ model :: later → linked ∈ earlier) := by
  have hstated : statedIn blogSources = [("blog", "DEFINE TABLE post".toList)] ++
      ("blog", "DEFINE FIELD OVERWRITE author ON TABLE post TYPE RECORD< author >".toList) ::
        [("blog", "DEFINE TABLE author".toList)] := by decide +kernel
  have hmade : Definition.ofStatement? "blog"
      "DEFINE FIELD OVERWRITE author ON TABLE post TYPE RECORD< author >".toList =
        some (.field "post" { name := "author", kind := .foreignKey, target := some "author" }) := by
    decide +kernel
  have hlast : ∀ later ∈ [("blog", "DEFINE TABLE author".toList)], ∀ field,
      defined? later = some (.field "post" field) → field.name ≠ "author" := by
    intro later hlater field hfield
    have htable : defined? ("blog", "DEFINE TABLE author".toList) = some (.table "author" "blog") := by
      decide +kernel
    rw [List.mem_singleton.1 hlater, htable] at hfield
    cases hfield
  have hpost : Defines blogSources "post" :=
    ⟨"blog", "DEFINE TABLE post".toList, by decide +kernel, by decide +kernel⟩
  have hauthor : Defines blogSources "author" :=
    ⟨"blog", "DEFINE TABLE author".toList, by decide +kernel, by decide +kernel⟩
  obtain ⟨registry, hregistry, model, hmodel, htable, field, hfield, hname, -, -, htarget, hexact⟩ :=
    links_resolved hstated authorStatement (by decide) hmade hlast hpost hauthor
  obtain ⟨linked, hlinked, hlinkedTable, -, horder⟩ := hexact (by decide)
  have hauthorName : nameOf authorStatement.name = "author" := by decide
  have hsmall : lowerString "author" = "author" := by decide
  rw [hauthorName] at hname
  rw [hsmall] at htarget
  exact ⟨registry, hregistry, model, hmodel, htable, field, hfield, hname, htarget, linked, hlinked,
    hlinkedTable, fun hrequired => horder rfl hrequired (by decide)⟩

def capitalSources : List Source :=
  [⟨"blog", "DEFINE TABLE post;\nDEFINE FIELD author ON post TYPE record<Author>;\nDEFINE TABLE Author;"⟩]

/--
A link to a table whose name has a capital letter leads to no table, and nothing precedes what
links so.
-/
theorem links_lost_capital_author :
    ∃ post author : Model, Registry.ofModels (models capitalSources) = .ok ⟨[post, author]⟩ ∧
      post.table = "post" ∧ author.table = "Author" ∧
        (post.fields.map fun field => (field.name, field.required, field.target)) =
          [("author", true, some "author")] ∧
        Order.dependencyOrder [post, author] = .ok [post, author] := by
  let link : Field := { name := "author", kind := .foreignKey, target := some "author" }
  refine ⟨(Model.ofName "blog" "post").addField link, Model.ofName "blog" "Author", ?_⟩
  decide +kernel

end Schema

end SampleData
