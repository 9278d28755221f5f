import SampleData.Proofs.Schema.Clauses
import SampleData.Proofs.Schema.Tables

/-!
# Definitions that come again

A table, or a field of a table, may be defined by more than one statement.  Of the statements
that give a definition the last one wins: the models are those of the schema without the earlier
one.  A statement that gives none, because what it names is not to be filled, is passed over, and
so an earlier definition of the same thing stands.
-/

namespace SampleData

namespace Schema

/-! ## What a statement is about -/

/-- What can be defined again: a table, or a field of a table. -/
inductive Subject where
  | table (table : String)
  | field (table name : String)
  deriving DecidableEq, Repr, Inhabited

def Definition.subject? : Definition → Option Subject
  | table name _ => some (.table name)
  | field name made => some (.field name made.name)
  | uniqueColumn _ _ => none

/-- The table or the field that a statement defines, whether or not it is one to be filled. -/
def subject? (statement : List Char) : Option Subject :=
  match Text.words statement with
  | define :: sort :: tokens =>
      if isKeyword "DEFINE" define then
        match tokens.dropWhile isModifier with
        | [] => none
        | token :: rest =>
            if isKeyword "TABLE" sort then some (.table (nameOf token))
            else if isKeyword "FIELD" sort then
              (scope? rest).map fun scope => .field scope.1 (nameOf token)
            else none
      else none
  | _ => none

theorem subject?_of_ofStatement? {app : String} {statement : List Char} {definition : Definition}
    (h : Definition.ofStatement? app statement = some definition) :
    subject? statement = definition.subject? := by
  rw [Definition.ofStatement?] at h
  split at h
  · rename_i define sort token rest hwords
    rw [subject?, hwords]
    dsimp only at h ⊢
    split_ifs at h with hdefine htable hfield hindex
    · obtain ⟨table, hread, rfl⟩ := Option.map_eq_some_iff.1 h
      cases htokens : (token :: rest).dropWhile isModifier with
      | nil =>
          rw [htokens] at hread
          cases hread
      | cons first clauses =>
          rw [htokens, tableOf?] at hread
          split_ifs at hread
          cases hread
          simp only [hdefine, htable, if_true]
          rfl
    · obtain ⟨⟨table, made⟩, hread, rfl⟩ := Option.map_eq_some_iff.1 h
      obtain ⟨first, clauses, others, limit, htokens, hscope, -, -, -, rfl⟩ :=
        exists_of_fieldOf?_eq_some hread
      simp only [hdefine, htable, hfield, htokens, hscope, if_true, Bool.false_eq_true, if_false]
      rfl
    · obtain ⟨_, -, rfl⟩ := Option.map_eq_some_iff.1 h
      simp only [hdefine, htable, hfield, if_true, Bool.false_eq_true, if_false]
      cases (token :: rest).dropWhile isModifier <;> rfl
  · cases h

/-! ## Leaving out a definition -/

theorem getLast?_append_cons {α : Type} (front : List α) (element : α) {back : List α}
    (h : back ≠ []) : (front ++ element :: back).getLast? = (front ++ back).getLast? := by
  rw [List.getLast?_append, List.getLast?_append, List.getLast?_cons_of_ne_nil h]

/-- A field whose name comes again may be left out of the fields from the start. -/
theorem lastOfNames_append_cons {front back : List Field} {field : Field}
    (h : ∃ later ∈ back, later.name = field.name) :
    lastOfNames (front ++ field :: back) = lastOfNames (front ++ back) := by
  obtain ⟨later, hlater, hname⟩ := h
  induction front with
  | nil =>
      have hagain : (back.any fun other => other.name == field.name) = true :=
        List.any_eq_true.2 ⟨later, hlater, beq_iff_eq.2 hname⟩
      rw [List.nil_append, List.nil_append, lastOfNames, if_pos hagain]
  | cons first front ih =>
      -- the later field of the name tells the first field whether its name comes again just as well
      have hsame : ((front ++ field :: back).any fun other => other.name == first.name) =
          (front ++ back).any fun other => other.name == first.name := by
        rw [Bool.eq_iff_iff, List.any_eq_true, List.any_eq_true]
        constructor
        · rintro ⟨other, hother, heq⟩
          rcases List.mem_append.1 hother with hother | hother
          · exact ⟨other, List.mem_append_left _ hother, heq⟩
          · rcases List.mem_cons.1 hother with rfl | hother
            · exact ⟨later, List.mem_append_right _ hlater, by rw [hname]; exact heq⟩
            · exact ⟨other, List.mem_append_right _ hother, heq⟩
        · rintro ⟨other, hother, heq⟩
          refine ⟨other, ?_, heq⟩
          rcases List.mem_append.1 hother with hother | hother
          · exact List.mem_append_left _ hother
          · exact List.mem_append_right _ (List.mem_cons_of_mem _ hother)
      rw [List.cons_append, List.cons_append, lastOfNames, lastOfNames, hsame, ih]

theorem Definition.subject?_eq_table {definition : Definition} {name : String}
    (h : definition.subject? = some (.table name)) : ∃ app, definition = .table name app := by
  cases definition <;> cases h
  exact ⟨_, rfl⟩

theorem Definition.subject?_eq_field {definition : Definition} {table name : String}
    (h : definition.subject? = some (.field table name)) :
    ∃ made, definition = .field table made ∧ made.name = name := by
  cases definition <;> cases h
  exact ⟨_, rfl, rfl⟩

/-- No model changes when a definition is left out and a later one is about the same. -/
theorem modelOf?_append_cons {front back : List Definition} {earlier later : Definition}
    {subject : Subject} (hearlier : earlier.subject? = some subject)
    (hlater : later.subject? = some subject) (hmem : later ∈ back) (table : String) :
    modelOf? (front ++ earlier :: back) table = modelOf? (front ++ back) table := by
  rw [modelOf?_eq, modelOf?_eq]
  simp only [List.filterMap_append]
  by_cases habout : earlier.about = table
  · cases subject with
    | table name =>
        obtain ⟨app, rfl⟩ := Definition.subject?_eq_table hearlier
        obtain ⟨given, rfl⟩ := Definition.subject?_eq_table hlater
        obtain rfl : name = table := habout
        have hsaid : appSaid? name (.table name app) = some app := if_pos rfl
        have hne : back.filterMap (appSaid? name) ≠ [] :=
          List.ne_nil_of_mem (List.mem_filterMap.2 ⟨_, hmem, if_pos rfl⟩)
        rw [List.filterMap_cons_some hsaid, getLast?_append_cons _ _ hne]
        rfl
    | field name column =>
        obtain ⟨made, rfl, rfl⟩ := Definition.subject?_eq_field hearlier
        obtain ⟨again, rfl, hname⟩ := Definition.subject?_eq_field hlater
        obtain rfl : name = table := habout
        have hsaid : fieldSaid? name (.field name made) = some made := if_pos rfl
        have hagain : ∃ other ∈ back.filterMap (fieldSaid? name), other.name = made.name :=
          ⟨again, mem_fieldsSaid_iff.2 hmem, hname⟩
        rw [List.filterMap_cons_some hsaid, lastOfNames_append_cons hagain]
        rfl
  · obtain ⟨happ, hfield, hcolumn⟩ := said_of_about_ne habout
    rw [List.filterMap_cons_none happ, List.filterMap_cons_none hfield,
      List.filterMap_cons_none hcolumn]

theorem Definition.about_eq_of_subject? {earlier later : Definition} {subject : Subject}
    (hearlier : earlier.subject? = some subject) (hlater : later.subject? = some subject) :
    earlier.about = later.about := by
  cases subject with
  | table name =>
      obtain ⟨app, rfl⟩ := subject?_eq_table hearlier
      obtain ⟨given, rfl⟩ := subject?_eq_table hlater
      rfl
  | field name column =>
      obtain ⟨made, rfl, -⟩ := subject?_eq_field hearlier
      obtain ⟨again, rfl, -⟩ := subject?_eq_field hlater
      rfl

theorem modelsOf_append_cons {front back : List Definition} {earlier later : Definition}
    {subject : Subject} (hearlier : earlier.subject? = some subject)
    (hlater : later.subject? = some subject) (hmem : later ∈ back) :
    (modelsOf (front ++ back)).Perm (modelsOf (front ++ earlier :: back)) := by
  have hmodels : modelOf? (front ++ earlier :: back) = modelOf? (front ++ back) :=
    funext (modelOf?_append_cons hearlier hlater hmem)
  have hmentioned : ∀ table, table ∈ mentionedTables (front ++ back) ↔
      table ∈ mentionedTables (front ++ earlier :: back) := by
    intro table
    have habout := Definition.about_eq_of_subject? hearlier hlater
    have hback : later.about ∈ back.map Definition.about := List.mem_map_of_mem hmem
    simp only [mentionedTables, List.mem_eraseDups, List.map_append, List.map_cons, List.mem_append,
      List.mem_cons]
    constructor
    · rintro (h | h)
      · exact .inl h
      · exact .inr (.inr h)
    · rintro (h | rfl | h)
      · exact .inl h
      · exact .inr (habout ▸ hback)
      · exact .inr h
  rw [modelsOf, modelsOf, hmodels]
  exact ((List.perm_ext_iff_of_nodup (nodup_eraseDups _) (nodup_eraseDups _)).2 hmentioned).filterMap _

/-! ## Whole schemas -/

/--
A table or a field of a table that two statements define is as the later one says, if that one
gives a definition: without the earlier statement the schema has the same models, but for their
order.  If the later one gives none, the models are those of the schema without that one.
-/
theorem models_redefined {sources : List Source} {front middle back : List (String × List Char)}
    {earlier later : String × List Char} {subject : Subject}
    (hearlier : subject? earlier.2 = some subject) (hlater : subject? later.2 = some subject)
    (hsources : statedIn sources = front ++ earlier :: (middle ++ later :: back)) :
    (defined? later ≠ none → ∀ others : List Source,
      statedIn others = front ++ (middle ++ later :: back) → (models others).Perm (models sources)) ∧
    (defined? later = none → ∀ others : List Source,
      statedIn others = front ++ earlier :: (middle ++ back) → models others = models sources) := by
  refine ⟨fun hdefined others hothers => ?_, fun hnone others hothers => ?_⟩
  · obtain ⟨again, hagain⟩ := Option.ne_none_iff_exists'.1 hdefined
    have hsubject : again.subject? = some subject :=
      (subject?_of_ofStatement? hagain).symm.trans hlater
    have hmem : again ∈ (middle ++ later :: back).filterMap defined? :=
      List.mem_filterMap.2 ⟨later, by simp, hagain⟩
    rw [models_eq, models_eq, definitionsOf, definitionsOf, hsources, hothers]
    generalize middle ++ later :: back = rest at hmem
    rw [List.filterMap_append, List.filterMap_append]
    cases hfirst : defined? earlier with
    | none => rw [List.filterMap_cons_none hfirst]
    | some first =>
        rw [List.filterMap_cons_some hfirst]
        exact modelsOf_append_cons ((subject?_of_ofStatement? hfirst).symm.trans hearlier) hsubject hmem
  · rw [models_eq, models_eq, definitionsOf, definitionsOf, hsources, hothers]
    simp only [List.filterMap_append, List.filterMap_cons, hnone]

/--
A field that is a text at first and then a number, with the definition of its table in between.
-/
theorem models_redefined_number :
    let text := ("shop", "DEFINE FIELD price ON item TYPE string".toList)
    let table := ("shop", "DEFINE TABLE item".toList)
    let number := ("shop", "DEFINE FIELD OVERWRITE price ON TABLE item TYPE int".toList)
    let sources : List Source := [⟨"shop", "DEFINE FIELD price ON item TYPE string; DEFINE TABLE item;\nDEFINE FIELD OVERWRITE price ON TABLE item TYPE int;"⟩]
    let others : List Source := [⟨"shop", "DEFINE TABLE item;\nDEFINE FIELD OVERWRITE price ON TABLE item TYPE int;"⟩]
    subject? text.2 = some (.field "item" "price") ∧ subject? number.2 = some (.field "item" "price") ∧
      statedIn sources = [text, table, number] ∧ defined? number ≠ none ∧
      statedIn others = [table, number] ∧ (models others).Perm (models sources) := by
  intro text table number sources others
  have htext : subject? text.2 = some (.field "item" "price") := by decide +kernel
  have hnumber : subject? number.2 = some (.field "item" "price") := by decide +kernel
  have hsources : statedIn sources = [text, table, number] := by decide +kernel
  have hothers : statedIn others = [table, number] := by decide +kernel
  have hdefined : defined? number ≠ none := by decide +kernel
  have hredefined := @models_redefined sources [] [table] [] text number _ htext hnumber hsources
  exact ⟨htext, hnumber, hsources, hdefined, hothers, hredefined.1 hdefined others hothers⟩

/--
A table that is made one of relations stands as it was, although the later statement alone gives
no table.
-/
theorem models_keep_ignored_table :
    let table := ("shop", "DEFINE TABLE follows".toList)
    let relations := ("shop", "DEFINE TABLE OVERWRITE follows TYPE RELATION".toList)
    let both : List Source := [⟨"shop", "DEFINE TABLE follows; DEFINE TABLE OVERWRITE follows TYPE RELATION;"⟩]
    let later : List Source := [⟨"shop", "DEFINE TABLE OVERWRITE follows TYPE RELATION;"⟩]
    subject? table.2 = some (.table "follows") ∧ subject? relations.2 = some (.table "follows") ∧
      statedIn both = [table, relations] ∧ statedIn later = [relations] ∧
      models both = [Model.ofName "shop" "follows"] ∧ models later = [] ∧
      ¬ (models later).Perm (models both) := by
  intro table relations both later
  have hboth : models both = [Model.ofName "shop" "follows"] := by decide +kernel
  have hlater : models later = [] := by decide +kernel
  refine ⟨by decide +kernel, by decide +kernel, by decide +kernel, by decide +kernel, hboth, hlater, ?_⟩
  rw [hboth, hlater]
  decide

/-- So does a field that is made a computed one. -/
theorem models_keep_ignored_field :
    let sale := ("shop", "DEFINE TABLE sale".toList)
    let stored := ("shop", "DEFINE FIELD total ON sale TYPE int".toList)
    let computed := ("shop", "DEFINE FIELD OVERWRITE total ON sale TYPE int VALUE 1".toList)
    let both : List Source := [⟨"shop", "DEFINE TABLE sale; DEFINE FIELD total ON sale TYPE int; DEFINE FIELD OVERWRITE total ON sale TYPE int VALUE 1;"⟩]
    let later : List Source := [⟨"shop", "DEFINE TABLE sale; DEFINE FIELD OVERWRITE total ON sale TYPE int VALUE 1;"⟩]
    subject? stored.2 = some (.field "sale" "total") ∧
      subject? computed.2 = some (.field "sale" "total") ∧
      statedIn both = [sale, stored, computed] ∧ statedIn later = [sale, computed] ∧
      models both = [(Model.ofName "shop" "sale").addField { name := "total", kind := .integer }] ∧
      models later = [Model.ofName "shop" "sale"] := by
  decide +kernel

end Schema

end SampleData
