import SampleData.Proofs.Schema.Tables

/-!
# Precedence of tables

The models of a schema come in the order in which its statements first mention their tables.  A
table that no field and no index mentions before it is defined comes in front of the tables that are
defined later; one that is mentioned ahead of its definition may come too early.
-/

namespace SampleData

namespace Schema

/-! ## Places of statements -/

/-- The place of the first statement that gives a definition about a table. -/
def mentionedAt (sources : List Source) (table : String) : Nat :=
  (statedIn sources).findIdx fun stated =>
    (defined? stated).any fun definition => definition.about = table

def definedAt (sources : List Source) (table : String) : Nat :=
  (statedIn sources).findIdx fun stated =>
    (defined? stated).any fun definition => definition.about = table ∧ definition.sort = .table

theorem mentionedAt_le_definedAt (sources : List Source) (table : String) :
    mentionedAt sources table ≤ definedAt sources table := by
  refine List.findIdx_le_findIdx fun stated _ h => ?_
  obtain ⟨definition, hdefined, hsaid⟩ := (Option.any_eq_true _ _).1 h
  exact (Option.any_eq_true _ _).2 ⟨definition, hdefined, decide_eq_true (of_decide_eq_true hsaid).1⟩

theorem definedAt_lt_of_defines {sources : List Source} {table : String} (h : Defines sources table) :
    definedAt sources table < (statedIn sources).length := by
  obtain ⟨app, statement, hmem, hread⟩ := h
  refine List.findIdx_lt_length_of_exists ⟨(app, statement), hmem, ?_⟩
  exact (Option.any_eq_true _ _).2 ⟨.table table app, hread, decide_eq_true ⟨rfl, rfl⟩⟩

/-! ## First mentions -/

/--
What the elements of a list give comes, each thing once, in the order in which it is first
given.
-/
theorem pairwise_eraseDups_filterMap {α β : Type} [DecidableEq β] (given : α → Option β) (list : List α) :
    (list.filterMap given).eraseDups.Pairwise fun front back =>
      list.findIdx (fun element => given element = some front) <
        list.findIdx fun element => given element = some back := by
  -- behind the first element its gift is left out, so the induction is on all that can be given
  induction list generalizing given with
  | nil => exact List.Pairwise.nil
  | cons element list ih =>
      cases hgiven : given element with
      | none =>
          rw [List.filterMap_cons_none hgiven]
          refine (ih given).imp fun hlt => ?_
          simpa [List.findIdx_cons, hgiven] using hlt
      | some first =>
          have hne : ∀ other, other ≠ first →
              (element :: list).findIdx (fun element => given element = some other) =
                list.findIdx (fun element => (given element).filter (!· == first) = some other) + 1 := by
            intro other hother
            have hhead : decide (some first = some other) = false := by
              simpa using Ne.symm hother
            have htail : ∀ element, (given element).filter (!· == first) = some other ↔
                given element = some other := by
              intro element
              rw [Option.filter_eq_some_iff]
              simpa using fun _ => hother
            simp only [List.findIdx_cons, hgiven, hhead, cond_false, htail]
          rw [List.filterMap_cons_some hgiven, List.eraseDups_cons, List.filter_filterMap, List.pairwise_cons]
          have hmem : ∀ other ∈ (list.filterMap fun element => (given element).filter (!· == first)).eraseDups,
              other ≠ first := by
            intro other hother
            obtain ⟨_, -, hfilter⟩ := List.mem_filterMap.1 (List.mem_eraseDups.1 hother)
            simpa using (Option.filter_eq_some_iff.1 hfilter).2
          refine ⟨fun other hother => ?_, (ih _).imp_of_mem fun hfront hback hlt => ?_⟩
          · rw [hne other (hmem other hother), List.findIdx_cons, hgiven]
            simp
          · rw [hne _ (hmem _ hfront), hne _ (hmem _ hback)]
            exact Nat.succ_lt_succ hlt

theorem mentionedTables_definitionsOf (sources : List Source) :
    mentionedTables (definitionsOf sources) =
      ((statedIn sources).filterMap fun stated => (defined? stated).map Definition.about).eraseDups := by
  rw [mentionedTables, definitionsOf, List.map_filterMap]

theorem mentionedAt_eq (sources : List Source) (table : String) :
    mentionedAt sources table =
      (statedIn sources).findIdx fun stated => (defined? stated).map Definition.about = some table := by
  unfold mentionedAt
  congr 1
  funext stated
  cases defined? stated <;> simp

theorem pairwise_mentionedAt (sources : List Source) :
    (models sources).Pairwise fun front back =>
      mentionedAt sources front.table < mentionedAt sources back.table := by
  rw [models_eq, modelsOf, mentionedTables_definitionsOf, List.pairwise_filterMap]
  refine (pairwise_eraseDups_filterMap _ _).imp fun hlt front hfront back hback => ?_
  rw [table_of_modelOf?_eq_some hfront, table_of_modelOf?_eq_some hback, mentionedAt_eq, mentionedAt_eq]
  exact hlt

/-! ## Definitions in their order -/

/--
Each model of a schema is of a table that some statement defines, and the models come in the order in
which the tables are first mentioned.  Where that is with its definition, a table comes in front of the
tables that are first defined after it; so when no table is mentioned ahead of its definition, the models
come in the order of the definitions.
-/
theorem models_in_order (sources : List Source) :
    (∀ model ∈ models sources, definedAt sources model.table < (statedIn sources).length) ∧
      ((models sources).Pairwise fun front back =>
        mentionedAt sources front.table < mentionedAt sources back.table ∧
          (mentionedAt sources front.table = definedAt sources front.table →
            definedAt sources front.table < definedAt sources back.table)) ∧
      ((∀ model ∈ models sources,
          mentionedAt sources model.table = definedAt sources model.table) →
        (models sources).Pairwise fun front back =>
          definedAt sources front.table < definedAt sources back.table) := by
  have hdefined : ∀ {front back : Model}, mentionedAt sources front.table < mentionedAt sources back.table →
      mentionedAt sources front.table = definedAt sources front.table →
        definedAt sources front.table < definedAt sources back.table := by
    intro front back hlt heq
    rw [← heq]
    exact Nat.lt_of_lt_of_le hlt (mentionedAt_le_definedAt sources back.table)
  refine ⟨fun model hmem => definedAt_lt_of_defines (exists_mem_models_iff.1 ⟨model, hmem, rfl⟩),
    (pairwise_mentionedAt sources).imp fun hlt => ⟨hlt, hdefined hlt⟩, fun hall => ?_⟩
  exact (pairwise_mentionedAt sources).imp_of_mem fun hfront _ hlt => hdefined hlt (hall _ hfront)

/-- Two tables that are defined before their fields, the second of them in a file of its own. -/
theorem models_in_order_two_files :
    let sources : List Source := [⟨"blog", "DEFINE TABLE post;\nDEFINE FIELD title ON post TYPE string;"⟩,
      ⟨"app", "DEFINE TABLE author; DEFINE INDEX one ON author FIELDS title UNIQUE;"⟩]
    (models sources).map Model.table = ["post", "author"] ∧
      (∀ model ∈ models sources, mentionedAt sources model.table = definedAt sources model.table) ∧
      (models sources).Pairwise fun front back =>
        definedAt sources front.table < definedAt sources back.table := by
  intro sources
  have hmentioned : ∀ model ∈ models sources,
      mentionedAt sources model.table = definedAt sources model.table := by decide +kernel
  exact ⟨by decide +kernel, hmentioned, (models_in_order sources).2.2 hmentioned⟩

/-- A table with a field ahead of its definition comes in front of one that is defined before it. -/
theorem models_post_before_author :
    let sources : List Source :=
      [⟨"blog", "DEFINE FIELD title ON post TYPE string;\nDEFINE TABLE author;\nDEFINE TABLE post;"⟩]
    (models sources).map Model.table = ["post", "author"] ∧
      definedAt sources "author" = 1 ∧ definedAt sources "post" = 2 ∧
      ¬ (models sources).Pairwise fun front back =>
        definedAt sources front.table < definedAt sources back.table := by
  decide +kernel

end Schema

end SampleData
