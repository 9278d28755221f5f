import SampleData.Proofs.Run.Journal

/-!
# The sequence of instances

The store is asked to save the instances of one model after those of another: as many as the
run is to make of each model, in dependency order, and none of a model that is left out.
-/

namespace SampleData

def savedModels (journal : List Event) : List Model :=
  journal.filterMap Event.model?

theorem savedModels_append_aside {events journal : List Event}
    (h : ∀ event ∈ events, event.IsAside) : savedModels (events ++ journal) = savedModels journal := by
  unfold savedModels
  rw [Event.filterMap_append_aside Event.IsAside.model?_eq_none h]

theorem savedModels_append_notes {notes journal : List Event}
    (h : ∀ event ∈ notes, event.IsNote) : savedModels (notes ++ journal) = savedModels journal :=
  savedModels_append_aside fun event hmem => (h event hmem).isAside

/-- The model of the first instance to be saved in what follows, the latest event first. -/
def nextModel? (later : List Event) : Option Model :=
  (savedModels later).getLast?

theorem nextModel?_eq_some {later : List Event} {model : Model} (h : nextModel? later = some model) :
    ∃ front record values answer between,
      later = front ++ .saved record model values answer :: between ∧
        ∀ event ∈ between, event.model? = none := by
  obtain ⟨others, hsaved⟩ := List.getLast?_eq_some_iff.1 h
  obtain ⟨front, back, rfl, -, hback⟩ := List.filterMap_eq_append_iff.1 hsaved
  obtain ⟨gap, event, between, rfl, -, hevent, hnone⟩ := List.filterMap_eq_cons_iff.1 hback
  cases event with
  | saved record found values answer =>
      cases hevent
      exact ⟨front ++ gap, record, values, answer, between, by simp,
        List.filterMap_eq_nil_iff.1 hnone⟩
  | _ => cases hevent

theorem exists_nextModel? {later : List Event} (h : ∃ event ∈ later, event.model? ≠ none) :
    ∃ model, nextModel? later = some model := by
  refine Option.ne_none_iff_exists'.1 fun hnone => ?_
  obtain ⟨event, hmem, hmodel⟩ := h
  exact hmodel (List.filterMap_eq_nil_iff.1 (List.getLast?_eq_none_iff.1 hnone) event hmem)

namespace Generation

open Run

variable {σ : Type} (store : Store σ) (now : Instant)

def attempted (count : Nat) (model : Model) : List Model :=
  match checkModel model with
  | .ok _ => List.replicate count model
  | .error _ => []

theorem mem_attempted {count : Nat} {model other : Model} (h : other ∈ attempted count model) :
    other = model := by
  unfold attempted at h
  split at h
  · exact (List.mem_replicate.1 h).2
  · cases h

theorem count_attempted {models : List Model} (hnodup : models.Nodup) {model : Model}
    (hmodel : model ∈ models) (hcheck : checkModel model = .ok ()) (count : Nat) :
    (models.flatMap (attempted count)).count model = count := by
  have hothers : ∀ others : List Model, model ∉ others →
      (others.flatMap (attempted count)).count model = 0 := by
    intro others hnot
    refine List.count_eq_zero.2 fun hmem => ?_
    obtain ⟨other, hother, hattempted⟩ := List.mem_flatMap.1 hmem
    exact hnot (mem_attempted hattempted ▸ hother)
  obtain ⟨front, back, rfl⟩ := List.append_of_mem hmodel
  have hown : attempted count model = List.replicate count model := by
    rw [attempted, hcheck]
  have hnot := (List.nodup_cons.1 (List.nodup_middle.1 hnodup)).1
  have hfront : model ∉ front := fun hmem => hnot (List.mem_append_left _ hmem)
  have hback : model ∉ back := fun hmem => hnot (List.mem_append_right _ hmem)
  rw [List.flatMap_append, List.flatMap_cons, List.count_append, List.count_append, hothers _ hfront,
    hothers _ hback, hown, List.count_replicate_self, Nat.zero_add, Nat.add_zero]

theorem savedModels_makeInstance (model : Model) (number : Nat) (run : Run σ) :
    savedModels (makeInstance store now model number run).2.journal =
      model :: savedModels run.journal := by
  obtain ⟨made, values, key, answer, notes, hmade, hnotes, hjournal, -⟩ :=
    makeInstance_made store now model number run
  rw [hjournal, savedModels_append_notes hnotes]
  exact congrArg (model :: ·) (savedModels_append_aside hmade.isAside)

theorem savedModels_makeInstances (model : Model) (left number : Nat) (run : Run σ) :
    savedModels (makeInstances store now model left number run).2.journal =
      List.replicate left model ++ savedModels run.journal := by
  induction left generalizing number run with
  | zero => rfl
  | succ left ih =>
      simp only [makeInstances, bind_apply, pure_apply]
      rw [ih, savedModels_makeInstance, List.replicate_succ', List.append_assoc,
        List.singleton_append]

theorem savedModels_treatModel (count : Nat) (model : Model) (run : Run σ) :
    savedModels (treatModel store now count model run).2.journal =
      (attempted count model).reverse ++ savedModels run.journal := by
  unfold treatModel attempted
  simp only [bind_apply, note_apply]
  cases checkModel model with
  | error failure => rfl
  | ok _ =>
      change savedModels (makeInstances store now model count 0 _).2.journal = _
      rw [savedModels_makeInstances, List.reverse_replicate]
      rfl

theorem savedModels_treatModels (count : Nat) (models : List Model) (run : Run σ) :
    savedModels (treatModels store now count models run).2.journal =
      (models.flatMap (attempted count)).reverse ++ savedModels run.journal := by
  induction models generalizing run with
  | nil => rfl
  | cons model rest ih =>
      simp only [treatModels, bind_apply, pure_apply]
      rw [ih, savedModels_treatModel, List.flatMap_cons, List.reverse_append, List.append_assoc]

theorem savedModels_linkModels (models : List Model) (run : Run σ) :
    savedModels (linkModels store models run).2.journal = savedModels run.journal := by
  let property : Run σ → Prop := fun later => savedModels later.journal = savedModels run.journal
  have hnotes : KeepsNotes property := KeepsNotes.of fun event hnote later h => by
    have hfree : ∀ other ∈ [event], other.IsNote := by simpa using hnote
    exact (savedModels_append_notes hfree).trans h
  have hkeeps : Keeps property (linkModels store models) := by
    refine linkModels_keeps hnotes.log ?_
    intro _ _ model _ field _ table _ record _ later h
    obtain ⟨targets, answer, notes, -, hmade, hextends, -⟩ :=
      linkInstance_made store field table record later
    change savedModels _ = _
    rw [hextends.journal, List.append_assoc, savedModels_append_notes hmade]
    exact h
  exact hkeeps run rfl

/-- Nothing is saved when there is no order, and otherwise the instances come in that order. -/
theorem savedModels_runRegistry (registry : Registry) (settings : Settings) (state : σ)
    (draws : Draws) :
    savedModels (runRegistry store now registry settings { store := state, draws }).2.journal =
      match Order.dependencyOrder (registry.select settings.exclude settings.authApp) with
      | .ok ordered => (ordered.flatMap (attempted settings.count)).reverse
      | .error _ => [] := by
  obtain ⟨events, hextends, hfree⟩ :=
    bootstrap_free store settings { store := state, draws }
  have hready : savedModels (bootstrap store settings { store := state, draws }).2.journal = [] := by
    rw [hextends.journal]
    exact savedModels_append_aside fun event hmem => (hfree event hmem).isAside
  change savedModels (fill store now settings.count
    (registry.select settings.exclude settings.authApp)
    (bootstrap store settings { store := state, draws }).2).2.journal = _
  generalize (bootstrap store settings { store := state, draws }).2 = ready at hready ⊢
  cases horder : Order.dependencyOrder (registry.select settings.exclude settings.authApp) with
  | error failure =>
      rw [fill_of_error store now horder]
      exact hready
  | ok ordered =>
      rw [fill_of_ok store now horder, savedModels_linkModels, savedModels_treatModels, hready,
        List.append_nil]

end Generation

end SampleData
