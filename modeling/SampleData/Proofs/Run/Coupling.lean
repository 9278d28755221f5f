import SampleData.Proofs.Run.Keeping

/-!
# Runs side by side

Two runs of the same program over different stores.  What one store answers may depend on what
the other answers in the end, so a comparison tells of either run whether it can still lead to
the end at hand, and it is known of every step that it does not lead back there.
-/

namespace SampleData

namespace Run

variable {σ τ α β : Type}

/-- No run from which a program does not lead to where a property holds. -/
def Backs (property : Run σ → Prop) (program : StateM (Run σ) α) : Prop :=
  ∀ run, property (program run).2 → property run

theorem Backs.of_keeps {property : Run σ → Prop} {program : StateM (Run σ) α}
    (h : ∀ start, Keeps (fun run => property run → property start) program) :
    Backs property program :=
  fun run => h run run id

theorem Backs.keeps {property : Run σ → Prop} {program : StateM (Run σ) α}
    (h : Backs property program) (start : Run σ) :
    Keeps (fun run => property run → property start) program :=
  fun run hrun hlater => hrun (h run hlater)

structure Comparison (σ τ : Type) where
  /-- Whether a run over the first store can lead to the end at hand. -/
  left : Run σ → Prop
  /-- Whether a run over the second store can lead to the end at hand. -/
  right : Run τ → Prop
  alike : Run σ → Run τ → Prop

/-- Programs that keep runs alike, and give the same results, on the way to the end at hand. -/
structure Coupled (comparison : Comparison σ τ) (program : StateM (Run σ) α)
    (other : StateM (Run τ) α) : Prop where
  left : Backs comparison.left program
  right : Backs comparison.right other
  step : ∀ run twin, comparison.alike run twin → comparison.left (program run).2 →
    comparison.right (other twin).2 →
      (program run).1 = (other twin).1 ∧ comparison.alike (program run).2 (other twin).2

namespace Coupled

variable {comparison : Comparison σ τ}

theorem pure (result : α) :
    Coupled comparison (pure result : StateM (Run σ) α) (pure result : StateM (Run τ) α) where
  left := fun _ h => h
  right := fun _ h => h
  step := fun _ _ halike _ _ => ⟨rfl, halike⟩

/-- What follows need be coupled only for the results that there are. -/
theorem bind_of {good : α → Prop} {program : StateM (Run σ) α} {other : StateM (Run τ) α}
    {next : α → StateM (Run σ) β} {after : α → StateM (Run τ) β}
    (h : Coupled comparison program other) (hprogram : ∀ run, good (program run).1)
    (hother : ∀ twin, good (other twin).1)
    (hnext : ∀ result, good result → Coupled comparison (next result) (after result)) :
    Coupled comparison (program >>= next) (other >>= after) where
  left := fun run hlater => h.left run ((hnext _ (hprogram run)).left _ hlater)
  right := fun twin hlater => h.right twin ((hnext _ (hother twin)).right _ hlater)
  step := by
    intro run twin halike hleft hright
    have hmiddle := (hnext _ (hprogram run)).left _ hleft
    have hcentre := (hnext _ (hother twin)).right _ hright
    obtain ⟨hresult, hagain⟩ := h.step run twin halike hmiddle hcentre
    rw [bind_apply, ← hresult] at hright
    rw [bind_apply, bind_apply, ← hresult]
    exact (hnext _ (hprogram run)).step _ _ hagain hleft hright

theorem bind {program : StateM (Run σ) α} {other : StateM (Run τ) α}
    {next : α → StateM (Run σ) β} {after : α → StateM (Run τ) β}
    (h : Coupled comparison program other)
    (hnext : ∀ result, Coupled comparison (next result) (after result)) :
    Coupled comparison (program >>= next) (other >>= after) := by
  have hcoupled : ∀ result, True → Coupled comparison (next result) (after result) :=
    fun result _ => hnext result
  exact h.bind_of (fun _ => trivial) (fun _ => trivial) hcoupled

end Coupled

def Comparison.within (comparison : Comparison σ τ) (ledger : Ledger) : Comparison σ τ :=
  { comparison with alike := fun run other => comparison.alike run other ∧ run.ledger = ledger }

theorem Coupled.of_within {comparison : Comparison σ τ} {program : StateM (Run σ) α}
    {other : StateM (Run τ) α} (h : ∀ ledger, Coupled (comparison.within ledger) program other) :
    Coupled comparison program other where
  left := fun run hlater => (h run.ledger).left run hlater
  right := fun twin hlater => (h twin.ledger).right twin hlater
  step := by
    intro run twin halike hleft hright
    obtain ⟨hresult, hagain, -⟩ := (h run.ledger).step run twin ⟨halike, rfl⟩ hleft hright
    exact ⟨hresult, hagain⟩

/-- Lines and log entries keep runs alike, also where they say different things. -/
def Comparison.SparesNotes (comparison : Comparison σ τ) : Prop :=
  ∀ event other : Event, event.IsNote → other.IsNote →
    Coupled comparison (note event) (note other)

theorem Comparison.SparesNotes.within {comparison : Comparison σ τ}
    (h : comparison.SparesNotes) (ledger : Ledger) : (comparison.within ledger).SparesNotes := by
  intro event other hevent hother
  have hnote := h event other hevent hother
  refine ⟨hnote.left, hnote.right, fun run twin halike hleft hright => ?_⟩
  obtain ⟨hresult, hagain⟩ := hnote.step run twin halike.1 hleft hright
  exact ⟨hresult, hagain, halike.2⟩

end Run

namespace Generation

open Run

variable {σ τ : Type} {comparison : Comparison σ τ} {store : Store σ} {twin : Store τ}
  {now : Instant}

/-! ## From fields to models -/

theorem fieldValues_coupled {fields : List Field}
    (hvalue : ∀ field, Coupled comparison (fieldValue store now field) (fieldValue twin now field)) :
    Coupled comparison (fieldValues store now fields) (fieldValues twin now fields) := by
  induction fields with
  | nil => exact .pure []
  | cons field rest ih =>
      unfold fieldValues
      split
      · exact ih
      · exact (hvalue field).bind fun _ => ih.bind fun _ => .pure _

theorem makeInstance_coupled {model : Model} {number : Nat} {good : Values → Prop}
    (hgood : ∀ run : Run σ, good (fieldValues store now model.fields run).1)
    (hother : ∀ run : Run τ, good (fieldValues twin now model.fields run).1)
    (hvalue : ∀ field, Coupled comparison (fieldValue store now field) (fieldValue twin now field))
    (hdraw : Coupled comparison (draw Fake.recordKey) (draw Fake.recordKey))
    (hkeep : ∀ record values, good values →
      Coupled comparison (keepInstance store record model values number)
        (keepInstance twin record model values number)) :
    Coupled comparison (makeInstance store now model number) (makeInstance twin now model number) := by
  rw [makeInstance_eq, makeInstance_eq]
  refine (fieldValues_coupled hvalue).bind_of hgood hother fun values hvalues => ?_
  exact hdraw.bind fun key => hkeep ⟨model.table, key⟩ values hvalues

theorem makeInstances_coupled {model : Model}
    (hmake : ∀ number, Coupled comparison (makeInstance store now model number)
      (makeInstance twin now model number)) (left number : Nat) :
    Coupled comparison (makeInstances store now model left number)
      (makeInstances twin now model left number) := by
  induction left generalizing number with
  | zero => exact .pure 0
  | succ left ih =>
      exact (hmake number).bind fun _ => (ih (number + 1)).bind fun _ => .pure _

theorem treatModel_coupled {count : Nat} {model : Model} (hnotes : comparison.SparesNotes)
    (hmake : ∀ number, Coupled comparison (makeInstance store now model number)
      (makeInstance twin now model number)) :
    Coupled comparison (treatModel store now count model) (treatModel twin now count model) := by
  refine (hnotes (.line _) (.line _) trivial trivial).bind fun _ => ?_
  cases checkModel model with
  | error failure =>
      exact (hnotes (.log _) (.log _) trivial trivial).bind fun _ => .pure _
  | ok _ =>
      exact (makeInstances_coupled hmake count 0).bind fun _ =>
        (hnotes (.line _) (.line _) trivial trivial).bind fun _ => .pure _

theorem treatModels_coupled {count : Nat} {models : List Model} (hnotes : comparison.SparesNotes)
    (hmake : ∀ model number, Coupled comparison (makeInstance store now model number)
      (makeInstance twin now model number)) :
    Coupled comparison (treatModels store now count models) (treatModels twin now count models) := by
  induction models with
  | nil => exact .pure []
  | cons model rest ih =>
      exact (treatModel_coupled hnotes (hmake model)).bind fun _ => ih.bind fun _ => .pure _

/-! ## From link sets to models -/

theorem linkInstances_coupled {field : Field} {table : String} {records : List Record}
    (hlink : ∀ record ∈ records, Coupled comparison (linkInstance store field table record)
      (linkInstance twin field table record)) :
    Coupled comparison (linkInstances store field table records)
      (linkInstances twin field table records) := by
  induction records with
  | nil => exact .pure 0
  | cons record rest ih =>
      rw [List.forall_mem_cons] at hlink
      exact hlink.1.bind fun _ => (ih hlink.2).bind fun _ => .pure _

theorem linkField_backs {property : Run σ → Prop}
    (hnote : ∀ event : Event, event.IsNote → Backs property (note event))
    (hlink : ∀ field table record, Backs property (linkInstance store field table record))
    (model : Model) (field : Field) : Backs property (linkField store model field) := by
  refine Backs.of_keeps fun start => linkField_keeps ?_ ?_
  · exact (KeepsNotes.of fun event hevent => (hnote event hevent).keeps start).log
  · exact fun _ _ table _ record _ => (hlink field table record).keeps start

/-- Alike runs have the same ledger, so they link the same records through a field. -/
theorem linkField_coupled {model : Model} {field : Field} (hnotes : comparison.SparesNotes)
    (hledger : ∀ run other, comparison.alike run other → run.ledger = other.ledger)
    (hleft : ∀ field table record,
      Backs comparison.left (linkInstance store field table record))
    (hright : ∀ field table record,
      Backs comparison.right (linkInstance twin field table record))
    (hlink : ∀ run other, comparison.alike run other → ∀ table,
      ∀ record ∈ run.ledger.created model.table,
        Coupled comparison (linkInstance store field table record)
          (linkInstance twin field table record)) :
    Coupled comparison (linkField store model field) (linkField twin model field) where
  left := linkField_backs (fun event hevent => (hnotes event event hevent hevent).left) hleft
    model field
  right := linkField_backs (fun event hevent => (hnotes event event hevent hevent).right) hright
    model field
  step := by
    intro run other halike
    cases htarget : field.target with
    | none =>
        simp only [linkField, htarget]
        exact (Coupled.pure 0).step run other halike
    | some table =>
        rw [linkField_of_target store htarget, linkField_of_target twin htarget,
          ← hledger run other halike]
        by_cases hcount : run.ledger.count table = 0
        · rw [if_pos hcount, if_pos hcount]
          intro hended hfinished
          exact ⟨rfl, ((hnotes (.log _) (.log _) trivial trivial).step run other halike
            hended hfinished).2⟩
        · rw [if_neg hcount, if_neg hcount]
          exact (linkInstances_coupled (hlink run other halike table)).step run other halike

theorem linkFields_coupled {model : Model} {fields : List Field}
    (hfield : ∀ field, Coupled comparison (linkField store model field)
      (linkField twin model field)) :
    Coupled comparison (linkFields store model fields) (linkFields twin model fields) := by
  induction fields with
  | nil => exact .pure 0
  | cons field rest ih =>
      exact (hfield field).bind fun _ => ih.bind fun _ => .pure _

theorem linkModels_coupled {models : List Model}
    (hfield : ∀ model field, Coupled comparison (linkField store model field)
      (linkField twin model field)) :
    Coupled comparison (linkModels store models) (linkModels twin models) := by
  induction models with
  | nil => exact .pure 0
  | cons model rest ih =>
      exact (linkFields_coupled (hfield model)).bind fun _ => ih.bind fun _ => .pure _

theorem fill_coupled {count : Nat} {models : List Model}
    (htreat : ∀ ordered, Coupled comparison (treatModels store now count ordered)
      (treatModels twin now count ordered))
    (hlink : ∀ filled, Coupled comparison (linkModels store filled) (linkModels twin filled)) :
    Coupled comparison (fill store now count models) (fill twin now count models) := by
  unfold fill
  cases Order.dependencyOrder models with
  | error failure => exact .pure _
  | ok ordered =>
      refine Coupled.bind ?_ fun _ => .pure _
      exact (htreat ordered).bind fun treatments => (hlink _).bind fun _ => .pure _

end Generation

end SampleData
