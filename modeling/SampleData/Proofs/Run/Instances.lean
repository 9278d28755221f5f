import SampleData.Proofs.Run.Making

/-!
# The values of an instance

Every field of a model but the key has its turn, in the order of declaration, and finds the state that
the fields before it left.  What comes out of its turn is a value of the sort that its kind asks for, or
nothing, and a field that gets nothing leaves out its own entry alone.
-/

namespace SampleData

/-! ## Values by kind -/

/-- A value of the sort that its field holds; links to many records and unknown kinds hold none. -/
inductive Value.Fits (field : Field) : Value → Prop
  | text (hkind : field.kind.isText = true) (content : String) : Fits field (.text content)
  | boolean (hkind : field.kind = .boolean) (flag : Bool) : Fits field (.boolean flag)
  | integer (hkind : field.kind = .integer) {number : Int}
      (hrange : if field.name = "index_number" then 1 ≤ number ∧ number ≤ 100
        else 0 ≤ number ∧ number ≤ 1000) :
      Fits field (.integer number)
  | decimal (hkind : field.kind = .decimal) (numeral : String) : Fits field (.decimal numeral)
  | dateTime (hkind : field.kind = .dateTime) (instant : Instant) : Fits field (.dateTime instant)
  | date (hkind : field.kind = .date) (day : Date) : Fits field (.date day)
  | record (hkind : field.kind = .foreignKey) (target : Record) : Fits field (.record target)

namespace Synthesis

theorem integer_range (field : Field) (draws : Draws) :
    if field.name = "index_number" then
      1 ≤ (integer field draws).1 ∧ (integer field draws).1 ≤ 100
    else 0 ≤ (integer field draws).1 ∧ (integer field draws).1 ≤ 1000 := by
  unfold integer
  split
  · exact Draws.between_mem (by decide) draws
  · exact Draws.between_mem (by decide) draws

theorem byKind_fits {now : Instant} {field : Field} {draws : Draws} {made : Value}
    (h : (byKind now field draws).1 = .ok (some made)) : made.Fits field := by
  unfold byKind at h
  cases hkind : field.kind <;> rw [hkind] at h <;> dsimp only at h
  case shortText | email =>
    obtain ⟨content, -, rfl⟩ := asValue_eq_ok h
    exact .text (by rw [hkind]; rfl) content
  case longText | url =>
    obtain rfl := always_eq_ok h
    exact .text (by rw [hkind]; rfl) _
  case date =>
    obtain ⟨day, -, rfl⟩ := asValue_eq_ok h
    exact .date hkind day
  case dateTime =>
    obtain ⟨instant, -, rfl⟩ := asValue_eq_ok h
    exact .dateTime hkind instant
  case boolean =>
    obtain rfl := always_eq_ok h
    exact .boolean hkind _
  case integer =>
    obtain rfl := always_eq_ok h
    exact .integer hkind (integer_range field draws)
  case decimal =>
    obtain ⟨numeral, -, rfl⟩ := asValue_eq_ok h
    exact .decimal hkind numeral
  case foreignKey | manyToMany | other => cases h

theorem value_fits {now : Instant} {field : Field} {draws : Draws} {made : Value}
    (h : (value now field draws).1 = .ok (some made)) : made.Fits field := by
  cases hsource : field.source with
  | none =>
      rw [value, hsource] at h
      exact byKind_fits h
  | some source =>
      cases hkind : field.kind.isText with
      | false =>
          rw [value_misfit hsource hkind] at h
          cases h
      | true =>
          rw [value, hsource] at h
          obtain ⟨content, -, rfl⟩ := asValue_eq_ok h
          exact .text hkind content

end Synthesis

namespace Generation

open Run

variable {σ : Type} (store : Store σ) (now : Instant)

/-! ## Turns -/

structure Turn (σ : Type) where
  field : Field
  run : Run σ

/-- The turns of fields in order; the key has none. -/
def turns : List Field → Run σ → List (Turn σ)
  | [], _ => []
  | field :: rest, run =>
      if field.name = keyField then
        turns rest run
      else
        ⟨field, run⟩ :: turns rest (fieldValue store now field run).2

/--
What a field gets in its turn: the record that its link leads to, or else what is made up for
it.
-/
def Turn.given? (turn : Turn σ) : Option Value :=
  if turn.field.kind = .foreignKey then
    (resolveLink store turn.field turn.run).1.map Value.record
  else
    (Synthesis.value now turn.field turn.run.draws).1.toOption.join

def Turn.entry? (turn : Turn σ) : Option (String × Value) :=
  (turn.given? store now).map fun value => (turn.field.name, value)

theorem fieldValue_fst (field : Field) (run : Run σ) :
    (fieldValue store now field run).1 = (⟨field, run⟩ : Turn σ).given? store now := by
  unfold fieldValue Turn.given?
  split
  · rfl
  · simp only [plainValue, bind_apply, draw_apply]
    generalize Synthesis.value now field run.draws = sampled
    rcases sampled with ⟨failure | value, draws⟩ <;> rfl

theorem fieldValue_plain {field : Field} (hkind : field.kind ≠ .foreignKey) (run : Run σ) :
    (fieldValue store now field run).2.store = run.store ∧
      (fieldValue store now field run).2.ledger = run.ledger ∧
      (fieldValue store now field run).2.draws = (Synthesis.value now field run.draws).2 := by
  rw [fieldValue, if_neg hkind]
  simp only [plainValue, bind_apply, draw_apply]
  generalize Synthesis.value now field run.draws = sampled
  rcases sampled with ⟨failure | value, draws⟩ <;> exact ⟨rfl, rfl, rfl⟩

theorem turns_fields (fields : List Field) (run : Run σ) :
    (turns store now fields run).map Turn.field = fields.filter fun field => field.name ≠ keyField := by
  induction fields generalizing run with
  | nil => rfl
  | cons field rest ih =>
      by_cases hname : field.name = keyField
      · rw [turns, if_pos hname, ih, List.filter_cons_of_neg (by simp [hname])]
      · rw [turns, if_neg hname, List.map_cons, ih, List.filter_cons_of_pos (by simp [hname])]

/-- The values of fields are the entries of those that get one in their turns. -/
theorem fieldValues_fst (fields : List Field) (run : Run σ) :
    (fieldValues store now fields run).1 =
      (turns store now fields run).filterMap (Turn.entry? store now) := by
  induction fields generalizing run with
  | nil => rfl
  | cons field rest ih =>
      by_cases hname : field.name = keyField
      · rw [fieldValues, turns, if_pos hname, if_pos hname, ih]
      · have hgiven := fieldValue_fst store now field run
        rw [fieldValues, turns, if_neg hname, if_neg hname, bind_apply, bind_apply, pure_apply, ih,
          hgiven, List.filterMap_cons, Turn.entry?]
        cases (⟨field, run⟩ : Turn σ).given? store now <;> rfl

theorem fieldValues_append (front back : List Field) (run : Run σ) :
    fieldValues store now (front ++ back) run =
      let reached := (fieldValues store now front run).2
      ((fieldValues store now front run).1 ++ (fieldValues store now back reached).1,
        (fieldValues store now back reached).2) := by
  induction front generalizing run with
  | nil => rfl
  | cons field rest ih =>
      by_cases hname : field.name = keyField
      · simp only [List.cons_append, fieldValues, if_pos hname, ih]
      · simp only [List.cons_append, fieldValues, if_neg hname, bind_apply, pure_apply, ih,
          List.append_assoc]

/--
A field that gets nothing has no entry, and those behind it go on from the state that it leaves.
-/
theorem fieldValues_of_failed {field : Field} (hname : field.name ≠ keyField) (front back : List Field)
    (run : Run σ) (h : (⟨field, (fieldValues store now front run).2⟩ : Turn σ).given? store now = none) :
    (fieldValues store now (front ++ field :: back) run).1 =
      (fieldValues store now front run).1 ++
        (fieldValues store now back
          (fieldValue store now field (fieldValues store now front run).2).2).1 := by
  rw [← fieldValue_fst] at h
  rw [fieldValues_append, fieldValues, if_neg hname]
  simp only [bind_apply, pure_apply, h]
  rfl

theorem given?_fits {turn : Turn σ} {value : Value} (h : turn.given? store now = some value) :
    value.Fits turn.field := by
  unfold Turn.given? at h
  split at h
  · obtain ⟨target, -, rfl⟩ := Option.map_eq_some_iff.1 h
    exact .record ‹_› target
  · cases hmade : (Synthesis.value now turn.field turn.run.draws).1 with
    | error failure =>
        rw [hmade] at h
        cases h
    | ok made =>
        rw [hmade] at h
        obtain rfl : made = some value := h
        exact Synthesis.value_fits hmade

theorem given?_of_misfit {turn : Turn σ} (hsource : turn.field.source ≠ none)
    (htext : turn.field.kind.isText = false) (hlink : turn.field.kind ≠ .foreignKey) :
    turn.given? store now = none := by
  obtain ⟨source, hsource⟩ := Option.ne_none_iff_exists'.1 hsource
  rw [Turn.given?, if_neg hlink, Synthesis.value_misfit hsource htext]
  rfl

theorem map_fst_entries (taken : List (Turn σ)) :
    (taken.filterMap (Turn.entry? store now)).map Prod.fst =
      (taken.filter fun turn => (turn.given? store now).isSome).map (fun turn => turn.field.name) := by
  rw [List.map_filterMap, ← List.filterMap_eq_map, List.filterMap_filter]
  refine List.filterMap_congr fun turn _ => ?_
  rw [Turn.entry?]
  cases turn.given? store now <;> rfl

/-- A link is resolved by its target, whatever source its field names. -/
theorem given?_withSource {turn : Turn σ} (hkind : turn.field.kind = .foreignKey)
    (source : Option TextSource) :
    ({ turn with field := { turn.field with source } } : Turn σ).given? store now =
      turn.given? store now := by
  simp only [Turn.given?, hkind, if_true]
  rfl

/--
Whatever the store, the ledger, the draws and the clock: all fields of a model but those named as the
key have their turns, in the order of declaration.  The values of an instance are the entries, by the
names of the fields, of those that a value is made up for or whose link is resolved, and each value is
of the sort that its field holds.  A link is resolved whatever source its field names, while on any other
field that is none for text a source leaves it without a value.  And a field that gets nothing
removes its own entry alone: those before it and behind it get theirs, in the state that it leaves.
-/
theorem instanceValues_fit (model : Model) (run : Run σ) :
    let taken := turns store now model.fields run
    taken.map Turn.field = model.fields.filter (fun field => field.name ≠ "id") ∧
      (instanceValues store now model run).1 = taken.filterMap (Turn.entry? store now) ∧
      (instanceValues store now model run).1.map Prod.fst =
        (taken.filter fun turn => (turn.given? store now).isSome).map (fun turn => turn.field.name) ∧
      (∀ turn ∈ taken, ∀ value, turn.given? store now = some value → value.Fits turn.field) ∧
      (∀ turn ∈ taken, turn.field.kind = .foreignKey → ∀ source,
        ({ turn with field := { turn.field with source } } : Turn σ).given? store now =
          turn.given? store now) ∧
      (∀ turn ∈ taken, turn.field.source ≠ none → turn.field.kind.isText = false →
        turn.field.kind ≠ .foreignKey → turn.given? store now = none) ∧
      ∀ front field back, model.fields = front ++ field :: back → field.name ≠ "id" →
        let reached := (fieldValues store now front run).2
        (⟨field, reached⟩ : Turn σ).given? store now = none →
          (instanceValues store now model run).1 =
            (fieldValues store now front run).1 ++
              (fieldValues store now back (fieldValue store now field reached).2).1 ∧
          (field.kind ≠ .foreignKey →
            (fieldValue store now field reached).2.store = reached.store ∧
            (fieldValue store now field reached).2.ledger = reached.ledger ∧
            (fieldValue store now field reached).2.draws = (Synthesis.value now field reached.draws).2) := by
  intro taken
  have hvalues : (instanceValues store now model run).1 = taken.filterMap (Turn.entry? store now) :=
    fieldValues_fst store now model.fields run
  refine ⟨turns_fields store now model.fields run, hvalues, ?_, fun turn _ value => given?_fits store now,
    fun turn _ => given?_withSource store now, fun turn _ => given?_of_misfit store now, ?_⟩
  · rw [hvalues]
    exact map_fst_entries store now taken
  · intro front field back hfields hname reached hnone
    refine ⟨?_, fun hkind => fieldValue_plain store now hkind reached⟩
    rw [instanceValues, hfields]
    exact fieldValues_of_failed store now hname front back run hnone

/--
The key has no turn, and a ratio with more places than digits gets nothing, whatever is drawn.
-/
example (run : Run σ) :
    let ratio : Field :=
      { name := "ratio", kind := .decimal, maxDigits := some 2, decimalPlaces := some 4 }
    let model := (Model.ofName "shop" "offer").addFields
      [{ name := "id", kind := .integer }, ratio, { name := "open", kind := .boolean }]
    (instanceValues store now model run).1.map Prod.fst = ["open"] := by
  rfl

end Generation

end SampleData
