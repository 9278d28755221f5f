import SampleData.Proofs.Run.Course
import SampleData.Proofs.Run.Persisted
import SampleData.Proofs.Store.Wording

/-!
# What a run writes into statements

Whatever the names of a registry are and whatever is made up or replied, the text of every
statement is put together from plain names, keys and identities that were looked up.
-/

namespace SampleData

def Event.Plain : Event → Prop
  | saved record model _ _ => model.WellNamed ∧ record.Plain
  | related _ name targets _ => Identifier.Plain name ∧ targets ≠ []
  | _ => True

theorem Event.IsFree.plain {event : Event} (h : event.IsFree) : event.Plain := by
  cases event <;> first | exact h.elim | trivial

theorem Event.IsLinkOf.plain {event : Event} {models : List Model} (h : event.IsLinkOf models)
    (hmodels : ∀ model ∈ models, model.WellNamed) : event.Plain := by
  cases event with
  | related record name targets answer =>
      obtain ⟨htargets, model, hmodel, -, field, hfield, rfl⟩ := h
      have hnamed : field.WellNamed :=
        (hmodels model hmodel).2 field (List.mem_append_right _ hfield)
      exact ⟨hnamed.1, htargets⟩
  | _ => trivial

/-- Instances are saved only in the stretches of models whose names are plain. -/
theorem Treated.plain {count : Nat} {model : Model} {part : List Event}
    (h : Treated count model part) : ∀ event ∈ part, event.Plain := by
  intro event hmem
  have hown := h.own event hmem
  cases event with
  | saved record other values answer =>
      obtain ⟨rfl, htable, hkey⟩ := hown
      have hnamed : other.WellNamed := by
        by_contra hnot
        have hattempts := h.attempts
        rw [if_neg hnot, List.length_eq_zero_iff, List.filterMap_eq_nil_iff] at hattempts
        cases hattempts _ hmem
      exact ⟨hnamed, htable ▸ hnamed.1, hkey⟩
  | related record name targets answer => exact hown.elim
  | _ => trivial

theorem Generation.runRegistry_plain {σ : Type} (store : Store σ) (now : Instant)
    (registry : Registry) (settings : Settings) (state : σ) (draws : Draws) :
    ∀ event ∈ (runRegistry store now registry settings { store := state, draws }).2.journal,
      event.Plain := by
  intro event hmem
  cases horder : Order.dependencyOrder (registry.select settings.exclude settings.authApp) with
  | error failure =>
      obtain ⟨opening, hopening, hfree⟩ := bootstrap_free store settings { store := state, draws }
      have hrun : runRegistry store now registry settings { store := state, draws } =
          (.error failure, (bootstrap store settings { store := state, draws }).2) :=
        fill_of_error store now horder _
      rw [hrun, hopening.journal, List.append_nil] at hmem
      exact (hfree event hmem).plain
  | ok ordered =>
      obtain ⟨parts, summary, -, hcourse⟩ :=
        runRegistry_course store now registry settings state draws horder
      obtain ⟨opening, closing, hevents, hfree, hlinks⟩ := hcourse.events
      have hevent := List.mem_reverse.2 hmem
      change event ∈ Run.events _ at hevent
      rw [hevents] at hevent
      rcases List.mem_append.1 hevent with hbefore | hclosing
      · rcases List.mem_append.1 hbefore with hopening | hstretch
        · exact (hfree event hopening).plain
        · obtain ⟨part, hpart, hown⟩ := List.mem_flatten.1 hstretch
          obtain ⟨model, -, htreated⟩ := exists_of_forall₂_of_mem hcourse.treated hpart
          exact htreated.plain event hown
      · refine (hlinks event hclosing).plain fun model hmodel => ?_
        exact of_decide_eq_true (List.mem_filter.1 hmodel).2

namespace Database

/-! ## Statements -/

/-- An identity that the server gave earlier when it was asked for any record of a table. -/
def FoundIn (past : List (Request × Reply)) (identity : String) : Prop :=
  ∃ table, (.query (.findAny table), .answered (some identity)) ∈ past

/-- What is sent for calls in turn splits where what is sent for one of them splits. -/
theorem exists_call_of_split {trace : List Call} {later past : List (Request × Reply)}
    {exchange : Request × Reply} (h : trace.flatMap Prod.snd = later ++ exchange :: past) :
    ∃ newer call older front back, trace = newer ++ call :: older ∧
      call.2 = front ++ exchange :: back ∧ past = back ++ older.flatMap Prod.snd := by
  induction trace generalizing later with
  | nil => cases later <;> cases h
  | cons call rest ih =>
      rw [List.flatMap_cons] at h
      rcases List.append_eq_append_iff.1 h with ⟨others, hlater, hrest⟩ | ⟨others, hcall, hpast⟩
      · obtain ⟨newer, other, older, front, back, rfl, hother, hback⟩ := ih hrest
        exact ⟨call :: newer, other, older, front, back, rfl, hother, hback⟩
      · cases others with
        | nil =>
            obtain ⟨newer, other, older, front, back, rfl, hother, hback⟩ :=
              @ih [] hpast.symm
            exact ⟨call :: newer, other, older, front, back, rfl, hother, hback⟩
        | cons first back =>
            obtain ⟨rfl, rfl⟩ := List.cons.inj hpast
            exact ⟨[], call, rest, later, back, rfl, hcall, rfl⟩

theorem Persisted.plain {past : List Call} {record : Record} (h : Persisted past record)
    (hplain : ∀ call ∈ past, call.1.Plain) : record.Plain := by
  obtain ⟨model, values, statement, identity, -, hmem⟩ := h
  exact (hplain _ hmem).2

section

variable {trace newer older : List Call} {models : List Model} {past : List (Request × Reply)}

/-- Names come from the model, and links from the ledger or from the server. -/
theorem writable_of_lawful (hsent : ∀ call ∈ trace, Sent call.1 call.2)
    (hlawful : Lawful models (trace.map Prod.fst)) (hplain : ∀ call ∈ trace, call.1.Plain)
    {record : Record} {model : Model} {values : Values} {answer : Except Failure Unit}
    {sent : List (Request × Reply)}
    (hsplit : trace = newer ++ (.saved record model values answer, sent) :: older)
    (hpast : older.flatMap Prod.snd ⊆ past) : Statement.Writable (FoundIn past) values where
  names := by
    intro name value hentry
    have hsaved : Event.Plain (.saved record model values answer) :=
      hplain (.saved record model values answer, sent) (by simp [hsplit])
    have hnamed : model.WellNamed := hsaved.1
    rw [hsplit, List.map_append, List.map_cons] at hlawful
    obtain ⟨-, -, -, made, earlier, -, hmade⟩ := (hlawful.of_split rfl).1
    obtain ⟨field, hfield, rfl, -⟩ := hmade.exists_field hentry
    exact (hnamed.2 field (List.mem_append_left _ hfield)).1
  links := by
    intro name target hentry
    obtain ⟨before, after, hvalues⟩ := List.append_of_mem hentry
    obtain ⟨made, earlier, rfl, hmade⟩ := (grounded_of_lawful hsent hlawful).creates
      newer record model values answer sent older hsplit
    obtain ⟨_, field, _, first, own, others, -, -, -, rfl, -, -, horigin⟩ :=
      hmade before name target after hvalues
    -- A target of the ledger was created by an earlier call; any other keeps the text of a reply.
    cases horigin with
    | persisted htarget hpersisted =>
        refine .inl (hpersisted.plain fun call hcall => hplain call ?_)
        simp [hsplit, hcall]
    | @found table identity notes htarget hnotes hread =>
        refine .inr ⟨table, hpast ?_⟩
        rw [Record.text_of_read hread]
        simp

theorem worded_of_lawful (hsent : ∀ call ∈ trace, Sent call.1 call.2)
    (hlawful : Lawful models (trace.map Prod.fst)) (hplain : ∀ call ∈ trace, call.1.Plain)
    {call : Call} (hsplit : trace = newer ++ call :: older)
    (hpast : older.flatMap Prod.snd ⊆ past) {exchange : Request × Reply}
    (hexchange : exchange ∈ call.2) :
    ∃ statement, exchange.1 = .query statement ∧
      Statement.Worded (FoundIn past) statement.text := by
  have hcall : call ∈ trace := hsplit ▸ List.mem_append_right _ List.mem_cons_self
  have hplainCall := hplain call hcall
  have hsentCall := hsent call hcall
  obtain ⟨event, sent⟩ := call
  dsimp only at hexchange hplainCall hsentCall
  cases hsentCall with
  | note _ => cases hexchange
  | group hensured =>
      rcases hensured.request_eq hexchange with hlook | hcreate
      · exact ⟨_, hlook, Statement.worded_findGroup _ _⟩
      · exact ⟨_, hcreate, Statement.worded_createGroup _ _⟩
  | admin hensured =>
      rcases hensured.request_eq hexchange with hlook | hcreate
      · exact ⟨_, hlook, Statement.worded_findAdmin _⟩
      · exact ⟨_, hcreate, Statement.worded_createAdmin _⟩
  | unwritten _ => cases hexchange
  | save hstatement reply =>
      have hvalues := writable_of_lawful hsent hlawful hplain hsplit hpast
      obtain rfl := List.mem_singleton.1 hexchange
      exact ⟨_, rfl, Statement.worded_createRecord hplainCall.2 hvalues hstatement⟩
  | pick table reply =>
      obtain rfl := List.mem_singleton.1 hexchange
      exact ⟨_, rfl, Statement.worded_findAny table⟩
  | relate record name targets reply =>
      obtain ⟨-, hrecord, htargets⟩ := (grounded_of_lawful hsent hlawful).updates
        newer record name targets _ _ older hsplit
      have holder : ∀ call ∈ older, call.1.Plain := fun other hother =>
        hplain other (by simp [hsplit, hother])
      obtain rfl := List.mem_singleton.1 hexchange
      exact ⟨_, rfl, Statement.worded_setLinks (hrecord.plain holder) hplainCall.1 hplainCall.2
        fun target htarget => (htargets target htarget).plain holder⟩

end

/--
No text of a run holds anything made up but record keys: whatever the names of the registry, the
draws and the server's replies are, every request is a statement worded from plain names, keys
and identities that the server gave before.  Nor does a text that creates a record tell the
contents of its values: alike values have one text and the same parameters.
-/
theorem runRegistry_worded :
    (∀ {δ : Type} (server : Server δ) (state : δ) (now : Instant) (registry : Registry)
        (settings : Settings) (draws : Draws) (later : List (Request × Reply)) (request : Request)
        (reply : Reply) (past : List (Request × Reply)),
      let run := (Generation.runRegistry (store server) now registry settings
        { store := { server := state }, draws }).2
      run.store.exchanges = later ++ (request, reply) :: past →
        ∃ statement, request = .query statement ∧
          Statement.Worded (FoundIn past) statement.text) ∧
    ∀ (record : Record) (values others : Values) (statement second : Statement),
      Values.Alike values others →
      Statement.createRecord record values = .ok statement →
      Statement.createRecord record others = .ok second →
        statement.text = second.text ∧
          statement.bindings.map Prod.fst = second.bindings.map Prod.fst := by
  constructor
  · intro δ server state now registry settings draws later request reply past run hsplit
    obtain ⟨trace, htrace⟩ := (traced server).runRegistry registry settings
      ({ store := { server := state }, draws } : Run (Session δ)) ⟨[], rfl, rfl, nofun⟩
    have hlawful := (Generation.runRegistry_written (store server) now registry settings
      { server := state } draws).2.lawful
    have hnames := Generation.runRegistry_plain (store server) now registry settings
      { server := state } draws
    rw [← htrace.events] at hlawful hnames
    have hplain : ∀ call ∈ trace, call.1.Plain := fun call hcall =>
      hnames call.1 (List.mem_map_of_mem hcall)
    have hexchanges := htrace.exchanges.trans hsplit
    obtain ⟨newer, call, older, front, back, hcalls, hcall, hpast⟩ :=
      exists_call_of_split hexchanges
    have hback : older.flatMap Prod.snd ⊆ past := hpast ▸ List.subset_append_right back _
    have hexchange : (request, reply) ∈ call.2 := by simp [hcall]
    exact worded_of_lawful htrace.sent hlawful hplain hcalls hback hexchange
  · intro record values others statement second halike hvalues hothers
    exact Statement.createRecord_alike record halike hvalues hothers

/--
A model whose table is hostile is left out, and a post refers to a user by the identity that the
server gave; a title that looks like a statement makes the same text as any other title.
-/
theorem runRegistry_worded_hostile_names :
    let hostile := Model.ofName "blog" "x; REMOVE TABLE user"
    let post := (Model.ofName "blog" "post").addField
      { name := "author", kind := .foreignKey, target := some "user" }
    let settings : Settings :=
      { count := 1, exclude := [], authApp := "auth", bootstrap := { groups := [] },
        admin := default }
    let server : Server Unit := { reply := fun _ state => (.answered (some "user:1"), state) }
    let run := (Generation.runRegistry (store server) ⟨0, 0⟩ ⟨[hostile, post]⟩ settings
      { store := { server := () }, draws := .ofSeed 3 }).2
    let created : Statement :=
      { text := "CREATE post:j5ldulyusugbutqsy3ch SET author = user:1 RETURN NONE;" }
    let title (content : String) : Values := [("title", .text content)]
    (∃ past, run.store.exchanges = [] ++ (.query created, .answered (some "user:1")) :: past ∧
      ∃ statement, Request.query created = .query statement ∧
        Statement.Worded (FoundIn past) statement.text) ∧
    ∃ statement second,
      Statement.createRecord ⟨"post", "k"⟩ (title "'; DELETE user; '") = .ok statement ∧
      Statement.createRecord ⟨"post", "k"⟩ (title "Hello") = .ok second ∧
      statement.text = second.text ∧
      statement.bindings.map Prod.fst = second.bindings.map Prod.fst := by
  intro hostile post settings server run created title
  have hsplit : run.store.exchanges =
      [] ++ (.query created, .answered (some "user:1")) :: run.store.exchanges.drop 1 := by
    decide +kernel
  have halike : Values.Alike (title "'; DELETE user; '") (title "Hello") :=
    .cons ⟨rfl, .text _ _⟩ .nil
  obtain ⟨hworded, hsame⟩ := runRegistry_worded
  refine ⟨⟨run.store.exchanges.drop 1, hsplit, ?_⟩, _, _, rfl, rfl, ?_⟩
  · exact hworded server () ⟨0, 0⟩ ⟨[hostile, post]⟩ settings (.ofSeed 3) _ _ _ _ hsplit
  · exact hsame ⟨"post", "k"⟩ _ _ _ _ halike rfl rfl

end Database

end SampleData
