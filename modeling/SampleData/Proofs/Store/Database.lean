import SampleData.Proofs.Run.Keeping
import SampleData.Store.Database

/-!
# What is sent for each call

Every call of a store in a database comes down to a few statements, and its answer to the
server's replies.  The exchanges of a session are those of the calls of its journal, one call
after the other.
-/

namespace SampleData

namespace Database

/-! ## Answers -/

def executed (task : Option Task) : Reply → Except Failure Unit
  | .refused text => .error (.database text)
  | .rejected text =>
      match task with
      | some task => .error (.during task (.database text))
      | none => .error (.database text)
  | .answered _ => .ok ()

def identified : Reply → Except Failure (Option String)
  | .refused text => .error (.database text)
  | .rejected text => .error (.database text)
  | .answered identity => .ok identity

def found (reply : Reply) : Except Failure (Option Record) :=
  match identified reply with
  | .error failure => .error failure
  | .ok none => .ok none
  | .ok (some identity) => (Record.read identity).map some

theorem identified_eq_ok {reply : Reply} {identity : Option String}
    (h : identified reply = .ok identity) : reply = .answered identity := by
  cases reply with
  | refused text => cases h
  | rejected text => cases h
  | answered given =>
      cases h
      rfl

theorem executed_eq_ok {task : Option Task} {reply : Reply} (h : executed task reply = .ok ()) :
    ∃ identity, reply = .answered identity := by
  cases reply with
  | refused text => cases h
  | rejected text => cases task <;> cases h
  | answered identity => exact ⟨identity, rfl⟩

theorem found_eq_some {reply : Reply} {record : Record} (h : found reply = .ok (some record)) :
    ∃ identity, reply = .answered (some identity) ∧ Record.read identity = .ok record := by
  cases reply with
  | refused text => cases h
  | rejected text => cases h
  | answered identity =>
      cases identity with
      | none => cases h
      | some identity =>
          change (Record.read identity).map some = .ok (some record) at h
          cases hread : Record.read identity with
          | error failure =>
              rw [hread] at h
              cases h
          | ok target =>
              rw [hread] at h
              cases h
              exact ⟨identity, rfl, hread⟩

/-! ## Exchanges -/

/-- How something is made sure of: the answer, and what is sent for it, the latest first. -/
inductive Ensured (look create : Statement) (task : Task) :
    Except Failure Bool → List (Request × Reply) → Prop
  | failed {reply : Reply} {failure : Failure} (hlook : identified reply = .error failure) :
      Ensured look create task (.error failure) [(.query look, reply)]
  | present (identity : String) :
      Ensured look create task (.ok false) [(.query look, .answered (some identity))]
  | created (reply : Reply) :
      Ensured look create task ((executed (some task) reply).map fun _ => true)
        [(.query create, reply), (.query look, .answered none)]

theorem Ensured.request_eq {look create : Statement} {task : Task} {answer : Except Failure Bool}
    {sent : List (Request × Reply)} (h : Ensured look create task answer sent)
    {exchange : Request × Reply} (hexchange : exchange ∈ sent) :
    exchange.1 = .query look ∨ exchange.1 = .query create := by
  cases h with
  | failed _ => exact .inl (congrArg Prod.fst (List.mem_singleton.1 hexchange))
  | present identity => exact .inl (congrArg Prod.fst (List.mem_singleton.1 hexchange))
  | created reply =>
      rcases List.mem_cons.1 hexchange with rfl | hlook
      · exact .inr rfl
      · exact .inl (congrArg Prod.fst (List.mem_singleton.1 hlook))

inductive Sent : Event → List (Request × Reply) → Prop
  | note {event : Event} (hnote : event.IsNote) : Sent event []
  | group {table name : String} {answer : Except Failure Bool} {sent : List (Request × Reply)}
      (h : Ensured (.findGroup table name) (.createGroup table name) (.creatingGroup name)
        answer sent) : Sent (.groupEnsured table name answer) sent
  | admin {account : Account} {answer : Except Failure Bool} {sent : List (Request × Reply)}
      (h : Ensured (.findAdmin account.table) (.createAdmin account)
        (.creatingAdmin account.username) answer sent) : Sent (.adminEnsured account answer) sent
  /-- An instance with a value that cannot be written is not sent. -/
  | unwritten {record : Record} {model : Model} {values : Values} {failure : Failure}
      (h : Statement.createRecord record values = .error failure) :
      Sent (.saved record model values (.error failure)) []
  | save {record : Record} {model : Model} {values : Values} {statement : Statement}
      (h : Statement.createRecord record values = .ok statement) (reply : Reply) :
      Sent (.saved record model values (executed none reply)) [(.query statement, reply)]
  | pick (table : String) (reply : Reply) :
      Sent (.picked table (found reply)) [(.query (.findAny table), reply)]
  | relate (record : Record) (field : String) (targets : List Record) (reply : Reply) :
      Sent (.related record field targets (executed none reply))
        [(.query (.setLinks record field targets), reply)]

theorem Sent.of_saved {record : Record} {model : Model} {values : Values}
    {answer : Except Failure Unit} {sent : List (Request × Reply)}
    (h : Sent (.saved record model values answer) sent) :
    (∃ failure, Statement.createRecord record values = .error failure ∧
      answer = .error failure ∧ sent = []) ∨
    ∃ statement reply, Statement.createRecord record values = .ok statement ∧
      answer = executed none reply ∧ sent = [(.query statement, reply)] := by
  cases h with
  | note hnote => cases hnote
  | unwritten hstatement => exact .inl ⟨_, hstatement, rfl, rfl⟩
  | save hstatement reply => exact .inr ⟨_, reply, hstatement, rfl, rfl⟩

theorem Sent.of_picked {table : String} {answer : Except Failure (Option Record)}
    {sent : List (Request × Reply)} (h : Sent (.picked table answer) sent) :
    ∃ reply, answer = found reply ∧ sent = [(.query (.findAny table), reply)] := by
  cases h with
  | note hnote => cases hnote
  | pick table reply => exact ⟨reply, rfl, rfl⟩

variable {δ : Type} (server : Server δ)

theorem execute_eq (task : Option Task) (statement : Statement) (session : Session δ) :
    execute server task statement session =
      (executed task (send server (.query statement) session).1,
        (send server (.query statement) session).2) := by
  simp only [execute, bind_apply]
  generalize send server (.query statement) session = replied
  obtain ⟨reply, later⟩ := replied
  cases reply with
  | refused text => rfl
  | rejected text => cases task <;> rfl
  | answered identity => rfl

theorem firstIdentity_eq (statement : Statement) (session : Session δ) :
    firstIdentity server statement session =
      (identified (send server (.query statement) session).1,
        (send server (.query statement) session).2) := by
  simp only [firstIdentity, bind_apply]
  generalize send server (.query statement) session = replied
  obtain ⟨reply, later⟩ := replied
  cases reply <;> rfl

theorem pick_eq (table : String) (session : Session δ) :
    pick server table session =
      (found (send server (.query (.findAny table)) session).1,
        (send server (.query (.findAny table)) session).2) := by
  simp only [pick, bind_apply, firstIdentity_eq, found]
  cases identified (send server (.query (.findAny table)) session).1 with
  | error failure => rfl
  | ok identity => cases identity <;> rfl

theorem execute_sent (task : Option Task) (statement : Statement) (session : Session δ) :
    ∃ reply, (execute server task statement session).1 = executed task reply ∧
      (execute server task statement session).2.exchanges =
        (.query statement, reply) :: session.exchanges := by
  rw [execute_eq]
  exact ⟨_, rfl, rfl⟩

theorem firstIdentity_sent (statement : Statement) (session : Session δ) :
    ∃ reply, (firstIdentity server statement session).1 = identified reply ∧
      (firstIdentity server statement session).2.exchanges =
        (.query statement, reply) :: session.exchanges := by
  rw [firstIdentity_eq]
  exact ⟨_, rfl, rfl⟩

theorem ensure_sent (look create : Statement) (task : Task) (session : Session δ) :
    ∃ sent, Ensured look create task (ensure server look create task session).1 sent ∧
      (ensure server look create task session).2.exchanges = sent ++ session.exchanges := by
  obtain ⟨reply, hanswer, hsent⟩ := firstIdentity_sent server look session
  simp only [ensure, bind_apply]
  generalize firstIdentity server look session = looked at hanswer hsent ⊢
  obtain ⟨answer, later⟩ := looked
  dsimp only at hanswer hsent ⊢
  cases answer with
  | error failure => exact ⟨[_], .failed hanswer.symm, hsent⟩
  | ok identity =>
      rw [identified_eq_ok hanswer.symm] at hsent
      cases identity with
      | some identity => exact ⟨[_], .present identity, hsent⟩
      | none =>
          obtain ⟨made, hmade, hcreated⟩ := execute_sent server (some task) create later
          rw [hsent] at hcreated
          have hensured : Ensured look create task
              ((executed (some task) made).map fun _ => true)
              [(.query create, made), (.query look, .answered none)] := .created made
          rw [← hmade] at hensured
          refine ⟨[(.query create, made), (.query look, .answered none)], ?_⟩
          simp only [bind_apply]
          generalize execute server (some task) create later = executed at hensured hcreated ⊢
          rcases executed with ⟨failure | _, last⟩
          · exact ⟨hensured, hcreated⟩
          · exact ⟨hensured, hcreated⟩

theorem save_of_written {record : Record} {values : Values} {statement : Statement}
    (h : Statement.createRecord record values = .ok statement) (session : Session δ) :
    ∃ reply, (save server record values session).1 = executed none reply ∧
      (save server record values session).2.exchanges =
        (.query statement, reply) :: session.exchanges := by
  unfold save
  rw [h]
  exact execute_sent server none statement session

theorem save_sent (record : Record) (model : Model) (values : Values) (session : Session δ) :
    ∃ sent, Sent (.saved record model values (save server record values session).1) sent ∧
      (save server record values session).2.exchanges = sent ++ session.exchanges := by
  cases hstatement : Statement.createRecord record values with
  | error failure =>
      unfold save
      rw [hstatement]
      exact ⟨[], .unwritten hstatement, rfl⟩
  | ok statement =>
      obtain ⟨reply, hanswer, hsent⟩ := save_of_written server hstatement session
      refine ⟨[(.query statement, reply)], ?_, hsent⟩
      rw [hanswer]
      exact .save hstatement reply

theorem pick_sent (table : String) (session : Session δ) :
    ∃ sent, Sent (.picked table (pick server table session).1) sent ∧
      (pick server table session).2.exchanges = sent ++ session.exchanges := by
  rw [pick_eq]
  exact ⟨_, .pick table _, rfl⟩

theorem relate_sent (record : Record) (field : String) (targets : List Record)
    (session : Session δ) :
    ∃ sent, Sent (.related record field targets (relate server record field targets session).1) sent ∧
      (relate server record field targets session).2.exchanges = sent ++ session.exchanges := by
  unfold relate
  obtain ⟨reply, hanswer, hsent⟩ :=
    execute_sent server none (.setLinks record field targets) session
  refine ⟨[(.query (.setLinks record field targets), reply)], ?_, hsent⟩
  rw [hanswer]
  exact .relate record field targets reply

/-! ## Traces -/

/-- An event with what was sent for it, the latest first. -/
abbrev Call := Event × List (Request × Reply)

/-- A trace tells for each event of a journal what was sent in the session for it. -/
structure Traces (trace : List Call) (session : Session δ) (journal : List Event) : Prop where
  events : trace.map Prod.fst = journal
  exchanges : trace.flatMap Prod.snd = session.exchanges
  sent : ∀ call ∈ trace, Sent call.1 call.2

theorem Traces.cons {trace : List Call} {session later : Session δ} {journal : List Event}
    (h : Traces trace session journal) {event : Event}
    (hcall : ∃ sent, Sent event sent ∧ later.exchanges = sent ++ session.exchanges) :
    ∃ trace, Traces trace later (event :: journal) := by
  obtain ⟨sent, hsent, hexchanges⟩ := hcall
  refine ⟨(event, sent) :: trace, ?_, ?_, ?_⟩
  · rw [List.map_cons, h.events]
  · rw [List.flatMap_cons, h.exchanges, hexchanges]
  · exact List.forall_mem_cons.2 ⟨hsent, h.sent⟩

/-- The calls of a journal account for all that is sent in a session. -/
theorem traced : KeptByCalls (store server) fun session journal => ∃ trace, Traces trace session journal where
  note := fun event hnote ⟨_, h⟩ => h.cons ⟨[], .note hnote, rfl⟩
  group := fun table name ⟨_, h⟩ => by
    obtain ⟨sent, hensured, hexchanges⟩ := ensure_sent server (.findGroup table name)
      (.createGroup table name) (.creatingGroup name) _
    exact h.cons ⟨sent, .group hensured, hexchanges⟩
  admin := fun account ⟨_, h⟩ => by
    obtain ⟨sent, hensured, hexchanges⟩ := ensure_sent server (.findAdmin account.table)
      (.createAdmin account) (.creatingAdmin account.username) _
    exact h.cons ⟨sent, .admin hensured, hexchanges⟩
  save := fun record model values ⟨_, h⟩ => h.cons (save_sent server record model values _)
  pick := fun table _ ⟨_, h⟩ => h.cons (pick_sent server table _)
  relate := fun record field targets ⟨_, h⟩ => h.cons (relate_sent server record field targets _)

theorem exchanges_kept (start : List (Request × Reply)) :
    KeptByCalls (store server) fun session _ => start <:+ session.exchanges := by
  have hgrows : ∀ {sent : List (Request × Reply)} {session later : Session δ},
      later.exchanges = sent ++ session.exchanges → start <:+ session.exchanges →
        start <:+ later.exchanges := by
    intro sent session later hexchanges h
    rw [hexchanges]
    exact h.trans (List.suffix_append _ _)
  refine ⟨⟨fun _ _ h => h, fun table name h => ?_, fun account h => ?_⟩,
    fun record model values h => ?_, fun table draws h => ?_, fun record field targets h => ?_⟩
  · obtain ⟨sent, -, hexchanges⟩ := ensure_sent server (.findGroup table name)
      (.createGroup table name) (.creatingGroup name) _
    exact hgrows hexchanges h
  · obtain ⟨sent, -, hexchanges⟩ := ensure_sent server (.findAdmin account.table)
      (.createAdmin account) (.creatingAdmin account.username) _
    exact hgrows hexchanges h
  · obtain ⟨sent, -, hexchanges⟩ := save_sent server record model values _
    exact hgrows hexchanges h
  · obtain ⟨sent, -, hexchanges⟩ := pick_sent server table _
    exact hgrows hexchanges h
  · obtain ⟨sent, -, hexchanges⟩ := relate_sent server record field targets _
    exact hgrows hexchanges h

end Database

end SampleData
