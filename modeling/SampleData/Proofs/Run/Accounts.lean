import SampleData.Proofs.Run.DryRun
import SampleData.Proofs.Run.Growth
import SampleData.Proofs.Run.RequiredLinks
import SampleData.Proofs.Store.Obliging

/-!
# Accounts that instances link to

The bootstrap creates the account of an administrator.  In a database the account is a record of
its table, and a look for any record of that table finds one.  A store in memory only remembers
the name, so that the table stays empty: in a dry run no instance is created of a model that
requires a link to it.
-/

namespace SampleData

/-! ## Accounts in memory -/

namespace MemoryStore

open Run Generation

theorem admins_ensureAdmin (account : Account) (state : MemoryStore) :
    (ensureAdmin account state).2.admins ≠ [] := by
  rw [ensureAdmin_eq]
  cases state.admins <;> simp

theorem admins_kept : KeptByCalls store fun state _ => state.admins ≠ [] where
  note := fun _ _ h => h
  group := by
    intro state journal table name h
    change (ensureGroup table name state).2.admins ≠ []
    rw [ensureGroup_eq]
    exact h
  admin := fun account _ => admins_ensureAdmin account _
  save := by
    intro state journal record model values h
    change (save record model values state).2.admins ≠ []
    rcases save_cases state record model values with ⟨-, hsave⟩ | ⟨failure, -, hsave⟩ <;>
      (rw [hsave]; exact h)
  pick := fun _ _ h => h
  relate := by
    intro state journal record field targets h
    change (relate record field targets state).2.admins ≠ []
    unfold relate
    split <;> exact h

theorem admins_run (task : Task) (state : MemoryStore) : (task.run state).2.store.admins ≠ [] := by
  let start : Run MemoryStore := { store := state, draws := task.draws }
  have hready : (bootstrap store task.settings start).2.store.admins ≠ [] := by
    rw [KeptByBootstrap.bootstrap_eq]
    exact admins_ensureAdmin _ _
  exact admins_kept.fill task.settings.count task.selected
    (bootstrap store task.settings start).2 hready

theorem admins_afterTasks {state : MemoryStore} (h : state.admins ≠ []) (tasks : List Task) :
    (afterTasks state tasks).admins ≠ [] := by
  induction tasks generalizing state with
  | nil => exact h
  | cons task rest ih => exact ih (admins_run task state)

/-- Only before the first run an administrator is created. -/
theorem eq_nil_of_ensureAdmin {tasks : List Task} {account : Account}
    (h : (ensureAdmin account (afterTasks {} tasks)).1 = .ok true) : tasks = [] := by
  cases tasks with
  | nil => rfl
  | cons task rest =>
      have hadmins : (afterTasks {} (task :: rest)).admins ≠ [] :=
        admins_afterTasks (admins_run task {}) rest
      have hfound : (afterTasks {} (task :: rest)).admins.isEmpty = false :=
        List.isEmpty_eq_false_iff.2 hadmins
      rw [ensureAdmin_eq, hfound] at h
      cases h

theorem pick_ensureAdmin (account : Account) (state : MemoryStore) (table : String) (draws : Draws) :
    (pick table draws (ensureAdmin account state).2).1 = (pick table draws state).1 := by
  have hkeys : (ensureAdmin account state).2.keysOf table = state.keysOf table := by
    rw [keysOf, rowsOf, ensureAdmin_rows]
    rfl
  rw [pick, hkeys]
  rfl

theorem pick_of_created {tasks : List Task} {account : Account}
    (h : (ensureAdmin account (afterTasks {} tasks)).1 = .ok true) (table : String) (draws : Draws) :
    (pick table draws (ensureAdmin account (afterTasks {} tasks)).2).1 = .ok none := by
  obtain rfl := eq_nil_of_ensureAdmin h
  have hempty : ({} : MemoryStore).keysOf table = [] := by simp [keysOf, rowsOf]
  rw [pick_ensureAdmin]
  exact congrArg Prod.fst (pick_of_keysOf_eq_nil hempty draws)

end MemoryStore

/-! ## Accounts in a database -/

/--
A server that keeps the accounts it creates, going by the identities of the records of each
table.
-/
structure Server.KeepsAccounts {δ : Type} (server : Server δ) (identitiesOf : δ → String → List String) :
    Prop where
  creates : ∀ account state identity later,
    server.reply (.query (.createAdmin account)) state = (.answered identity, later) →
      identitiesOf later account.table ≠ []
  /-- A look at a table that has records gives the identity of one. -/
  looks : ∀ table state identity later,
    server.reply (.query (.findAny table)) state = (.answered identity, later) →
      identitiesOf state table ≠ [] → ∃ found ∈ identitiesOf state table, identity = some found
  readable : ∀ state table, ∀ identity ∈ identitiesOf state table,
    ∃ record, Record.read identity = .ok record

namespace Database

variable {δ : Type} {server : Server δ}

theorem exists_reply_of_ensure {look create : Statement} {task : Task} {session later : Session δ}
    (h : ensure server look create task session = (.ok true, later)) :
    ∃ state identity, server.reply (.query create) state = (.answered identity, later.server) := by
  simp only [ensure, bind_apply, firstIdentity_eq] at h
  generalize send server (.query look) session = looked at h
  obtain ⟨reply, between⟩ := looked
  cases hlook : identified reply with
  | error failure =>
      rw [hlook] at h
      cases h
  | ok identity =>
      cases identity with
      | some identity =>
          rw [hlook] at h
          cases h
      | none =>
          simp only [hlook, bind_apply, execute_eq] at h
          cases hmade : executed (some task) (send server (.query create) between).1 with
          | error failure =>
              rw [hmade] at h
              cases h
          | ok _ =>
              rw [hmade] at h
              obtain ⟨identity, hreply⟩ := executed_eq_ok hmade
              cases h
              exact ⟨between.server, identity, Prod.ext hreply rfl⟩

theorem answered_of_found {reply : Reply} {answer : Option Record} (h : found reply = .ok answer) :
    ∃ identity, reply = .answered identity := by
  cases reply with
  | refused text => cases h
  | rejected text => cases h
  | answered identity => exact ⟨identity, rfl⟩

/-- As soon as a server has created an account, a look at its table finds a record. -/
theorem pick_of_created {identitiesOf : δ → String → List String}
    (hserver : server.KeepsAccounts identitiesOf) {account : Account} {session later last : Session δ}
    {answer : Option Record} (hcreated : ensureAdmin server account session = (.ok true, later))
    (hpicked : pick server account.table later = (.ok answer, last)) :
    ∃ record, answer = some record ∧ record.text ∈ identitiesOf later.server account.table := by
  obtain ⟨state, made, hmade⟩ := exists_reply_of_ensure hcreated
  have hrows := hserver.creates account state made later.server hmade
  rw [pick_eq] at hpicked
  have hfound : found (server.reply (.query (.findAny account.table)) later.server).1 = .ok answer :=
    congrArg Prod.fst hpicked
  obtain ⟨identity, hlook⟩ := answered_of_found hfound
  obtain ⟨text, htext, rfl⟩ := hserver.looks _ _ _ _ (Prod.ext hlook rfl) hrows
  obtain ⟨record, hread⟩ := hserver.readable _ _ text htext
  refine ⟨record, ?_, ?_⟩
  · rw [hlook] at hfound
    change (Record.read text).map some = .ok answer at hfound
    rw [hread] at hfound
    exact (Except.ok.inj hfound).symm
  · rw [Record.text_of_read hread]
    exact htext

def accountsIn (tables : List String) (table : String) : List String :=
  if table ∈ tables ∧ (Record.ofText? (table ++ ":admin")).isSome then [table ++ ":admin"] else []

/-- A server that creates accounts in all tables with readable identities, and finds them there. -/
def accountServer : Server (List String) where
  reply
    | .query ⟨text, (_, .text table) :: _⟩, tables =>
        if Statement.kindOf text = .other then
          if (Record.ofText? (table ++ ":admin")).isSome then (.answered none, table :: tables)
          else (.rejected "no such table", tables)
        else
          (.answered (accountsIn tables table).head?, tables)
    | _, tables => (.answered none, tables)

theorem accountServer_reply {statement : Statement} {name table : String}
    {rest : List (String × Parameter)} (h : statement.bindings = (name, .text table) :: rest)
    (tables : List String) :
    accountServer.reply (.query statement) tables =
      if statement.kind = .other then
        if (Record.ofText? (table ++ ":admin")).isSome then (.answered none, table :: tables)
        else (.rejected "no such table", tables)
      else
        (.answered (accountsIn tables table).head?, tables) := by
  obtain ⟨text, bindings⟩ := statement
  obtain rfl : bindings = _ := h
  rfl

theorem accountServer_keepsAccounts : accountServer.KeepsAccounts accountsIn where
  creates := by
    intro account tables identity later h
    have hbindings : (Statement.createAdmin account).bindings = ("tb", .text account.table) :: _ := rfl
    rw [accountServer_reply hbindings, if_pos (Statement.kind_createAdmin account)] at h
    split_ifs at h with hreadable
    · cases h
      simp [accountsIn, hreadable]
    · cases h
  looks := by
    intro table tables identity later h hrows
    have hbindings : (Statement.findAny table).bindings = ("tb", .text table) :: _ := rfl
    have hkind : (Statement.findAny table).kind ≠ .other := by
      rw [Statement.kind_findAny]
      decide
    rw [accountServer_reply hbindings, if_neg hkind] at h
    cases h
    exact ⟨_, List.head_mem hrows, List.head?_eq_some_head hrows⟩
  readable := by
    intro tables table identity hidentity
    unfold accountsIn at hidentity
    split_ifs at hidentity with hin
    · obtain rfl := List.mem_singleton.1 hidentity
      obtain ⟨record, hrecord⟩ := Option.isSome_iff_exists.1 hin.2
      exact ⟨record, by rw [Record.read, hrecord]⟩
    · cases hidentity

end Database

/-! ## Required links that lead nowhere -/

/-- A selected model requires a link to a table that no selected model fills. -/
structure Field.Unseeded (selected : List Model) (model : Model) (table : String) (field : Field) :
    Prop where
  selects : model ∈ selected
  mem : field ∈ model.fields
  kind : field.kind = .foreignKey
  required : field.required = true
  target : field.target = some table
  /-- No other field of the model gives a value of the same name. -/
  only : ∀ other ∈ model.fields, other.name = field.name → other = field
  unfilled : ∀ other ∈ selected, other.table ≠ table

theorem FieldMade.record_of_foreignKey {ledger : Ledger} {field : Field} {made : List Event}
    {value : Value} (h : FieldMade ledger field made (some value)) (hkind : field.kind = .foreignKey) :
    ∃ target, value = .record target := by
  generalize hgiven : some value = given at h
  cases h with
  | plain hplain _ _ => exact absurd hkind hplain
  | untargeted _ _ => cases hgiven
  | created _ _ _ => exact ⟨_, Option.some.inj hgiven⟩
  | picked _ _ _ _ =>
      obtain ⟨target, -, hvalue⟩ := Option.map_eq_some_iff.1 hgiven.symm
      exact ⟨target, hvalue.symm⟩

namespace MemoryStore

open Run Generation

theorem exists_model_of_mem_records {selected : List Model} {journal : List Event}
    (hanswered : Answered journal) (hlawful : Lawful selected journal) {target : Record}
    (h : target ∈ (after journal).records) : ∃ model ∈ selected, target.table = model.table := by
  rw [after_records hanswered, Ledger.mem_ofJournal_iff] at h
  obtain ⟨model, values, hsaved⟩ := h
  obtain ⟨later, past, hsplit⟩ := List.append_of_mem hsaved
  obtain ⟨hmodel, htable, -⟩ := (hlawful.of_split hsplit).1
  exact ⟨model, hmodel, htable⟩

theorem created_of_unseeded {models : List Model} {registry : Registry}
    (hregistry : Registry.ofModels models = .ok registry) {now : Instant} {settings : Settings}
    {draws : Draws} {model : Model} {table : String} {field : Field}
    (hfield : field.Unseeded (registry.select settings.exclude settings.authApp) model table) :
    (runRegistry store now registry settings { store := {}, draws }).2.ledger.created model.table = [] := by
  obtain ⟨-, hanswered⟩ := runRegistry_replayed now registry settings draws
  obtain ⟨hledger, hwritten⟩ := runRegistry_written store now registry settings {} draws
  have hlawful := hwritten.lawful
  have hdistinct := Registry.select_nodup hregistry settings.exclude settings.authApp
  rw [List.eq_nil_iff_forall_not_mem, hledger]
  intro record hrecord
  obtain ⟨-, values, hsaved⟩ := saved_of_mem_created hdistinct hlawful hfield.selects hrecord
  obtain ⟨later, past, hsplit⟩ := List.append_of_mem hsaved
  have hanswer : (save record model values (after past)).1 = .ok () := (hanswered.of_split hsplit).1
  -- What was saved has a value for the link, which leads to a saved record of the table.
  obtain ⟨value, hvalue⟩ := exists_value_of_save hanswer hfield.mem hfield.required
  have hentry := Values.mem_of_get?_eq_some hvalue
  obtain ⟨-, -, -, made, earlier, -, hmade⟩ := (hlawful.of_split hsplit).1
  obtain ⟨maker, hmaker, hname, events, -, hgiven⟩ := hmade.exists_field hentry
  obtain rfl := hfield.only maker hmaker hname
  obtain ⟨target, rfl⟩ := hgiven.record_of_foreignKey hfield.kind
  obtain ⟨⟨linked, hlinked, hsame, -, htarget⟩, hmem⟩ := link_of_lawful hanswered hlawful hsplit hentry
  obtain rfl := hfield.only linked hlinked hsame
  obtain ⟨other, hother, htable⟩ :=
    exists_model_of_mem_records (hanswered.of_split hsplit).2 (hlawful.of_split hsplit).2 hmem
  rw [hfield.target] at htarget
  exact hfield.unfilled other hother (htable.symm.trans (Option.some.inj htarget).symm)

/--
An account that a database creates can be picked from it afterwards, but none that a store in memory
creates: that happens before the first run only, and leaves every table empty.  In a dry run no
instance is created of a model that requires a link to the table of the account, as long as no
selected model fills that table, and the summary says so.
-/
theorem created_account_picked (account : Account) :
    (∀ tasks, (ensureAdmin account (afterTasks {} tasks)).1 = .ok true →
      ∀ table draws, (pick table draws (ensureAdmin account (afterTasks {} tasks)).2).1 = .ok none) ∧
    (∀ {δ : Type} (server : Server δ) (identitiesOf : δ → String → List String),
      server.KeepsAccounts identitiesOf → ∀ (session later last : Session δ) (answer : Option Record),
        Database.ensureAdmin server account session = (.ok true, later) →
          Database.pick server account.table later = (.ok answer, last) →
            ∃ record, answer = some record ∧ record.text ∈ identitiesOf later.server account.table) ∧
    ∀ (models : List Model) (registry : Registry), Registry.ofModels models = .ok registry →
      ∀ (now : Instant) (settings : Settings) (draws : Draws) (model : Model) (field : Field),
        field.Unseeded (registry.select settings.exclude settings.authApp) model account.table →
          let run := runRegistry store now registry settings { store := {}, draws }
          run.2.ledger.created model.table = [] ∧
            ∀ summary, run.1 = .ok summary → model.WellNamed →
              ⟨model.label, settings.count, 0⟩ ∈ summary.processed := by
  refine ⟨fun tasks => pick_of_created, fun server identitiesOf hserver session later last answer =>
    Database.pick_of_created hserver, ?_⟩
  intro models registry hregistry now settings draws model field hfield run
  have hcreated : run.2.ledger.created model.table = [] := created_of_unseeded hregistry hfield
  refine ⟨hcreated, fun summary hsummary hnamed => ?_⟩
  have hprocessed : ⟨model.label, settings.count, run.2.ledger.count model.table⟩ ∈ summary.processed :=
    mem_processed store now hregistry settings {} draws hsummary hfield.selects hnamed
  have hcount : run.2.ledger.count model.table = 0 := congrArg List.length hcreated
  rwa [hcount] at hprocessed

def ownedPost : Model :=
  (Model.ofName "blog" "post").addField { name := "owner", kind := .foreignKey, target := some "user" }

def ownedPosts : List Model :=
  [Model.ofName "auth" "user", ownedPost]

def ownedPostsSettings : Settings :=
  { count := 1, exclude := [], authApp := "auth", bootstrap := { groups := [] },
    admin := ⟨"user", "admin", "admin@example.com", "admin"⟩ }

/-- An owner is found in the database, but no post is created in memory. -/
theorem created_account_picked_owned_posts :
    let account := ownedPostsSettings.admin
    let created := Database.ensureAdmin Database.accountServer account { server := [] }
    let picked := Database.pick Database.accountServer account.table created.2
    let run := runRegistry store ⟨0, 0⟩ ⟨ownedPosts⟩ ownedPostsSettings
      { store := {}, draws := .ofSeed 1 }
    (ensureAdmin account {}).1 = .ok true ∧
      (pick "user" (.ofSeed 1) (ensureAdmin account {}).2).1 = .ok none ∧
      created.1 = .ok true ∧
      (∃ record, picked.1 = .ok (some record) ∧ record.text ∈ Database.accountsIn created.2.server "user") ∧
      run.2.ledger.created ownedPost.table = [] ∧
      ∃ summary, run.1 = .ok summary ∧ ⟨"blog.post", 1, 0⟩ ∈ summary.processed := by
  intro account created picked run
  obtain ⟨hmemory, hdatabase, hdry⟩ := created_account_picked account
  have hrun : run = runRegistry store ⟨0, 0⟩ ⟨ownedPosts⟩ ownedPostsSettings
    { store := {}, draws := .ofSeed 1 } := rfl
  have hcreated : (ensureAdmin account (afterTasks {} [])).1 = .ok true := rfl
  have hserver : created = (.ok true, created.2) :=
    Prod.ext (by decide +kernel : created.1 = .ok true) rfl
  have hpicked : picked = (.ok (some ⟨"user", "admin"⟩), picked.2) :=
    Prod.ext (by decide +kernel : picked.1 = .ok (some ⟨"user", "admin"⟩)) rfl
  obtain ⟨record, hrecord, hidentity⟩ :=
    hdatabase Database.accountServer Database.accountsIn Database.accountServer_keepsAccounts
      { server := [] } created.2 picked.2 (some ⟨"user", "admin"⟩) hserver hpicked
  have hregistry : Registry.ofModels ownedPosts = .ok ⟨ownedPosts⟩ := by decide
  have hselected : Registry.select ⟨ownedPosts⟩ ownedPostsSettings.exclude
      ownedPostsSettings.authApp = [ownedPost] := by decide
  have howner : Field.Unseeded [ownedPost] ownedPost "user"
      { name := "owner", kind := .foreignKey, target := some "user" } :=
    ⟨by decide, by decide, rfl, rfl, rfl, by decide, by decide⟩
  rw [← hselected] at howner
  obtain ⟨hnone, hreported⟩ := hdry ownedPosts ⟨ownedPosts⟩ hregistry ⟨0, 0⟩ ownedPostsSettings
    (.ofSeed 1) _ _ howner
  have hsummary : run.1 = .ok { processed := [⟨"blog.post", 1, 0⟩] } := by decide +kernel
  rw [← hrun] at hnone
  refine ⟨rfl, hmemory [] hcreated "user" (.ofSeed 1), congrArg Prod.fst hserver, ⟨record, ?_, hidentity⟩,
    hnone, _, hsummary, hreported _ hsummary (by decide +kernel)⟩
  rw [hpicked, hrecord]

/-- The account of the posts' owner is created, but it cannot be picked, whatever is drawn. -/
theorem created_account_missing :
    let account := ownedPostsSettings.admin
    let run := runRegistry store ⟨0, 0⟩ ⟨ownedPosts⟩ ownedPostsSettings
      { store := {}, draws := .ofSeed 1 }
    Registry.ofModels ownedPosts = .ok ⟨ownedPosts⟩ ∧
      (ensureAdmin account {}).1 = .ok true ∧
      (∀ draws record, (pick account.table draws (ensureAdmin account {}).2).1 ≠ .ok (some record)) ∧
      run.1 = .ok { processed := [⟨"blog.post", 1, 0⟩] } := by
  intro account run
  refine ⟨by decide, rfl, fun draws record h => ?_, by decide +kernel⟩
  have hnone : (pick account.table draws (ensureAdmin account (afterTasks {} [])).2).1 = .ok none :=
    pick_of_created rfl account.table draws
  change (pick account.table draws (ensureAdmin account (afterTasks {} [])).2).1 = _ at h
  rw [hnone] at h
  cases h

end MemoryStore

end SampleData
