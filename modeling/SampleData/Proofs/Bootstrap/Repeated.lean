import SampleData.Proofs.Order.Search
import SampleData.Proofs.Store.Memory
import SampleData.Run.Bootstrap

/-!
# Repeated bootstraps

What bootstraps leave in a store in memory, whatever is saved and linked between them: every group
once, in the order in which the names were first asked for, and the administrator of the first
bootstrap.  A bootstrap that asks for nothing new leaves the store as it is.
-/

namespace SampleData

namespace MemoryStore

/-! ## One bootstrap -/

theorem enrolled_of_mem {names : List String} {name : String} (h : name ∈ names) :
    enrolled names name = names := by
  simp [enrolled, h]

theorem enrolled_eraseDups (past : List String) (name : String) :
    enrolled past.eraseDups name = (past ++ [name]).eraseDups := by
  rw [List.eraseDups_append]
  by_cases h : name ∈ past
  · simp [enrolled, List.removeAll, h]
  · simp [enrolled, List.removeAll, List.eraseDups_cons, h]

theorem foldl_enrolled_eraseDups (past names : List String) :
    names.foldl enrolled past.eraseDups = (past ++ names).eraseDups := by
  induction names generalizing past with
  | nil => simp
  | cons name rest ih =>
      rw [List.foldl_cons, enrolled_eraseDups, ih, List.append_assoc, List.singleton_append]

theorem ensureGroups_store (table : String) (names : List String) (state : MemoryStore) :
    (Bootstrap.ensureGroups store table names state).2 =
      { state with groups := names.foldl enrolled state.groups } := by
  induction names generalizing state with
  | nil => rfl
  | cons name rest ih =>
      change (Bootstrap.ensureGroups store table rest (ensureGroup table name state).2).2 = _
      rw [ih, ensureGroup_eq]
      rfl

/--
A bootstrap enrols its groups, and its administrator if there is none yet, and touches nothing
else.
-/
theorem bootstrap_store (bootstrap : Bootstrap) (account : Account) (state : MemoryStore) :
    (Bootstrap.run store bootstrap account state).2 =
      { state with
        groups := bootstrap.groups.foldl enrolled state.groups
        admins := if state.admins.isEmpty then [account.username] else state.admins } := by
  change (ensureAdmin account
    (Bootstrap.ensureGroups store bootstrap.groupTable bootstrap.groups state).2).2 = _
  rw [ensureGroups_store, ensureAdmin_eq]

def idleEvents (bootstrap : Bootstrap) (account : Account) : List Event :=
  bootstrap.groups.flatMap (fun name =>
    [.groupEnsured bootstrap.groupTable name (.ok false),
      .log (Bootstrap.groupEntry name (.ok false))]) ++
    [.adminEnsured account (.ok false), .log (Bootstrap.adminEntry account (.ok false))]

theorem ensureGroups_idle (table : String) {names : List String} {state : MemoryStore}
    (h : names ⊆ state.groups) :
    Bootstrap.ensureGroups store table names state =
      (names.flatMap fun name =>
        [.groupEnsured table name (.ok false), .log (Bootstrap.groupEntry name (.ok false))], state) := by
  induction names with
  | nil => rfl
  | cons name rest ih =>
      obtain ⟨hname, hrest⟩ := List.cons_subset.1 h
      have hcalled : store.ensureGroup table name state = (.ok false, state) := by
        change ensureGroup table name state = _
        rw [ensureGroup_eq, enrolled_of_mem hname]
        simp [hname]
      simp only [Bootstrap.ensureGroups, bind_apply, hcalled, ih hrest]
      rfl

/-- A bootstrap that asks only for what is there changes nothing and tells so. -/
theorem bootstrap_idle {bootstrap : Bootstrap} {state : MemoryStore}
    (hgroups : bootstrap.groups ⊆ state.groups) (hadmins : state.admins ≠ []) (account : Account) :
    Bootstrap.run store bootstrap account state = (idleEvents bootstrap account, state) := by
  have hcalled : store.ensureAdmin account state = (.ok false, state) := by
    change ensureAdmin account state = _
    rw [ensureAdmin_eq, List.isEmpty_eq_false_iff.2 hadmins]
    rfl
  simp only [Bootstrap.run, Bootstrap.ensureAdmin, bind_apply, ensureGroups_idle _ hgroups, hcalled]
  rfl

/-! ## Bootstraps among other calls -/

/-- What is done to a store: a bootstrap, or a call about an instance. -/
inductive Action where
  | bootstrap (wanted : Bootstrap) (account : Account)
  | save (record : Record) (model : Model) (values : Values)
  | relate (record : Record) (field : String) (targets : List Record)
  | insert (table : String) (values : Values)
  | pick (table : String) (draws : Draws)

namespace Action

def perform (state : MemoryStore) : Action → MemoryStore
  | bootstrap wanted account => (Bootstrap.run store wanted account state).2
  | save record model values => (MemoryStore.save record model values state).2
  | relate record field targets => (MemoryStore.relate record field targets state).2
  | insert table values => (insertNumbered table values state).2
  | pick table draws => (MemoryStore.pick table draws state).2.2

def groups : Action → List String
  | bootstrap wanted _ => wanted.groups
  | _ => []

def account? : Action → Option Account
  | bootstrap _ account => some account
  | _ => none

end Action

def afterActions (actions : List Action) (state : MemoryStore) : MemoryStore :=
  actions.foldl Action.perform state

/-- The groups and the administrator that actions leave in a store that was empty. -/
structure Bootstrapped (actions : List Action) (state : MemoryStore) : Prop where
  groups : state.groups = (actions.flatMap Action.groups).eraseDups
  admins : state.admins = ((actions.filterMap Action.account?).head?.map Account.username).toList

theorem bootstrapped_empty : Bootstrapped [] {} :=
  ⟨by simp, rfl⟩

theorem Bootstrapped.call {actions : List Action} {state later : MemoryStore} {action : Action}
    (h : Bootstrapped actions state) (hnames : action.groups = []) (haccount : action.account? = none)
    (hgroups : later.groups = state.groups) (hadmins : later.admins = state.admins) :
    Bootstrapped (actions ++ [action]) later := by
  constructor
  · simp [hgroups, h.groups, hnames]
  · simp [hadmins, h.admins, haccount]

theorem Bootstrapped.perform {actions : List Action} {state : MemoryStore}
    (h : Bootstrapped actions state) (action : Action) :
    Bootstrapped (actions ++ [action]) (action.perform state) := by
  cases action with
  | bootstrap wanted account =>
      simp only [Action.perform, bootstrap_store]
      constructor
      · simp [h.groups, foldl_enrolled_eraseDups, Action.groups]
      · simp only [h.admins, List.filterMap_append]
        cases actions.filterMap Action.account? <;> rfl
  | save record model values =>
      rcases save_cases state record model values with ⟨-, hsave⟩ | ⟨failure, -, hsave⟩
      · refine h.call rfl rfl ?_ ?_ <;> simp only [Action.perform, hsave]
      · refine h.call rfl rfl ?_ ?_ <;> simp only [Action.perform, hsave]
  | relate record field targets =>
      refine h.call rfl rfl ?_ ?_ <;> (simp only [Action.perform, MemoryStore.relate]; split <;> rfl)
  | insert table values => exact h.call rfl rfl rfl rfl
  | pick table draws => exact h.call rfl rfl rfl rfl

theorem Bootstrapped.afterActions {past : List Action} {state : MemoryStore}
    (h : Bootstrapped past state) (actions : List Action) :
    Bootstrapped (past ++ actions) (afterActions actions state) := by
  induction actions generalizing past state with
  | nil =>
      rw [List.append_nil]
      exact h
  | cons action rest ih =>
      rw [List.append_cons]
      exact ih (h.perform action)

/--
Whatever is done to a store in memory from the start, its groups are the names that its bootstraps
asked for, each once and where it was first asked for, and its only administrator is that of the
first bootstrap.  No bootstrap touches rows, links or numbers, and as soon as there was one, another
that asks for no new group leaves the store as it is and tells that everything exists.
-/
theorem bootstrap_repeated (actions : List Action) :
    let state := afterActions actions {}
    state.groups.Nodup ∧ state.groups = (actions.flatMap Action.groups).eraseDups ∧
      (∀ first others, actions.filterMap Action.account? = first :: others →
        state.admins = [first.username]) ∧
      (∀ bootstrap account (before : MemoryStore),
        let later := (Bootstrap.run store bootstrap account before).2
        later.rows = before.rows ∧ later.links = before.links ∧ later.numbered = before.numbered) ∧
      ∀ bootstrap account, actions.filterMap Action.account? ≠ [] →
        (∀ name ∈ bootstrap.groups, name ∈ state.groups) →
          Bootstrap.run store bootstrap account state = (idleEvents bootstrap account, state) := by
  intro state
  have h : Bootstrapped actions state := bootstrapped_empty.afterActions actions
  refine ⟨h.groups ▸ nodup_eraseDups _, h.groups, fun first others hfirst => ?_,
    fun bootstrap account before => ?_, fun bootstrap account hsome hgroups => ?_⟩
  · rw [h.admins, hfirst]
    rfl
  · simp [bootstrap_store]
  · refine bootstrap_idle hgroups (fun hnone => ?_) account
    obtain ⟨first, others, hfirst⟩ := List.exists_cons_of_ne_nil hsome
    rw [h.admins, hfirst] at hnone
    cases hnone

/--
Overlapping lists of groups under two administrators, with an instance saved and linked in
between.
-/
theorem bootstrap_repeated_overlapping_groups :
    let ada : Account := ⟨"user", "ada", "ada@example.com", "secret"⟩
    let grace : Account := ⟨"user", "grace", "grace@example.com", "secret"⟩
    let post := Model.ofName "blog" "post"
    let record : Record := ⟨post.table, "first"⟩
    let again : Bootstrap := { groups := ["clerks", "staff", "clerks"] }
    let actions : List Action :=
      [.bootstrap { groups := ["staff", "editors", "staff"] } ada, .save record post [],
        .relate record "related" [record], .bootstrap { groups := ["editors", "clerks"] } grace]
    let state := afterActions actions {}
    state.groups = ["staff", "editors", "clerks"] ∧ state.admins = ["ada"] ∧
      state.rows = [(record, [])] ∧ state.links = [((record, "related"), [record])] ∧
        Bootstrap.run store again grace state = (idleEvents again grace, state) := by
  intro ada grace post record again actions state
  obtain ⟨-, hgroups, hadmin, -, hagain⟩ := bootstrap_repeated actions
  have haccounts : actions.filterMap Action.account? = [ada, grace] := rfl
  have hstaff : state.groups = ["staff", "editors", "clerks"] := hgroups.trans (by decide)
  refine ⟨hstaff, hadmin ada [grace] haccounts, by decide, by decide, ?_⟩
  refine hagain again grace (by rw [haccounts]; simp) fun name hname => ?_
  have hwanted : ∀ name ∈ again.groups, name ∈ ["staff", "editors", "clerks"] := by decide
  exact hstaff ▸ hwanted name hname

end MemoryStore

end SampleData
