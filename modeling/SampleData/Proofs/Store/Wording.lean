import SampleData.Proofs.Fake
import SampleData.Proofs.Naming
import SampleData.Proofs.Registry
import SampleData.Proofs.Synthesis
import SampleData.Store.Statement

/-!
# What stands in the text of a statement

The texts that may be sent, as a grammar over plain names and keys.  No rule of it has a place
for a value other than a record: values are bound to parameters, which the text only names.
-/

namespace SampleData

def Record.Plain (record : Record) : Prop :=
  Identifier.Plain record.table ∧ Fake.IsKey record.key

/-- Two values of one sort; records must be the same, any other content may differ. -/
inductive Value.Alike : Value → Value → Prop
  | text (first second : String) : Alike (.text first) (.text second)
  | integer (first second : Int) : Alike (.integer first) (.integer second)
  | decimal (first second : String) : Alike (.decimal first) (.decimal second)
  | boolean (first second : Bool) : Alike (.boolean first) (.boolean second)
  | dateTime (first second : Instant) : Alike (.dateTime first) (.dateTime second)
  | date (first second : Date) : Alike (.date first) (.date second)
  | record (target : Record) : Alike (.record target) (.record target)

abbrev Values.Alike : Values → Values → Prop :=
  List.Forall₂ fun entry other => entry.1 = other.1 ∧ Value.Alike entry.2 other.2

namespace Statement

/-! ## The grammar -/

/-- The texts for groups, administrators and looks, which are the same whatever is looked for. -/
def fixedTexts : List String :=
  ["SELECT <string> id AS id FROM type::table($tb) WHERE name = $name LIMIT 1;",
   "CREATE type::table($tb) SET name = $name;",
   "SELECT <string> id AS id FROM type::table($tb) WHERE is_superuser = true LIMIT 1;",
   "CREATE type::table($tb) SET username = $username, email = $email, " ++
     "password = crypto::argon2::generate($password), is_superuser = true, " ++
     "is_staff = true, is_active = true;",
   "SELECT <string> id AS id FROM type::table($tb) ORDER BY rand() LIMIT 1;"]

/-- What may stand behind a field's name for the value at a place. -/
inductive Operand (found : String → Prop) (place : Nat) : String → Prop
  | bound : Operand found place ("$" ++ parameterName place)
  | decimal : Operand found place ("<decimal> $" ++ parameterName place)
  | dateTime : Operand found place ("<datetime> $" ++ parameterName place)
  | record {record : Record} (hrecord : record.Plain) : Operand found place record.text
  | found {identity : String} (hfound : found identity) : Operand found place identity

def assignment (name operand : String) : String :=
  name ++ " = " ++ operand

/-- The texts of statements, where identities of some sort may have been found before. -/
inductive Worded (found : String → Prop) : String → Prop
  | fixed {text : String} (htext : text ∈ fixedTexts) : Worded found text
  | create {record : Record} (hrecord : record.Plain) :
      Worded found ("CREATE " ++ record.text ++ " RETURN NONE;")
  | createSet {record : Record} {settings : List (String × String)} (hrecord : record.Plain)
      (hsettings : settings ≠ []) (hnames : ∀ setting ∈ settings, Identifier.Plain setting.1)
      (hoperands : ∀ setting ∈ settings.zipIdx, Operand found setting.2 setting.1.2) :
      Worded found ("CREATE " ++ record.text ++ " SET " ++
        ", ".intercalate (settings.map fun setting => assignment setting.1 setting.2) ++
        " RETURN NONE;")
  | update {record : Record} {name : String} {targets : List Record} (hrecord : record.Plain)
      (hname : Identifier.Plain name) (htargets : targets ≠ [])
      (hplain : ∀ target ∈ targets, target.Plain) :
      Worded found ("UPDATE " ++ record.text ++ " SET " ++ name ++ " = [" ++
        ", ".intercalate (targets.map Record.text) ++ "] RETURN NONE;")

section

variable {found : String → Prop}

theorem worded_findGroup (table name : String) : Worded found (findGroup table name).text :=
  .fixed (.head _)

theorem worded_createGroup (table name : String) : Worded found (createGroup table name).text :=
  .fixed (.tail _ (.head _))

theorem worded_findAdmin (table : String) : Worded found (findAdmin table).text :=
  .fixed (.tail _ (.tail _ (.head _)))

theorem worded_createAdmin (account : Account) : Worded found (createAdmin account).text :=
  .fixed (.tail _ (.tail _ (.tail _ (.head _))))

theorem worded_findAny (table : String) : Worded found (findAny table).text :=
  .fixed (.tail _ (.tail _ (.tail _ (.tail _ (.head _)))))

/-! ## Instances -/

theorem expression_operand {place : Nat} {value : Value} {text : String}
    {bound : Option Parameter} (h : expression (parameterName place) value = .ok (text, bound))
    (hlink : ∀ target, value = .record target → Operand found place target.text) :
    Operand found place text := by
  cases value with
  | text content =>
      cases h
      exact .bound
  | integer number =>
      cases h
      exact .bound
  | boolean flag =>
      cases h
      exact .bound
  | decimal numeral =>
      cases h
      exact .decimal
  | dateTime instant =>
      obtain ⟨written, -, hwritten⟩ := Except.exists_of_bind_eq_ok h
      cases hwritten
      exact .dateTime
  | date day =>
      obtain ⟨written, -, hwritten⟩ := Except.exists_of_bind_eq_ok h
      cases hwritten
      exact .dateTime
  | record target =>
      cases h
      exact hlink target rfl

structure Writable (found : String → Prop) (values : Values) : Prop where
  names : ∀ name value, (name, value) ∈ values → Identifier.Plain name
  links : ∀ name target, (name, Value.record target) ∈ values →
    target.Plain ∨ found target.text

theorem Writable.tail {entry : String × Value} {values : Values}
    (h : Writable found (entry :: values)) : Writable found values where
  names := fun name value hentry => h.names name value (List.mem_cons_of_mem _ hentry)
  links := fun name target hentry => h.links name target (List.mem_cons_of_mem _ hentry)

theorem assignments_cons {place : Nat} {name : String} {value : Value} {values : Values}
    {texts : List String} {bindings : List (String × Parameter)}
    (h : assignments place ((name, value) :: values) = .ok (texts, bindings)) :
    ∃ text bound rest others, expression (parameterName place) value = .ok (text, bound) ∧
      assignments (place + 1) values = .ok (rest, others) ∧
      texts = assignment name text :: rest ∧
      bindings = (bound.map fun bound => (parameterName place, bound)).toList ++ others := by
  obtain ⟨⟨text, bound⟩, htext, h⟩ := Except.exists_of_bind_eq_ok h
  obtain ⟨⟨rest, others⟩, hrest, h⟩ := Except.exists_of_bind_eq_ok h
  cases h
  exact ⟨text, bound, rest, others, htext, hrest, rfl, rfl⟩

theorem assignments_settings {place : Nat} {values : Values} (hvalues : Writable found values)
    {texts : List String} {bindings : List (String × Parameter)}
    (h : assignments place values = .ok (texts, bindings)) :
    ∃ settings : List (String × String),
      texts = settings.map (fun setting => assignment setting.1 setting.2) ∧
        (∀ setting ∈ settings, Identifier.Plain setting.1) ∧
        ∀ setting ∈ settings.zipIdx place, Operand found setting.2 setting.1.2 := by
  induction values generalizing place texts bindings with
  | nil =>
      cases h
      exact ⟨[], rfl, nofun, nofun⟩
  | cons entry values ih =>
      obtain ⟨name, value⟩ := entry
      obtain ⟨text, bound, rest, others, htext, hrest, rfl, -⟩ := assignments_cons h
      obtain ⟨settings, rfl, hnames, hoperands⟩ := ih hvalues.tail hrest
      have hoperand : Operand found place text := by
        refine expression_operand htext ?_
        rintro target rfl
        rcases hvalues.links name target List.mem_cons_self with hplain | hfound
        · exact .record hplain
        · exact .found hfound
      refine ⟨(name, text) :: settings, rfl, ?_, ?_⟩
      · exact List.forall_mem_cons.2 ⟨hvalues.names name value List.mem_cons_self, hnames⟩
      · rw [List.zipIdx_cons]
        exact List.forall_mem_cons.2 ⟨hoperand, hoperands⟩

theorem createRecord_eq_ok {record : Record} {values : Values} {statement : Statement}
    (h : createRecord record values = .ok statement) :
    ∃ texts bindings, assignments 0 values = .ok (texts, bindings) ∧
      statement = ⟨"CREATE " ++ record.text ++ settingText texts ++ " RETURN NONE;", bindings⟩ := by
  obtain ⟨⟨texts, bindings⟩, htexts, h⟩ := Except.exists_of_bind_eq_ok h
  cases h
  exact ⟨texts, bindings, htexts, rfl⟩

theorem worded_createRecord {record : Record} (hrecord : record.Plain) {values : Values}
    (hvalues : Writable found values) {statement : Statement}
    (h : createRecord record values = .ok statement) : Worded found statement.text := by
  obtain ⟨texts, bindings, htexts, rfl⟩ := createRecord_eq_ok h
  obtain ⟨settings, rfl, hnames, hoperands⟩ := assignments_settings hvalues htexts
  cases settings with
  | nil =>
      have htext : "CREATE " ++ record.text ++ settingText [] ++ " RETURN NONE;" =
          "CREATE " ++ record.text ++ " RETURN NONE;" := by simp [settingText]
      exact htext ▸ .create hrecord
  | cons setting rest =>
      have hsettings : setting :: rest ≠ [] := List.cons_ne_nil _ _
      have hworded : Worded found _ := .createSet hrecord hsettings hnames hoperands
      simpa [settingText, String.append_assoc] using hworded

theorem worded_setLinks {record : Record} (hrecord : record.Plain) {name : String}
    (hname : Identifier.Plain name) {targets : List Record} (htargets : targets ≠ [])
    (hplain : ∀ target ∈ targets, target.Plain) :
    Worded found (setLinks record name targets).text :=
  .update hrecord hname htargets hplain

end

/-! ## Values that can be written -/

theorem exists_expression {value : Value} (h : value.Datable) (parameter : String) :
    ∃ expressed, expression parameter value = .ok expressed := by
  cases value with
  | dateTime instant =>
      obtain ⟨text, htext⟩ := Instant.exists_written h
      exact ⟨_, by rw [expression, htext]; rfl⟩
  | date day =>
      have hday : day.midnight.date.HasFourDigits := day.midnight_date.symm ▸ h
      obtain ⟨text, htext⟩ := Instant.exists_written hday
      exact ⟨_, by rw [expression, htext]; rfl⟩
  | _ => exact ⟨_, rfl⟩

theorem exists_assignments {values : Values} (h : ∀ entry ∈ values, entry.2.Datable) (place : Nat) :
    ∃ assigned, assignments place values = .ok assigned := by
  induction values generalizing place with
  | nil => exact ⟨_, rfl⟩
  | cons entry rest ih =>
      obtain ⟨name, value⟩ := entry
      rw [List.forall_mem_cons] at h
      obtain ⟨expressed, hexpressed⟩ := exists_expression h.1 (parameterName place)
      obtain ⟨assigned, hassigned⟩ := ih h.2 (place + 1)
      exact ⟨_, by rw [assignments, hexpressed, hassigned]; rfl⟩

theorem exists_createRecord (record : Record) {values : Values}
    (h : ∀ entry ∈ values, entry.2.Datable) :
    ∃ statement, createRecord record values = .ok statement := by
  obtain ⟨assigned, hassigned⟩ := exists_assignments h 0
  exact ⟨_, by rw [createRecord, hassigned]; rfl⟩

/-! ## Alike values -/

theorem expression_alike {parameter : String} {value other : Value} (h : value.Alike other)
    {text second : String} {bound given : Option Parameter}
    (hvalue : expression parameter value = .ok (text, bound))
    (hother : expression parameter other = .ok (second, given)) :
    text = second ∧ bound.isSome = given.isSome := by
  cases h with
  | dateTime _ _ | date _ _ =>
      obtain ⟨_, -, hwritten⟩ := Except.exists_of_bind_eq_ok hvalue
      obtain ⟨_, -, hsecond⟩ := Except.exists_of_bind_eq_ok hother
      cases hwritten
      cases hsecond
      exact ⟨rfl, rfl⟩
  | _ =>
      cases hvalue
      cases hother
      exact ⟨rfl, rfl⟩

theorem assignments_alike {place : Nat} {values others : Values} (h : Values.Alike values others)
    {texts second : List String} {bindings given : List (String × Parameter)}
    (hvalues : assignments place values = .ok (texts, bindings))
    (hothers : assignments place others = .ok (second, given)) :
    texts = second ∧ bindings.map Prod.fst = given.map Prod.fst := by
  induction h generalizing place texts second bindings given with
  | nil =>
      cases hvalues
      cases hothers
      exact ⟨rfl, rfl⟩
  | @cons entry other _ _ hentry _ ih =>
      obtain ⟨name, value⟩ := entry
      obtain ⟨_, content⟩ := other
      obtain ⟨rfl, halike⟩ := hentry
      obtain ⟨text, bound, rest, later, htext, hrest, rfl, rfl⟩ := assignments_cons hvalues
      obtain ⟨_, value, _, _, hsame, hlater, rfl, rfl⟩ := assignments_cons hothers
      obtain ⟨rfl, hbound⟩ := expression_alike halike htext hsame
      obtain ⟨rfl, hnames⟩ := ih hrest hlater
      refine ⟨rfl, ?_⟩
      rw [List.map_append, List.map_append, hnames]
      cases bound <;> cases value <;> first | rfl | cases hbound

/-- Alike values give the same text with the same parameters, whatever the contents are. -/
theorem createRecord_alike (record : Record) {values others : Values}
    (h : Values.Alike values others) {statement second : Statement}
    (hvalues : createRecord record values = .ok statement)
    (hothers : createRecord record others = .ok second) :
    statement.text = second.text ∧
      statement.bindings.map Prod.fst = second.bindings.map Prod.fst := by
  obtain ⟨texts, bindings, htexts, rfl⟩ := createRecord_eq_ok hvalues
  obtain ⟨_, given, hsame, rfl⟩ := createRecord_eq_ok hothers
  obtain ⟨rfl, hnames⟩ := assignments_alike h htexts hsame
  exact ⟨rfl, hnames⟩

end Statement

end SampleData
