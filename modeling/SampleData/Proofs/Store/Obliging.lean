import SampleData.Proofs.Store.Database
import SampleData.Proofs.Store.Wording

/-!
# Obliging servers

What a server replies to looks, to the creation of records and to links, told apart by the text
of the statements.  A server is obliging when it finds nothing, sets all links, and accepts the
creations that it is told to accept.
-/

namespace SampleData

inductive StatementKind where
  | look
  | creation
  | links
  | other
  deriving DecidableEq, Repr

namespace Statement

/-- What a statement is for, by the words at the ends of its text. -/
def kindOf (text : String) : StatementKind :=
  if text.startsWith "SELECT " then .look
  else if text.startsWith "UPDATE " then .links
  else if text.startsWith "CREATE " && text.endsWith " RETURN NONE;" then .creation
  else .other

def kind (statement : Statement) : StatementKind :=
  kindOf statement.text

theorem kind_findGroup (table name : String) : (findGroup table name).kind = .look := by
  have htext : kindOf (findGroup "" "").text = .look := by decide +kernel
  exact htext

theorem kind_createGroup (table name : String) : (createGroup table name).kind = .other := by
  have htext : kindOf (createGroup "" "").text = .other := by decide +kernel
  exact htext

theorem kind_findAdmin (table : String) : (findAdmin table).kind = .look := by
  have htext : kindOf (findAdmin "").text = .look := by decide +kernel
  exact htext

theorem kind_createAdmin (account : Account) : (createAdmin account).kind = .other := by
  have htext : kindOf (createAdmin default).text = .other := by decide +kernel
  exact htext

theorem kind_findAny (table : String) : (findAny table).kind = .look := by
  have htext : kindOf (findAny "").text = .look := by decide +kernel
  exact htext

theorem kind_setLinks (record : Record) (name : String) (targets : List Record) :
    (setLinks record name targets).kind = .links := by
  simp [kind, kindOf, setLinks, String.startsWith_string_iff, String.toList_append]

theorem kind_createRecord {record : Record} {values : Values} {statement : Statement}
    (h : createRecord record values = .ok statement) : statement.kind = .creation := by
  obtain ⟨texts, bindings, -, rfl⟩ := createRecord_eq_ok h
  have hend : ("CREATE " ++ record.text ++ settingText texts ++ " RETURN NONE;").endsWith
      " RETURN NONE;" = true := by
    rw [String.endsWith_eq_endsWith_toSlice, String.Slice.endsWith_string_iff, String.copy_toSlice,
      String.toList_append]
    exact List.suffix_append _ _
  simp [kind, kindOf, hend, String.startsWith_string_iff, String.toList_append]

end Statement

def Run.sent {δ : Type} (run : Run (Session δ)) : List (Request × Reply) :=
  run.store.exchanges.reverse

namespace Reply

def isAnswered : Reply → Bool
  | answered _ => true
  | _ => false

theorem executed_of_answered {reply : Reply} (h : reply.isAnswered = true) (task : Option Task) :
    Database.executed task reply = .ok () := by
  cases reply with
  | answered identity => rfl
  | _ => cases h

theorem executed_of_not_answered {reply : Reply} (h : reply.isAnswered = false)
    (task : Option Task) : ∃ failure, Database.executed task reply = .error failure := by
  cases reply with
  | refused text => exact ⟨_, rfl⟩
  | rejected text => cases task <;> exact ⟨_, rfl⟩
  | answered identity => cases h

end Reply

namespace Database

/-! ## Exchanges by kind -/

def repliesTo (kind : StatementKind) (exchanges : List (Request × Reply)) : List Reply :=
  exchanges.filterMap fun
    | (.query statement, reply) => if statement.kind = kind then some reply else none
    | _ => none

def carriedOut (kind : StatementKind) (exchanges : List (Request × Reply)) : List Statement :=
  exchanges.filterMap fun
    | (.query statement, .answered _) => if statement.kind = kind then some statement else none
    | _ => none

variable {kind : StatementKind}

theorem repliesTo_append (first second : List (Request × Reply)) :
    repliesTo kind (first ++ second) = repliesTo kind first ++ repliesTo kind second :=
  List.filterMap_append

theorem carriedOut_append (first second : List (Request × Reply)) :
    carriedOut kind (first ++ second) = carriedOut kind first ++ carriedOut kind second :=
  List.filterMap_append

theorem repliesTo_reverse (exchanges : List (Request × Reply)) :
    repliesTo kind exchanges.reverse = (repliesTo kind exchanges).reverse :=
  List.filterMap_reverse

theorem carriedOut_reverse (exchanges : List (Request × Reply)) :
    carriedOut kind exchanges.reverse = (carriedOut kind exchanges).reverse :=
  List.filterMap_reverse

theorem repliesTo_query {statement : Statement} (hkind : statement.kind = kind) (reply : Reply)
    (exchanges : List (Request × Reply)) :
    repliesTo kind ((.query statement, reply) :: exchanges) = reply :: repliesTo kind exchanges :=
  List.filterMap_cons_some (if_pos hkind)

theorem repliesTo_query_ne {statement : Statement} (hkind : statement.kind ≠ kind) (reply : Reply)
    (exchanges : List (Request × Reply)) :
    repliesTo kind ((.query statement, reply) :: exchanges) = repliesTo kind exchanges :=
  List.filterMap_cons_none (if_neg hkind)

theorem carriedOut_query {statement : Statement} (hkind : statement.kind = kind) {reply : Reply}
    (hreply : reply.isAnswered = true) (exchanges : List (Request × Reply)) :
    carriedOut kind ((.query statement, reply) :: exchanges) =
      statement :: carriedOut kind exchanges := by
  cases reply with
  | answered identity => exact List.filterMap_cons_some (if_pos hkind)
  | _ => cases hreply

theorem carriedOut_query_of_not {statement : Statement} {reply : Reply}
    (h : ¬ (statement.kind = kind ∧ reply.isAnswered = true)) (exchanges : List (Request × Reply)) :
    carriedOut kind ((.query statement, reply) :: exchanges) = carriedOut kind exchanges := by
  cases reply with
  | answered identity => exact List.filterMap_cons_none (if_neg fun hkind => h ⟨hkind, rfl⟩)
  | _ => exact List.filterMap_cons_none rfl

theorem repliesTo_eq_nil {sent : List (Request × Reply)}
    (h : ∀ exchange ∈ sent, ∀ statement, exchange.1 = .query statement → statement.kind ≠ kind) :
    repliesTo kind sent = [] := by
  refine List.filterMap_eq_nil_iff.2 ?_
  rintro ⟨request, reply⟩ hmem
  cases request with
  | query statement => exact if_neg (h _ hmem statement rfl)
  | _ => rfl

theorem carriedOut_eq_nil {sent : List (Request × Reply)}
    (h : ∀ exchange ∈ sent, ∀ statement, exchange.1 = .query statement → statement.kind ≠ kind) :
    carriedOut kind sent = [] := by
  refine List.filterMap_eq_nil_iff.2 ?_
  rintro ⟨request, reply⟩ hmem
  cases request with
  | query statement =>
      cases reply with
      | answered identity => exact if_neg (h _ hmem statement rfl)
      | _ => rfl
  | _ => rfl

/-- Exchanges in which no record is created and no links are set. -/
def Idle (sent : List (Request × Reply)) : Prop :=
  ∀ exchange ∈ sent, ∀ statement, exchange.1 = .query statement →
    statement.kind ≠ .creation ∧ statement.kind ≠ .links

theorem idle_of_look {statement : Statement} (hkind : statement.kind = .look) (reply : Reply) :
    Idle [(.query statement, reply)] := by
  intro exchange hmem other hother
  obtain rfl := List.mem_singleton.1 hmem
  cases hother
  simp [hkind]

theorem idle_kept {δ : Type} (server : Server δ) :
    KeptByBootstrap (store server) fun session _ => Idle session.exchanges := by
  have hensured : ∀ {look create : Statement} {task : Task} {session : Session δ},
      look.kind = .look → create.kind = .other → Idle session.exchanges →
        Idle (ensure server look create task session).2.exchanges := by
    intro look create task session hlook hcreate h
    obtain ⟨sent, hsent, hexchanges⟩ := ensure_sent server look create task session
    rw [hexchanges]
    intro exchange hmem statement hquery
    rcases List.mem_append.1 hmem with hnew | hold
    · rcases hsent.request_eq hnew with hrequest | hrequest
      · cases hquery.symm.trans hrequest
        simp [hlook]
      · cases hquery.symm.trans hrequest
        simp [hcreate]
    · exact h exchange hold statement hquery
  refine ⟨fun _ _ h => h, fun table name h => ?_, fun account h => ?_⟩
  · exact hensured (Statement.kind_findGroup table name) (Statement.kind_createGroup table name) h
  · exact hensured (Statement.kind_findAdmin account.table) (Statement.kind_createAdmin account) h

/--
Replies as a server gives them that finds nothing, sets all links, and creates the records that
it is told to.
-/
structure Obliging (verdicts : List Bool) (exchanges : List (Request × Reply)) : Prop where
  looks : ∀ reply ∈ repliesTo .look exchanges, reply = .answered none
  creations : ∀ pair ∈ (repliesTo .creation exchanges).zip verdicts, pair.1.isAnswered = pair.2
  links : ∀ reply ∈ repliesTo .links exchanges, reply.isAnswered = true

theorem mem_repliesTo {exchanges : List (Request × Reply)} {statement : Statement} {reply : Reply}
    (h : (.query statement, reply) ∈ exchanges) (hkind : statement.kind = kind) :
    reply ∈ repliesTo kind exchanges :=
  List.mem_filterMap.2 ⟨_, h, if_pos hkind⟩

namespace Obliging

variable {verdicts : List Bool} {exchanges past : List (Request × Reply)} {statement : Statement}
  {reply : Reply}

theorem look (h : Obliging verdicts exchanges.reverse)
    (hpast : (.query statement, reply) :: past <:+ exchanges) (hkind : statement.kind = .look) :
    reply = .answered none :=
  h.looks reply (mem_repliesTo (List.mem_reverse.2 (hpast.subset List.mem_cons_self)) hkind)

theorem link (h : Obliging verdicts exchanges.reverse)
    (hpast : (.query statement, reply) :: past <:+ exchanges) (hkind : statement.kind = .links) :
    reply.isAnswered = true :=
  h.links reply (mem_repliesTo (List.mem_reverse.2 (hpast.subset List.mem_cons_self)) hkind)

/-- A creation is accepted if the verdict in its place says so. -/
theorem creation (h : Obliging verdicts exchanges.reverse)
    (hpast : (.query statement, reply) :: past <:+ exchanges) (hkind : statement.kind = .creation)
    {before after : List Bool} {verdict : Bool} (hverdicts : verdicts = before ++ verdict :: after)
    (hlength : (repliesTo .creation past).length = before.length) :
    reply.isAnswered = verdict := by
  obtain ⟨later, rfl⟩ := hpast
  refine h.creations (reply, verdict) ?_
  have hreplies : repliesTo .creation (later ++ (.query statement, reply) :: past).reverse =
      repliesTo .creation past.reverse ++ reply :: repliesTo .creation later.reverse := by
    rw [List.reverse_append, List.reverse_cons, List.append_assoc, List.singleton_append,
      repliesTo_append, repliesTo_query hkind]
  have hplaces : (repliesTo .creation past.reverse).length = before.length := by
    rw [repliesTo_reverse, List.length_reverse, hlength]
  rw [hreplies, hverdicts, List.zip_append hplaces, List.zip_cons_cons]
  exact List.mem_append_right _ List.mem_cons_self

end Obliging

end Database

end SampleData
