import SampleData.Proofs.Calendar.Written
import SampleData.Proofs.Store.Wording

/-!
# Creations read back

The statement that creates a record keeps the record and its values: the text names each
parameter once, and text and bindings together tell the record, the names and the values apart,
but for a date, which is bound like the instant at its midnight.
-/

namespace SampleData

open Calendar

/-- A record whose text can be told from what stands behind it: its table is an identifier, and its
key, as any of letters and digits, holds no blank, comma or dollar sign. -/
def Record.Separable (record : Record) : Prop :=
  Identifier.Plain record.table ∧ ∀ c ∈ record.key.toList, c ≠ ' ' ∧ c ≠ ',' ∧ c ≠ '$'

instance : DecidablePred Record.Separable := fun _ => inferInstanceAs (Decidable (_ ∧ _))

namespace Value

def InCalendar : Value → Prop
  | .dateTime instant =>
      instant.nanos < secondNanos ∧ firstYear ≤ instant.date.year ∧ instant.date.year ≤ lastYear
  | .date day => firstYear ≤ day.year ∧ day.year ≤ lastYear
  | _ => True

instance : DecidablePred InCalendar
  | .dateTime _ => inferInstanceAs (Decidable (_ ∧ _ ∧ _))
  | .date _ => inferInstanceAs (Decidable (_ ∧ _))
  | .text _ | .integer _ | .decimal _ | .boolean _ | .record _ => isTrue trivial

def IsBeforeYearZero : Value → Prop
  | .dateTime instant => instant.date.year < 0
  | .date day => day.year < 0
  | _ => False

inductive Carries : Value → Parameter → Prop
  | text (content : String) : Carries (.text content) (.text content)
  | integer (number : Int) : Carries (.integer number) (.integer number)
  | boolean (flag : Bool) : Carries (.boolean flag) (.boolean flag)
  | decimal (numeral : String) : Carries (.decimal numeral) (.text numeral)
  | dateTime {instant : Instant} {text : String} (h : instant.written = .ok text) :
      Carries (.dateTime instant) (.text text)
  | date {day : Date} {text : String} (h : day.midnight.written = .ok text) :
      Carries (.date day) (.text text)

/-- The same value, or a date and the instant at its midnight. -/
inductive Same : Value → Value → Prop
  | refl (value : Value) : Same value value
  | toMidnight (day : Date) : Same (.date day) (.dateTime day.midnight)
  | ofMidnight (day : Date) : Same (.dateTime day.midnight) (.date day)

def cast : Value → String
  | .decimal _ => "<decimal> "
  | .dateTime _ | .date _ => "<datetime> "
  | _ => ""

theorem datable_iff {value : Value} (h : value.InCalendar) :
    value.Datable ↔ ¬ value.IsBeforeYearZero := by
  cases value with
  | dateTime instant =>
      simp only [Datable, IsBeforeYearZero, Date.HasFourDigits]
      exact ⟨fun hyear => Int.not_lt.2 hyear.1, fun hyear => ⟨Int.not_lt.1 hyear, h.2.2⟩⟩
  | date day =>
      simp only [Datable, IsBeforeYearZero, Date.HasFourDigits]
      exact ⟨fun hyear => Int.not_lt.2 hyear.1, fun hyear => ⟨Int.not_lt.1 hyear, h.2⟩⟩
  | _ => simp [Datable, IsBeforeYearZero]

theorem Carries.datable {value : Value} {parameter : Parameter} (h : value.Carries parameter) :
    value.Datable := by
  cases h with
  | dateTime hwritten => exact (Instant.written_eq_ok_iff.1 hwritten).1
  | @date day _ hwritten => exact day.midnight_date ▸ (Instant.written_eq_ok_iff.1 hwritten).1
  | _ => trivial

/-- What is bound for a value and what stands before its parameter tell the value. -/
theorem Carries.same {value other : Value} (hvalue : value.InCalendar) (hother : other.InCalendar)
    {parameter : Parameter} (h : value.Carries parameter) (h' : other.Carries parameter)
    (hcast : value.cast = other.cast) : value.Same other := by
  have hnanos : ∀ day : Date, day.midnight.nanos < secondNanos := fun day => by
    change 0 < secondNanos
    decide
  cases h with
  | integer number | boolean flag =>
      cases h'
      exact .refl _
  | text content | decimal numeral =>
      cases h' with
      | text | decimal => first | exact .refl _ | simp [cast] at hcast
      | dateTime | date => simp [cast] at hcast
  | @dateTime instant _ hwritten =>
      cases h' with
      | @dateTime given _ hgiven =>
          obtain rfl := Instant.eq_of_written hvalue.1 hother.1 hwritten hgiven
          exact .refl _
      | @date day _ hday =>
          obtain rfl := Instant.eq_of_written hvalue.1 (hnanos day) hwritten hday
          exact .ofMidnight day
      | _ => simp [cast] at hcast
  | @date day _ hwritten =>
      cases h' with
      | @dateTime given _ hgiven =>
          obtain rfl := Instant.eq_of_written (hnanos day) hother.1 hwritten hgiven
          exact .toMidnight day
      | @date another _ hday =>
          obtain rfl := Date.midnight_inj
            (Instant.eq_of_written (hnanos day) (hnanos another) hwritten hday)
          exact .refl _
      | _ => simp [cast] at hcast

end Value

abbrev Values.Same : Values → Values → Prop :=
  List.Forall₂ fun entry other => entry.1 = other.1 ∧ Value.Same entry.2 other.2

namespace Statement

/-! ## Placeholders -/

/-- The names behind the dollar signs of a text, each read as far as an identifier goes. -/
def placeholders : List Char → List String
  | [] => []
  | c :: rest =>
      if c = '$' then String.ofList (rest.takeWhile Identifier.isRest) :: placeholders rest
      else placeholders rest

theorem placeholders_append {front : List Char} (h : '$' ∉ front) (text : List Char) :
    placeholders (front ++ text) = placeholders text := by
  induction front with
  | nil => rfl
  | cons c front ih =>
      simp only [List.mem_cons, not_or] at h
      have hc : c ≠ '$' := fun hc => h.1 hc.symm
      simp [placeholders, hc, ih h.2]

/-- A name behind a dollar sign ends where no identifier can go on. -/
theorem placeholders_name {name : List Char} (hname : ∀ c ∈ name, Identifier.isRest c = true)
    {mark : Char} (hmark : Identifier.isRest mark = false) (text : List Char) :
    placeholders ('$' :: (name ++ mark :: text)) =
      String.ofList name :: placeholders (mark :: text) := by
  have hdollar : '$' ∉ name := fun hmem => by
    have hrest := hname _ hmem
    exact absurd hrest (by decide)
  have htake : (name ++ mark :: text).takeWhile Identifier.isRest = name := by
    rw [List.takeWhile_append_of_pos hname, List.takeWhile_cons_of_neg (by simp [hmark]),
      List.append_nil]
  rw [placeholders, if_pos rfl, htake, placeholders_append hdollar]

theorem toList_parameterName (place : Nat) :
    (parameterName place).toList = 'v' :: Nat.toDigits 10 place := by
  change ("v" ++ place.repr).toList = _
  rw [String.toList_append, Nat.toList_repr]
  rfl

theorem parameterName_inj {place other : Nat} (h : parameterName place = parameterName other) :
    place = other :=
  Text.eq_of_toString_eq ((String.append_right_inj "v").1 h)

theorem isRest_of_mem_parameterName {place : Nat} {c : Char}
    (h : c ∈ (parameterName place).toList) : Identifier.isRest c = true := by
  rw [toList_parameterName] at h
  rcases List.mem_cons.1 h with rfl | hdigit
  · decide
  · have hplain : c.isDigit = true := Nat.isDigit_of_mem_toDigits (by decide) (by decide) hdigit
    have htest : Text.isPlainDigit c = true := by
      simp only [Char.isDigit, Bool.and_eq_true, decide_eq_true_eq] at hplain
      simp only [Text.isPlainDigit, Bool.and_eq_true, decide_eq_true_eq]
      exact hplain
    simp [Identifier.isRest, htest]

/-! ## Where a text goes on -/

theorem cut_inj {isMark : Char → Bool} {front other back text : List Char} {mark second : Char}
    (hfront : ∀ c ∈ front, isMark c = false) (hother : ∀ c ∈ other, isMark c = false)
    (hmark : isMark mark = true) (hsecond : isMark second = true)
    (h : front ++ mark :: back = other ++ second :: text) :
    front = other ∧ mark :: back = second :: text := by
  have htake : ∀ {part rest : List Char} {c : Char}, (∀ d ∈ part, isMark d = false) →
      isMark c = true → (part ++ c :: rest).takeWhile (fun d => !isMark d) = part := by
    intro part rest c hpart hc
    rw [List.takeWhile_append_of_pos (by simpa using hpart),
      List.takeWhile_cons_of_neg (by simp [hc]), List.append_nil]
  have hsame : front = other := by
    rw [← htake hfront hmark, h, htake hother hsecond]
  subst hsame
  exact ⟨rfl, List.append_cancel_left h⟩

/-- What may stand right behind an operand or a record. -/
def isBreak (c : Char) : Bool :=
  c == ' ' || c == ','

/-- The end of a creation from behind an assignment on, with the assignments that follow. -/
def closing : List String → List Char
  | [] => ' ' :: "RETURN NONE;".toList
  | text :: texts => ',' :: ' ' :: (text.toList ++ closing texts)

def ending : List String → List Char
  | [] => "RETURN NONE;".toList
  | text :: texts => "SET ".toList ++ (text.toList ++ closing texts)

theorem closing_nil : closing [] = ' ' :: "RETURN NONE;".toList := rfl

theorem closing_cons (text : String) (texts : List String) :
    closing (text :: texts) = ',' :: ' ' :: (text.toList ++ closing texts) := rfl

theorem ending_nil : ending [] = "RETURN NONE;".toList := rfl

theorem ending_cons (text : String) (texts : List String) :
    ending (text :: texts) = "SET ".toList ++ (text.toList ++ closing texts) := rfl

theorem closing_eq_cons (texts : List String) :
    ∃ mark rest, closing texts = mark :: rest ∧ isBreak mark = true := by
  cases texts with
  | nil => exact ⟨' ', _, rfl, rfl⟩
  | cons text texts => exact ⟨',', _, rfl, rfl⟩

theorem toList_intercalate_closing (text : String) (texts : List String) :
    (", ".intercalate (text :: texts)).toList ++ ' ' :: "RETURN NONE;".toList =
      text.toList ++ closing texts := by
  induction texts generalizing text with
  | nil => rw [String.intercalate_singleton, closing_nil]
  | cons second rest ih =>
      rw [String.intercalate_cons_cons, String.toList_append, String.toList_append,
        List.append_assoc, ih second, closing_cons]
      simp

theorem toList_createRecord (record : Record) (texts : List String) :
    ("CREATE " ++ record.text ++ settingText texts ++ " RETURN NONE;").toList =
      "CREATE ".toList ++ (record.text.toList ++ ' ' :: ending texts) := by
  have hend : " RETURN NONE;".toList = ' ' :: "RETURN NONE;".toList := by simp
  have hset : " SET ".toList = ' ' :: "SET ".toList := by simp
  cases texts with
  | nil =>
      have hempty : (settingText []).toList = [] := rfl
      rw [String.toList_append, String.toList_append, String.toList_append, hend, hempty, ending_nil,
        List.append_nil, List.append_assoc]
  | cons text texts =>
      have hsetting : (settingText (text :: texts)).toList =
          " SET ".toList ++ (", ".intercalate (text :: texts)).toList := String.toList_append
      rw [String.toList_append, String.toList_append, String.toList_append, hend, hsetting, hset,
        ending_cons, ← toList_intercalate_closing]
      simp only [List.append_assoc, List.cons_append]

theorem record_inj {record other : Record} (hrecord : record.Separable) (hother : other.Separable)
    {mark second : Char} {rest text : List Char} (hmark : isBreak mark = true)
    (hsecond : isBreak second = true)
    (h : record.text.toList ++ mark :: rest = other.text.toList ++ second :: text) :
    record = other ∧ mark :: rest = second :: text := by
  let isColon (c : Char) : Bool := c == ':'
  have hcolon : ∀ {name : String}, Identifier.Plain name → ∀ c ∈ name.toList, isColon c = false := by
    intro name hname c hc
    have hrest := Identifier.isRest_of_mem (Identifier.test_iff_plain.2 hname) hc
    cases heq : isColon c with
    | false => rfl
    | true =>
        rw [eq_of_beq heq] at hrest
        exact absurd hrest (by decide)
  have hbreak : ∀ {named : Record}, named.Separable → ∀ c ∈ named.key.toList, isBreak c = false := by
    intro named hnamed c hc
    obtain ⟨hblank, hcomma, -⟩ := hnamed.2 c hc
    simp [isBreak, hblank, hcomma]
  rw [Record.toList_text, Record.toList_text, List.append_assoc, List.append_assoc,
    List.cons_append, List.cons_append] at h
  obtain ⟨htable, hkey⟩ := cut_inj (hcolon hrecord.1) (hcolon hother.1) rfl rfl h
  obtain ⟨hkey, hrest⟩ := cut_inj (hbreak hrecord) (hbreak hother) hmark hsecond
    (List.cons.inj hkey).2
  refine ⟨?_, hrest⟩
  cases record
  cases other
  simp only [String.toList_inj] at htable hkey
  rw [htable, hkey]

/-! ## Operands -/

/-- A link stands in the text as it is, and any other value as a parameter that carries it. -/
theorem expression_cases {place : Nat} {value : Value} {text : String} {bound : Option Parameter}
    (h : expression (parameterName place) value = .ok (text, bound)) :
    (∃ target, value = .record target ∧ text = target.text ∧ bound = none) ∨
      ∃ parameter, value.Carries parameter ∧ bound = some parameter ∧
        text.toList = value.cast.toList ++ '$' :: (parameterName place).toList := by
  cases value with
  | record target =>
      cases h
      exact Or.inl ⟨target, rfl, rfl, rfl⟩
  | text content =>
      cases h
      exact Or.inr ⟨_, .text content, rfl, by simp [Value.cast]⟩
  | integer number =>
      cases h
      exact Or.inr ⟨_, .integer number, rfl, by simp [Value.cast]⟩
  | boolean flag =>
      cases h
      exact Or.inr ⟨_, .boolean flag, rfl, by simp [Value.cast]⟩
  | decimal numeral =>
      cases h
      exact Or.inr ⟨_, .decimal numeral, rfl, by simp [Value.cast]⟩
  | dateTime instant =>
      obtain ⟨written, hwritten, h⟩ := Except.exists_of_bind_eq_ok h
      cases h
      exact Or.inr ⟨_, .dateTime hwritten, rfl, by simp [Value.cast]⟩
  | date day =>
      obtain ⟨written, hwritten, h⟩ := Except.exists_of_bind_eq_ok h
      cases h
      exact Or.inr ⟨_, .date hwritten, rfl, by simp [Value.cast]⟩

def Readable : Value → Prop
  | .record target => target.Separable
  | value => value.InCalendar

theorem Readable.inCalendar {value : Value} (h : Readable value) : value.InCalendar := by
  cases value with
  | record target => trivial
  | _ => exact h

theorem dollar_not_mem_cast (value : Value) : ∀ c ∈ value.cast.toList, (c == '$') = false := by
  cases value <;> simp [Value.cast]

/-- An identifier does not start like a parameter, with or without a cast. -/
theorem cast_ne_identifier {name : String} (hname : Identifier.Plain name) (value : Value)
    (rest text : List Char) :
    name.toList ++ rest ≠ value.cast.toList ++ '$' :: text := by
  intro h
  obtain ⟨first, others, hlist, hfirst, -⟩ := hname
  have hstart : Identifier.isStart first = true := Identifier.isStart_iff.2 hfirst
  rw [hlist] at h
  cases value <;> simp [Value.cast] at h <;> rw [h.1] at hstart <;> exact absurd hstart (by decide)

/-- What follows an operand is told from it, and so is its value by what is bound for it. -/
theorem expression_inj {place : Nat} {value other : Value} (hvalue : Readable value)
    (hother : Readable other) {text second : String} {bound given : Option Parameter}
    (h : expression (parameterName place) value = .ok (text, bound))
    (h' : expression (parameterName place) other = .ok (second, given))
    {texts others : List String}
    (hsame : text.toList ++ closing texts = second.toList ++ closing others) :
    bound.isSome = given.isSome ∧ (bound = given → value.Same other) ∧
      closing texts = closing others := by
  obtain ⟨mark, rest, hclosing, hmark⟩ := closing_eq_cons texts
  obtain ⟨another, later, hclosing', hanother⟩ := closing_eq_cons others
  rcases expression_cases h with ⟨target, rfl, rfl, rfl⟩ | ⟨parameter, hcarries, rfl, htext⟩
  · rcases expression_cases h' with ⟨link, rfl, rfl, rfl⟩ | ⟨parameter, -, rfl, hsecond⟩
    · rw [hclosing, hclosing'] at hsame
      obtain ⟨rfl, hrest⟩ := record_inj hvalue hother hmark hanother hsame
      exact ⟨rfl, fun _ => .refl _, by rw [hclosing, hclosing', hrest]⟩
    · rw [hsecond, Record.toList_text, List.append_assoc, List.append_assoc] at hsame
      exact absurd hsame (cast_ne_identifier hvalue.1 other _ _)
  · rcases expression_cases h' with ⟨link, rfl, rfl, rfl⟩ | ⟨_, hgiven, rfl, hsecond⟩
    · rw [htext, Record.toList_text, List.append_assoc, List.append_assoc] at hsame
      exact absurd hsame.symm (cast_ne_identifier hother.1 value _ _)
    · rw [htext, hsecond, List.append_assoc, List.append_assoc, List.cons_append,
        List.cons_append] at hsame
      obtain ⟨hcast, hrest⟩ := cut_inj (dollar_not_mem_cast value) (dollar_not_mem_cast other)
        rfl rfl hsame
      refine ⟨rfl, fun hbound => ?_, List.append_cancel_left (List.cons.inj hrest).2⟩
      cases hbound
      exact hcarries.same hvalue.inCalendar hother.inCalendar hgiven (String.toList_inj.1 hcast)

/-! ## Assignments -/

def AllReadable (values : Values) : Prop :=
  ∀ entry ∈ values, Identifier.Plain entry.1 ∧ Readable entry.2

theorem assignment_inj {place : Nat} {name field : String} {value other : Value}
    (hname : Identifier.Plain name) (hfield : Identifier.Plain field) (hvalue : Readable value)
    (hother : Readable other) {text second : String} {bound given : Option Parameter}
    (h : expression (parameterName place) value = .ok (text, bound))
    (h' : expression (parameterName place) other = .ok (second, given))
    {texts others : List String}
    (hsame : (assignment name text).toList ++ closing texts =
      (assignment field second).toList ++ closing others) :
    name = field ∧ bound.isSome = given.isSome ∧ (bound = given → value.Same other) ∧
      closing texts = closing others := by
  have hblank : ∀ {plain : String}, Identifier.Plain plain → ∀ c ∈ plain.toList,
      (c == ' ') = false := by
    intro plain hplain c hc
    have hrest := Identifier.isRest_of_mem (Identifier.test_iff_plain.2 hplain) hc
    cases heq : c == ' ' with
    | false => rfl
    | true =>
        rw [eq_of_beq heq] at hrest
        exact absurd hrest (by decide)
  have hshape : ∀ (plain operand : String) (rest : List Char),
      (assignment plain operand).toList ++ rest =
        plain.toList ++ ' ' :: ('=' :: ' ' :: (operand.toList ++ rest)) := by
    intro plain operand rest
    simp [assignment]
  rw [hshape, hshape] at hsame
  obtain ⟨hnames, hrest⟩ := cut_inj (hblank hname) (hblank hfield) rfl rfl hsame
  simp only [List.cons.injEq, true_and] at hrest
  exact ⟨String.toList_inj.1 hnames, expression_inj hvalue hother h h' hrest⟩

/-- Values are told by the texts of their assignments and by what is bound for them. -/
theorem assignments_inj {place : Nat} {values others : Values} (hvalues : AllReadable values)
    (hothers : AllReadable others) {texts seconds : List String}
    {bindings : List (String × Parameter)}
    (h : assignments place values = .ok (texts, bindings))
    (h' : assignments place others = .ok (seconds, bindings))
    (hsame : closing texts = closing seconds) : values.Same others := by
  induction values generalizing place others texts seconds bindings with
  | nil =>
      cases others with
      | nil => exact .nil
      | cons other others =>
          obtain ⟨_, _, _, _, -, -, rfl, -⟩ := assignments_cons h'
          cases h
          simp [closing_nil, closing_cons] at hsame
  | cons entry values ih =>
      obtain ⟨name, value⟩ := entry
      obtain ⟨text, bound, rest, later, htext, hrest, rfl, hbound⟩ := assignments_cons h
      cases others with
      | nil =>
          cases h'
          simp [closing_nil, closing_cons] at hsame
      | cons other others =>
          obtain ⟨field, another⟩ := other
          obtain ⟨second, given, _, _, hsecond, hrest', rfl, hgiven⟩ := assignments_cons h'
          have hbindings := hbound.symm.trans hgiven
          obtain ⟨⟨hname, hvalue⟩, hvalues⟩ := List.forall_mem_cons.1 hvalues
          obtain ⟨⟨hfield, hother⟩, hothers⟩ := List.forall_mem_cons.1 hothers
          simp only [closing_cons, List.cons.injEq, true_and] at hsame
          obtain ⟨hnames, hsome, hsameValue, hclosing⟩ := assignment_inj hname hfield hvalue hother
            htext hsecond hsame
          -- the texts tell links from parameters, so both values are bound or neither is
          cases bound with
          | none =>
              cases given with
              | some _ => cases hsome
              | none =>
                  obtain rfl := hbindings
                  exact .cons ⟨hnames, hsameValue rfl⟩ (ih hvalues hothers hrest hrest' hclosing)
          | some parameter =>
              cases given with
              | none => cases hsome
              | some _ =>
                  simp only [Option.map_some, Option.toList_some, List.singleton_append,
                    List.cons.injEq, Prod.mk.injEq, true_and] at hbindings
                  obtain ⟨rfl, rfl⟩ := hbindings
                  exact .cons ⟨hnames, hsameValue rfl⟩ (ih hvalues hothers hrest hrest' hclosing)

/-- Each binding is named for the place of its value, counted from the first. -/
theorem exists_place_of_mem_bindings {place : Nat} {values : Values} {texts : List String}
    {bindings : List (String × Parameter)} (h : assignments place values = .ok (texts, bindings))
    {name : String} (hname : name ∈ bindings.map Prod.fst) :
    ∃ later, place ≤ later ∧ name = parameterName later := by
  induction values generalizing place texts bindings with
  | nil =>
      cases h
      cases hname
  | cons entry values ih =>
      obtain ⟨field, value⟩ := entry
      obtain ⟨text, bound, rest, later, -, hrest, rfl, rfl⟩ := assignments_cons h
      rw [List.map_append] at hname
      rcases List.mem_append.1 hname with hfirst | hlater
      · cases bound with
        | none => cases hfirst
        | some parameter => exact ⟨place, Nat.le_refl _, List.mem_singleton.1 hfirst⟩
      · obtain ⟨after, hafter, heq⟩ := ih hrest hlater
        exact ⟨after, Nat.le_of_succ_le hafter, heq⟩

theorem nodup_bindings {place : Nat} {values : Values} {texts : List String}
    {bindings : List (String × Parameter)} (h : assignments place values = .ok (texts, bindings)) :
    (bindings.map Prod.fst).Nodup := by
  induction values generalizing place texts bindings with
  | nil =>
      cases h
      exact List.nodup_nil
  | cons entry values ih =>
      obtain ⟨field, value⟩ := entry
      obtain ⟨text, bound, rest, later, -, hrest, rfl, rfl⟩ := assignments_cons h
      cases bound with
      | none => exact ih hrest
      | some parameter =>
          refine List.nodup_cons.2 ⟨fun hmem => ?_, ih hrest⟩
          obtain ⟨after, hafter, heq⟩ := exists_place_of_mem_bindings hrest hmem
          have hplace := parameterName_inj heq
          omega

theorem bound_of_getElem? {start : Nat} {values : Values} {texts : List String}
    {bindings : List (String × Parameter)} (h : assignments start values = .ok (texts, bindings))
    {place : Nat} {name : String} {value : Value} (hvalue : values[place]? = some (name, value)) :
    (∃ target, value = .record target) ∨
      ∃ parameter, value.Carries parameter ∧
        (parameterName (start + place), parameter) ∈ bindings := by
  induction values generalizing start texts bindings place with
  | nil => cases hvalue
  | cons entry values ih =>
      obtain ⟨field, first⟩ := entry
      obtain ⟨text, bound, rest, later, htext, hrest, rfl, rfl⟩ := assignments_cons h
      cases place with
      | zero =>
          cases hvalue
          rcases expression_cases htext with ⟨target, rfl, -, -⟩ | ⟨parameter, hcarries, rfl, -⟩
          · exact Or.inl ⟨target, rfl⟩
          · exact Or.inr ⟨parameter, hcarries, List.mem_append_left _ List.mem_cons_self⟩
      | succ place =>
          rcases ih hrest hvalue with hlink | ⟨parameter, hcarries, hmem⟩
          · exact Or.inl hlink
          · refine Or.inr ⟨parameter, hcarries, List.mem_append_right _ ?_⟩
            rwa [Nat.add_right_comm] at hmem

theorem datable_of_assignments {place : Nat} {values : Values}
    {assigned : List String × List (String × Parameter)}
    (h : assignments place values = .ok assigned) : ∀ entry ∈ values, entry.2.Datable := by
  rintro ⟨name, value⟩ hentry
  obtain ⟨index, hindex⟩ := List.getElem?_of_mem hentry
  rcases bound_of_getElem? h hindex with ⟨target, rfl⟩ | ⟨_, hcarries, -⟩
  · trivial
  · exact hcarries.datable

/-! ## Placeholders of a creation -/

theorem dollar_not_mem_identifier {name : String} (h : Identifier.Plain name) :
    '$' ∉ name.toList := by
  intro hmem
  have hrest := Identifier.isRest_of_mem (Identifier.test_iff_plain.2 h) hmem
  exact absurd hrest (by decide)

theorem dollar_not_mem_record {record : Record} (h : record.Separable) :
    '$' ∉ record.text.toList := by
  rw [Record.toList_text, List.mem_append, List.mem_cons]
  rintro (htable | hcolon | hkey)
  · exact dollar_not_mem_identifier h.1 htable
  · exact absurd hcolon (by decide)
  · exact (h.2 _ hkey).2.2 rfl

theorem placeholders_expression {place : Nat} {value : Value} (hvalue : Readable value)
    {text : String} {bound : Option Parameter}
    (h : expression (parameterName place) value = .ok (text, bound)) (texts : List String) :
    placeholders (text.toList ++ closing texts) =
      (bound.map fun _ => parameterName place).toList ++ placeholders (closing texts) := by
  rcases expression_cases h with ⟨target, rfl, rfl, rfl⟩ | ⟨parameter, -, rfl, htext⟩
  · rw [placeholders_append (dollar_not_mem_record hvalue)]
    rfl
  · obtain ⟨mark, rest, hclosing, hmark⟩ := closing_eq_cons texts
    have hdollar : '$' ∉ value.cast.toList := fun hmem =>
      absurd (dollar_not_mem_cast value _ hmem) (by decide)
    have hend : Identifier.isRest mark = false := by
      simp only [isBreak, Bool.or_eq_true, beq_iff_eq] at hmark
      rcases hmark with rfl | rfl <;> decide
    rw [htext, List.append_assoc, placeholders_append hdollar, List.cons_append, hclosing,
      placeholders_name (fun _ => isRest_of_mem_parameterName) hend, String.ofList_toList]
    rfl

/-- The parameters of assignments stand in their texts in the order in which they are bound. -/
theorem placeholders_closing {place : Nat} {values : Values} (hvalues : AllReadable values)
    {texts : List String} {bindings : List (String × Parameter)}
    (h : assignments place values = .ok (texts, bindings)) :
    placeholders (closing texts) = bindings.map Prod.fst := by
  induction values generalizing place texts bindings with
  | nil =>
      cases h
      rfl
  | cons entry values ih =>
      obtain ⟨name, value⟩ := entry
      obtain ⟨⟨hname, hvalue⟩, hvalues⟩ := List.forall_mem_cons.1 hvalues
      obtain ⟨text, bound, rest, later, htext, hrest, rfl, rfl⟩ := assignments_cons h
      have hfront : '$' ∉ ',' :: ' ' :: (name.toList ++ " = ".toList) := by
        simp [dollar_not_mem_identifier hname]
      have hshape : closing (assignment name text :: rest) =
          (',' :: ' ' :: (name.toList ++ " = ".toList)) ++ (text.toList ++ closing rest) := by
        simp [closing_cons, assignment]
      rw [hshape, placeholders_append hfront, placeholders_expression hvalue htext, ih hvalues hrest,
        List.map_append]
      cases bound <;> rfl

theorem placeholders_ending {place : Nat} {values : Values} (hvalues : AllReadable values)
    {texts : List String} {bindings : List (String × Parameter)}
    (h : assignments place values = .ok (texts, bindings)) :
    placeholders (' ' :: ending texts) = bindings.map Prod.fst := by
  rw [← placeholders_closing hvalues h]
  cases texts with
  | nil => rfl
  | cons text rest =>
      have hset : '$' ∉ ' ' :: "SET ".toList := by simp
      have hcomma : '$' ∉ [',', ' '] := by decide
      calc placeholders (' ' :: ending (text :: rest))
          = placeholders ((' ' :: "SET ".toList) ++ (text.toList ++ closing rest)) := rfl
        _ = placeholders (text.toList ++ closing rest) := placeholders_append hset _
        _ = placeholders ([',', ' '] ++ (text.toList ++ closing rest)) :=
            (placeholders_append hcomma _).symm

/-! ## Creations -/

/-- A record and values whose statement can be read back. -/
structure Encodable (record : Record) (values : Values) : Prop where
  record : record.Separable
  names : ∀ entry ∈ values, Identifier.Plain entry.1
  links : ∀ name target, (name, Value.record target) ∈ values → target.Separable
  moments : ∀ entry ∈ values, entry.2.InCalendar

theorem Encodable.allReadable {record : Record} {values : Values} (h : Encodable record values) :
    AllReadable values := by
  rintro ⟨name, value⟩ hentry
  refine ⟨h.names _ hentry, ?_⟩
  cases value with
  | record target => exact h.links name target hentry
  | _ => exact h.moments _ hentry

theorem createRecord_error_iff {record : Record} {values : Values}
    (h : ∀ entry ∈ values, entry.2.InCalendar) :
    (∃ failure, createRecord record values = .error failure) ↔
      ∃ entry ∈ values, entry.2.IsBeforeYearZero := by
  constructor
  · rintro ⟨failure, hfailure⟩
    refine Classical.byContradiction fun hnone => ?_
    obtain ⟨statement, hstatement⟩ := exists_createRecord record fun entry hentry =>
      (Value.datable_iff (h entry hentry)).2 fun hbefore => hnone ⟨entry, hentry, hbefore⟩
    rw [hfailure] at hstatement
    cases hstatement
  · rintro ⟨entry, hentry, hbefore⟩
    cases hcreated : createRecord record values with
    | error failure => exact ⟨failure, rfl⟩
    | ok statement =>
        obtain ⟨texts, bindings, htexts, -⟩ := createRecord_eq_ok hcreated
        have hdatable := datable_of_assignments htexts entry hentry
        exact absurd hbefore ((Value.datable_iff (h entry hentry)).1 hdatable)

theorem createRecord_inj {record other : Record} {values others : Values}
    (h : Encodable record values) (h' : Encodable other others) {statement : Statement}
    (hvalues : createRecord record values = .ok statement)
    (hothers : createRecord other others = .ok statement) : record = other ∧ values.Same others := by
  obtain ⟨texts, bindings, htexts, rfl⟩ := createRecord_eq_ok hvalues
  obtain ⟨seconds, _, hseconds, hsame⟩ := createRecord_eq_ok hothers
  obtain ⟨htext, rfl⟩ := Statement.mk.inj hsame
  have hlist := congrArg String.toList htext
  rw [toList_createRecord, toList_createRecord] at hlist
  obtain ⟨rfl, hend⟩ := record_inj h.record h'.record rfl rfl (List.append_cancel_left hlist)
  refine ⟨rfl, assignments_inj h.allReadable h'.allReadable htexts hseconds ?_⟩
  have hending : ending texts = ending seconds := (List.cons.inj hend).2
  cases texts with
  | nil =>
      cases seconds with
      | nil => rfl
      | cons second seconds =>
          rw [ending_nil, ending_cons] at hending
          simp at hending
  | cons text texts =>
      cases seconds with
      | nil =>
          rw [ending_cons, ending_nil] at hending
          simp at hending
      | cons second seconds =>
          have hrest := List.append_cancel_left hending
          rw [closing_cons, closing_cons, hrest]

/--
A creation can be written unless a moment lies before the year 0.  Its parameters are named once
each in the text and bound under the places of their values, and text and bindings tell record and
values.
-/
theorem createRecord_lossless {record : Record} {values : Values} (h : Encodable record values) :
    ((∃ failure, createRecord record values = .error failure) ↔
      ∃ entry ∈ values, entry.2.IsBeforeYearZero) ∧
    ∀ statement, createRecord record values = .ok statement →
      (statement.bindings.map Prod.fst).Nodup ∧
      placeholders statement.text.toList = statement.bindings.map Prod.fst ∧
      (∀ (place : Nat) (name : String) (value : Value), values[place]? = some (name, value) →
        (∀ target, value ≠ .record target) →
          ∃ parameter, value.Carries parameter ∧
            ("v" ++ toString place, parameter) ∈ statement.bindings) ∧
      ∀ other others, Encodable other others → createRecord other others = .ok statement →
        record = other ∧ values.Same others := by
  refine ⟨createRecord_error_iff h.moments, fun statement hstatement => ?_⟩
  obtain ⟨texts, bindings, htexts, hwhole⟩ := createRecord_eq_ok hstatement
  refine ⟨?_, ?_, ?_, fun other others h' => createRecord_inj h h' hstatement⟩
  · rw [hwhole]
    exact nodup_bindings htexts
  · have hcreate : '$' ∉ "CREATE ".toList := by simp
    rw [hwhole]
    simp only [toList_createRecord]
    rw [placeholders_append hcreate, placeholders_append (dollar_not_mem_record h.record),
      placeholders_ending h.allReadable htexts]
  · intro place name value hvalue hlink
    rw [hwhole]
    rcases bound_of_getElem? htexts hvalue with ⟨target, htarget⟩ | ⟨parameter, hcarries, hmem⟩
    · exact absurd htarget (hlink target)
    · rw [Nat.zero_add] at hmem
      exact ⟨parameter, hcarries, hmem⟩

/-- A post with a value of each sort: the link takes a place but no parameter, and no other record
and values have the same statement. -/
theorem createRecord_lossless_each_sort :
    let post : Record := ⟨"post", "abc"⟩
    let values : Values :=
      [("title", .text "3"), ("author", .record ⟨"author", "x1"⟩), ("views", .integer 3),
       ("price", .decimal "12.50"), ("open", .boolean true),
       ("seen", .dateTime ⟨1614834367, 120000000⟩), ("day", .date ⟨18994⟩)]
    ∃ statement, createRecord post values = .ok statement ∧
      statement.text = "CREATE post:abc SET title = $v0, author = author:x1, views = $v2, " ++
        "price = <decimal> $v3, open = $v4, seen = <datetime> $v5, day = <datetime> $v6 " ++
        "RETURN NONE;" ∧
      statement.bindings =
        [("v0", .text "3"), ("v2", .integer 3), ("v3", .text "12.50"), ("v4", .boolean true),
         ("v5", .text "2021-03-04T05:06:07.12Z"), ("v6", .text "2022-01-02T00:00:00Z")] ∧
      placeholders statement.text.toList = ["v0", "v2", "v3", "v4", "v5", "v6"] ∧
      ∀ other others, Encodable other others → createRecord other others = .ok statement →
        post = other ∧ values.Same others := by
  intro post values
  have hencodable : Encodable post values := by
    refine ⟨by decide +kernel, by decide +kernel, ?_, ?_⟩
    · intro name target hentry
      simp only [values, List.mem_cons, Prod.mk.injEq, Value.record.injEq, reduceCtorEq, and_false,
        false_or, List.not_mem_nil, or_false] at hentry
      rw [hentry.2]
      decide +kernel
    · have hmoments : values.all (fun entry => decide (entry.2.InCalendar)) = true := by
        decide +kernel
      simpa using hmoments
  have hstatement : ∃ statement, createRecord post values = .ok statement := ⟨_, rfl⟩
  obtain ⟨statement, hstatement⟩ := hstatement
  obtain ⟨-, hcreated⟩ := createRecord_lossless hencodable
  obtain ⟨-, hplaceholders, -, htold⟩ := hcreated statement hstatement
  cases hstatement
  exact ⟨_, rfl, by decide +kernel, by decide +kernel, hplaceholders, htold⟩

end Statement

end SampleData
