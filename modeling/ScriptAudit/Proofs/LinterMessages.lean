import Mathlib.Data.List.Flatten
import ScriptAudit.Lint.Message
import ScriptAudit.Proofs.JsonGrammar

/-!
# The messages of a linter

A linter's output is JSON of any shape, and only its outermost shape is checked.

- `LintMessage.Equals`, `LintMessage.Grades`: numeric levels, and the severity that they stand for.
- `LintMessage.Tells`, `LintMessage.Conveys`: the values that a result has for messages, and what
  such a value says as a message.
- `LintMessage.IsRejected`, `LintMessage.Escapes`: outputs that are reported as those of a linter
  that failed, and outputs that make the reading itself fail.
- `LintMessage.readAll_outcome`: **an output gives the messages of all its results in order, or the
  linter has failed, or the reading fails at the first part of the wrong shape.**
-/

namespace ScriptAudit

/-! ## Lists in step -/

theorem exists_mem_of_forall₂ {α β : Type} {r : α → β → Prop} {items : List α} {others : List β}
    (h : List.Forall₂ r items others) {item : α} (hitem : item ∈ items) :
    ∃ other ∈ others, r item other := by
  induction h with
  | nil => cases hitem
  | cons hfirst _ ih =>
    rcases List.mem_cons.1 hitem with rfl | hitem
    · exact ⟨_, List.mem_cons_self, hfirst⟩
    · obtain ⟨other, hother, hr⟩ := ih hitem
      exact ⟨other, List.mem_cons_of_mem _ hother, hr⟩

theorem exists_of_forall₂_append {α β : Type} {r : α → β → Prop} {before after : List α}
    {items : List β} (h : List.Forall₂ r (before ++ after) items) :
    ∃ first last, items = first ++ last ∧ List.Forall₂ r before first ∧
      List.Forall₂ r after last :=
  ⟨items.take before.length, items.drop before.length, (List.take_append_drop _ _).symm,
    (List.forall₂_take_append _ _ _ h.flip).flip, (List.forall₂_drop_append _ _ _ h.flip).flip⟩

/-! ## Severities -/

/-- Whether a value is a table. -/
def Value.IsTable (value : Value) : Prop :=
  ∃ entries, value = .table entries

namespace LintMessage

/-- Whether a value is a number that equals a whole number. Truth values are zero and one. -/
inductive Equals (n : Int) : Value → Prop
  | truth {b : Bool} (h : b.toInt = n) : Equals n (.bool b)
  | whole : Equals n (.int n)
  | real {x : Float} (h : (x == nearestFloat n) = true) : Equals n (.float x)

theorem isNumber_iff {value : Value} {n : Int} : isNumber value n = true ↔ Equals n value := by
  constructor
  · intro h
    cases value with
    | bool b => exact .truth (eq_of_beq h)
    | int m =>
      -- Truth values, integers and reals may equal a number; nothing else does.
      obtain rfl := eq_of_beq (a := m) (b := n) h
      exact .whole
    | float x => exact .real h
    | null | text | torn | list | table | moment => cases h
  · intro h
    cases h with
    | truth h => exact beq_iff_eq.2 h
    | whole => exact beq_self_eq_true n
    | real h => exact h

/-- The severity that a level stands for: two is an error, one a warning, and all else is told for
information. -/
inductive Grades (level : Value) : Severity → Prop
  | error (htwo : Equals 2 level) : Grades level .error
  | warning (htwo : ¬Equals 2 level) (hone : Equals 1 level) : Grades level .warning
  | info (htwo : ¬Equals 2 level) (hone : ¬Equals 1 level) : Grades level .info

theorem grades_severityOf (level : Value) : Grades level (severityOf level) := by
  rw [severityOf]
  split
  case isTrue htwo => exact .error (isNumber_iff.1 htwo)
  case isFalse htwo =>
    have hnotTwo := mt isNumber_iff.2 htwo
    split
    case isTrue hone => exact .warning hnotTwo (isNumber_iff.1 hone)
    case isFalse hone => exact .info hnotTwo (mt isNumber_iff.2 hone)

theorem Grades.severityOf_eq {level : Value} {severity : Severity} (h : Grades level severity) :
    severityOf level = severity := by
  rw [severityOf]
  cases h with
  | error htwo => rw [if_pos (isNumber_iff.2 htwo)]
  | warning htwo hone => rw [if_neg (mt isNumber_iff.1 htwo), if_pos (isNumber_iff.2 hone)]
  | info htwo hone => rw [if_neg (mt isNumber_iff.1 htwo), if_neg (mt isNumber_iff.1 hone)]

/-! ## One message -/

/-- Whether a value says a message. Everything but the severity is kept as it is; a line or a column
that counts as absent is zero. -/
structure Conveys (value : Value) (m : LintMessage) : Prop where
  isTable : value.IsTable
  rule : m.rule = (value.get? "ruleId").getD .null
  severity : Grades ((value.get? "severity").getD .null) m.severity
  message : m.message = (value.get? "message").getD (.text "")
  line : m.line = ((value.get? "line").getD .null).orElse (.int 0)
  column : m.column = ((value.get? "column").getD .null).orElse (.int 0)

theorem read_eq_ok_iff {value : Value} {m : LintMessage} :
    read value = .ok m ↔ Conveys value m := by
  constructor
  · intro h
    cases value with
    | table entries =>
      cases h
      exact ⟨⟨entries, rfl⟩, rfl, grades_severityOf _, rfl, rfl, rfl⟩
    | null | bool | int | float | text | torn | list | moment => cases h
  · rintro ⟨⟨entries, rfl⟩, hrule, hseverity, hmessage, hline, hcolumn⟩
    obtain ⟨rule, severity, message, line, column⟩ := m
    dsimp only at hrule hseverity hmessage hline hcolumn
    rw [hrule, hmessage, hline, hcolumn, ← hseverity.severityOf_eq]
    rfl

/-- The fault of a value that should have been a table. -/
def shapeFault (value : Value) : Fault :=
  ⟨.wrongShape, "'" ++ value.typeName ++ "' object has no attribute 'get'"⟩

theorem read_eq_error_iff {value : Value} {failure : Failure} :
    read value = .error failure ↔ ¬value.IsTable ∧ failure = .fault (shapeFault value) := by
  cases value with
  | table entries => exact iff_of_false nofun fun h => h.1 ⟨entries, rfl⟩
  | null | bool | int | float | text | torn | list | moment =>
    exact ⟨fun h => ⟨nofun, (Except.error.inj h).symm⟩, fun h => congrArg _ h.2.symm⟩

theorem exists_read_eq_ok_iff {value : Value} : (∃ m, read value = .ok m) ↔ value.IsTable := by
  constructor
  · rintro ⟨m, h⟩
    exact (read_eq_ok_iff.1 h).isTable
  · rintro ⟨entries, rfl⟩
    exact ⟨_, rfl⟩

theorem exists_mapM_read_eq_ok_iff {told : List Value} :
    (∃ messages, told.mapM read = .ok messages) ↔ ∀ message ∈ told, message.IsTable := by
  simpa [exists_read_eq_ok_iff] using @exists_mapM_iff _ _ _ read (fun _ => True) told

/-! ## One result -/

/-- What a result has for messages: nothing if it does not speak of them, else whatever can be gone
through there. -/
inductive Tells : Value → List Value → Prop
  | absent {entries : List (String × Value)} (h : lookup? "messages" entries = none) :
    Tells (.table entries) []
  | present {entries : List (String × Value)} {messages : Value} {told : List Value}
    (h : lookup? "messages" entries = some messages) (htold : messages.items? = some told) :
    Tells (.table entries) told

/-- Why reading a result fails: at the result, at what it has for messages, or at the first message
that is no table. -/
inductive Breaks : Value → Fault → Prop
  | result {result : Value} (h : ¬result.IsTable) : Breaks result (shapeFault result)
  | messages {entries : List (String × Value)} {messages : Value}
    (h : lookup? "messages" entries = some messages) (hitems : messages.items? = none) :
    Breaks (.table entries) ⟨.wrongType, "'" ++ messages.typeName ++ "' object is not iterable"⟩
  | message {result message : Value} {before after : List Value}
    (h : Tells result (before ++ message :: after)) (hbefore : ∀ earlier ∈ before, earlier.IsTable)
    (hmessage : ¬message.IsTable) : Breaks result (shapeFault message)

theorem readResult_eq {result : Value} {told : List Value} (h : Tells result told) :
    readResult result = told.mapM read := by
  cases h with
  | absent h => rw [readResult, h]; rfl
  | present h htold => rw [readResult, h, Option.getD_some, htold]

/-- A result tells messages, or reading it fails before any of them. -/
theorem exists_tells_or_breaks (result : Value) :
    (∃ told, Tells result told) ∨
      ∃ fault, readResult result = .error (.fault fault) ∧ Breaks result fault := by
  cases result with
  | table entries =>
    cases hmessages : lookup? "messages" entries with
    | none => exact .inl ⟨[], .absent hmessages⟩
    | some messages =>
      cases hitems : messages.items? with
      | some told => exact .inl ⟨told, .present hmessages hitems⟩
      | none =>
        refine .inr ⟨_, ?_, .messages hmessages hitems⟩
        rw [readResult, hmessages, Option.getD_some, hitems]
        rfl
  | null | bool | int | float | text | torn | list | moment => exact .inr ⟨_, rfl, .result nofun⟩

theorem readResult_eq_ok_iff {result : Value} {messages : List LintMessage} :
    readResult result = .ok messages ↔
      ∃ told, Tells result told ∧ List.Forall₂ Conveys told messages := by
  constructor
  · intro h
    rcases exists_tells_or_breaks result with ⟨told, htold⟩ | ⟨fault, hfault, -⟩
    · rw [readResult_eq htold, mapM_eq_ok_iff] at h
      exact ⟨told, htold, h.imp fun _ _ => read_eq_ok_iff.1⟩
    · rw [hfault] at h
      cases h
  · rintro ⟨told, htold, hmessages⟩
    rw [readResult_eq htold, mapM_eq_ok_iff]
    exact hmessages.imp fun _ _ => read_eq_ok_iff.2

theorem readResult_eq_error_iff {result : Value} {failure : Failure} :
    readResult result = .error failure ↔ ∃ fault, failure = .fault fault ∧ Breaks result fault := by
  constructor
  · intro h
    -- Either the result tells of its messages and one of them fails, or its own shape does.
    rcases exists_tells_or_breaks result with ⟨told, htold⟩ | ⟨fault, hfault, hbreaks⟩
    · rw [readResult_eq htold] at h
      obtain ⟨before, message, after, rfl, hbefore, hmessage⟩ := mapM_eq_error_iff.1 h
      obtain ⟨hshape, rfl⟩ := read_eq_error_iff.1 hmessage
      exact ⟨_, rfl, .message htold (fun m hm => exists_read_eq_ok_iff.1 (hbefore m hm)) hshape⟩
    · exact ⟨fault, Except.error.inj (h.symm.trans hfault), hbreaks⟩
  · rintro ⟨fault, rfl, hbreaks⟩
    cases hbreaks with
    | result hresult =>
      cases result with
      | table entries => exact absurd ⟨entries, rfl⟩ hresult
      | null | bool | int | float | text | torn | list | moment => rfl
    | messages h hitems =>
      rw [readResult, h, Option.getD_some, hitems]
      rfl
    | message htold hbefore hmessage =>
      rw [readResult_eq htold]
      exact mapM_eq_error_iff.2 ⟨_, _, _, rfl, fun m hm => exists_read_eq_ok_iff.2 (hbefore m hm),
        read_eq_error_iff.2 ⟨hmessage, rfl⟩⟩

theorem exists_readResult_eq_ok_iff {result : Value} :
    (∃ messages, readResult result = .ok messages) ↔
      ∃ told, Tells result told ∧ ∀ message ∈ told, message.IsTable := by
  constructor
  · rintro ⟨messages, h⟩
    obtain ⟨told, htold, -⟩ := readResult_eq_ok_iff.1 h
    rw [readResult_eq htold] at h
    exact ⟨told, htold, exists_mapM_read_eq_ok_iff.1 ⟨messages, h⟩⟩
  · rintro ⟨told, htold, htables⟩
    rw [readResult_eq htold]
    exact exists_mapM_read_eq_ok_iff.2 htables

/-! ## A whole output -/

theorem mapM_readResult_eq_ok_iff {results : List Value} {messages : List LintMessage} :
    (results.mapM readResult).map List.flatten = .ok messages ↔
      ∃ told, List.Forall₂ Tells results told ∧ List.Forall₂ Conveys told.flatten messages := by
  rw [map_eq_ok_iff]
  constructor
  · rintro ⟨made, hmade, rfl⟩
    rw [mapM_eq_ok_iff] at hmade
    -- The told lists stand side by side with the results, and what they convey is read off in one
    -- row.
    induction hmade with
    | nil => exact ⟨[], .nil, .nil⟩
    | cons hresult _ ih =>
      obtain ⟨told, htold, hmessages⟩ := readResult_eq_ok_iff.1 hresult
      obtain ⟨others, hothers, hmore⟩ := ih
      exact ⟨told :: others, .cons htold hothers, List.rel_append hmessages hmore⟩
  · rintro ⟨told, htold, hmessages⟩
    induction htold generalizing messages with
    | nil =>
      cases hmessages
      exact ⟨[], rfl, rfl⟩
    | cons htold _ ih =>
      obtain ⟨first, last, rfl, hfirst, hlast⟩ := exists_of_forall₂_append hmessages
      obtain ⟨others, hothers, rfl⟩ := ih hlast
      refine ⟨first :: others, ?_, rfl⟩
      rw [List.mapM_cons, readResult_eq_ok_iff.2 ⟨_, htold, hfirst⟩, hothers]
      rfl

theorem mapM_readResult_eq_error_iff {results : List Value} {failure : Failure} :
    (results.mapM readResult).map List.flatten = .error failure ↔
      ∃ before result after fault, results = before ++ result :: after ∧
        (∀ earlier ∈ before, ∃ told, Tells earlier told ∧ ∀ message ∈ told, message.IsTable) ∧
        failure = .fault fault ∧ Breaks result fault := by
  rw [map_eq_error_iff, mapM_eq_error_iff]
  simp only [exists_readResult_eq_ok_iff, readResult_eq_error_iff, exists_and_left]

/-- Outputs for which a linter counts as failed: those that are no JSON, or no list. -/
inductive IsRejected (depth : Nat) (output path : String) : Problem → Prop
  | malformed (h : Json.read depth output.toList = .error .malformed)
    (hnone : ∀ longest levels value, ¬Json.Denotes longest levels output.toList value) :
    IsRejected depth output path (.lint (.text path)
      (.text ("invalid JSON from eslint: " ++ Refusal.malformed.text)) .null)
  | shape {value : Value} (h : Json.Denotes longestNumber depth output.toList value)
    (hlist : ∀ items, value ≠ .list items) :
    IsRejected depth output path (.lint (.text path) (.text "unexpected eslint output shape") .null)

/-- Outputs whose reading fails in another way: JSON that the reader refuses for its size, or a list
with a result that cannot be read, after others that can. -/
inductive Escapes (depth : Nat) (output : String) : Fault → Prop
  | tooLong {digits : Nat} (h : Json.read depth output.toList = .error (.tooLong digits)) :
    Escapes depth output ⟨.wrongValue, (Refusal.tooLong digits).text⟩
  | tooDeep (h : Json.read depth output.toList = .error .tooDeep) :
    Escapes depth output ⟨.tooDeep, Refusal.tooDeep.text⟩
  | result {before after : List Value} {result : Value} {fault : Fault}
    (h : Json.Denotes longestNumber depth output.toList
      (.list (before ++ result :: after)))
    (hbefore : ∀ earlier ∈ before, ∃ told, Tells earlier told ∧ ∀ message ∈ told, message.IsTable)
    (hresult : Breaks result fault) : Escapes depth output fault

variable {depth : Nat} {output path : String}

theorem readAll_list {results : List Value} (h : Json.read depth output.toList = .ok (.list results)) :
    readAll depth output path = (results.mapM readResult).map List.flatten := by
  rw [readAll, h]

theorem readAll_other {value : Value} (h : Json.read depth output.toList = .ok value)
    (hlist : ∀ items, value ≠ .list items) :
    readAll depth output path = .error (failed path "unexpected eslint output shape" none) := by
  rw [readAll, h]
  cases value with
  | list items => exact absurd rfl (hlist items)
  | null | bool | int | float | text | torn | table | moment => rfl

/-- The messages of an output are those of all its results. -/
theorem readAll_eq_ok_iff {messages : List LintMessage} :
    readAll depth output path = .ok messages ↔
      ∃ results told, Json.Denotes longestNumber depth output.toList (.list results) ∧
        List.Forall₂ Tells results told ∧ List.Forall₂ Conveys told.flatten messages := by
  constructor
  · intro h
    rw [readAll] at h
    split at h
    case h_3 results hread =>
      obtain ⟨told, htold, hmessages⟩ := mapM_readResult_eq_ok_iff.1 h
      exact ⟨results, told, Json.read_eq_ok_iff.1 hread, htold, hmessages⟩
    case h_1 | h_2 | h_4 => cases h
  · rintro ⟨results, told, hread, htold, hmessages⟩
    rw [readAll_list (Json.read_eq_ok_iff.2 hread)]
    exact mapM_readResult_eq_ok_iff.2 ⟨told, htold, hmessages⟩

theorem readAll_eq_problem_iff {problem : Problem} :
    readAll depth output path = .error (.problem problem) ↔ IsRejected depth output path problem := by
  constructor
  · intro h
    rw [readAll.eq_def] at h
    split at h
    case h_1 hread =>
      cases h
      -- A text that means a value would have been read: so this one means none.
      exact .malformed hread fun _ _ _ hdenotes => hdenotes.read_ne_malformed hread
    case h_2 refusal hmalformed hread =>
      cases refusal with
      | malformed => exact absurd rfl hmalformed
      | tooLong | tooDeep => cases h
    case h_3 =>
      obtain ⟨_, _, _, _, _, _, hproblem, _⟩ := mapM_readResult_eq_error_iff.1 h
      cases hproblem
    case h_4 hlist hread =>
      cases h
      exact .shape (Json.read_eq_ok_iff.1 hread) hlist
  · intro h
    cases h with
    | malformed hread => rw [readAll, hread]; rfl
    | shape hread hlist => exact readAll_other (Json.read_eq_ok_iff.2 hread) hlist

theorem readAll_eq_fault_iff {fault : Fault} :
    readAll depth output path = .error (.fault fault) ↔ Escapes depth output fault := by
  constructor
  · intro h
    rw [readAll.eq_def] at h
    split at h
    case h_1 => cases h
    case h_2 refusal hmalformed hread =>
      cases refusal with
      | malformed => exact absurd rfl hmalformed
      | tooLong =>
        cases h
        exact .tooLong hread
      | tooDeep =>
        cases h
        exact .tooDeep hread
    -- The list was read, so the fault is one of a result, after results that were read.
    case h_3 hread =>
      obtain ⟨before, result, after, _, rfl, hbefore, hfault, hbreaks⟩ :=
        mapM_readResult_eq_error_iff.1 h
      cases hfault
      exact .result (Json.read_eq_ok_iff.1 hread) hbefore hbreaks
    case h_4 => cases h
  · intro h
    cases h with
    | tooLong hread | tooDeep hread => rw [readAll, hread]; rfl
    | result hread hbefore hresult =>
      rw [readAll_list (Json.read_eq_ok_iff.2 hread)]
      exact mapM_readResult_eq_error_iff.2 ⟨_, _, _, fault, rfl, hbefore, rfl, hresult⟩

/-- **An output gives the messages of all its results in order, or its linter has failed, or the
reading fails.** It fails for the size of the output, or at the first result or message that has the
wrong shape. -/
theorem readAll_outcome (depth : Nat) (output path : String) :
    (∀ messages, readAll depth output path = .ok messages ↔
      ∃ results told, Json.Denotes longestNumber depth output.toList (.list results) ∧
        List.Forall₂ Tells results told ∧ List.Forall₂ Conveys told.flatten messages) ∧
    (∀ problem, readAll depth output path = .error (.problem problem) ↔ IsRejected depth output path problem) ∧
    ∀ fault, readAll depth output path = .error (.fault fault) ↔ Escapes depth output fault :=
  ⟨fun _ => readAll_eq_ok_iff, fun _ => readAll_eq_problem_iff, fun _ => readAll_eq_fault_iff⟩

-- A result that is a number is not reported as a failure of the linter.
example : readAll 9 "[1]" "a.js" =
    .error (.fault ⟨.wrongShape, "'int' object has no attribute 'get'"⟩) := by
  rfl

end LintMessage

end ScriptAudit
