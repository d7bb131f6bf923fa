import ScriptAudit.Lint.External
import ScriptAudit.Proofs.DamagedText
import ScriptAudit.Proofs.LinterMessages

/-!
# Failures of a linter

Whatever becomes of the call of an external linter, there are issues for all of its messages or
there are none. A failure at any depth of the output also loses the messages before it.

- `LintMessage.Reports`: what an issue takes from a message.
- `CommandOutcome.Delivers`, `CommandOutcome.Fails`: outcomes with messages, and outcomes without,
  each said without the reader.
- `ExternalLinter.issues_allOrNothing`: **an outcome that delivers messages gives one issue for each
  of them, in order, and every other outcome gives none.**
- `ExternalLinter.not_issues_unlimited`: that an output is such a list is not enough. The reader
  refuses numbers that are too long and collections that are nested too deeply, and everything that
  was written has to be text.
-/

namespace ScriptAudit

open LintMessage

/-! ## Issues from messages -/

namespace LintMessage

/-- What a value has under a key, or another value if nothing there counts as present. -/
inductive Gives (value : Value) (key : String) (other : Value) : Value → Prop
  | entry {found : Value} (h : value.get? key = some found) (hset : found.isSet = true) :
    Gives value key other found
  | other (h : ∀ found, value.get? key = some found → found.isSet = false) :
    Gives value key other other

/-- Whether an issue of a file reports a value as a message. -/
structure Reports (path : String) (value : Value) (issue : Issue) : Prop where
  category : issue.category = .lint
  severity : Grades ((value.get? "severity").getD .null) issue.severity
  message : issue.message = (value.get? "message").getD (.text "")
  code : Gives value "ruleId" (.text fallbackRule) issue.code
  filePath : issue.filePath = path
  line : Gives value "line" (.int 0) issue.line
  column : Gives value "column" (.int 0) issue.column
  fix : issue.fix = none

theorem gives_orElse (value : Value) (key : String) (other : Value) :
    Gives value key other (((value.get? key).getD .null).orElse other) := by
  cases hfound : value.get? key with
  | none =>
    refine .other fun found h => ?_
    rw [hfound] at h
    cases h
  | some found =>
    rw [Option.getD_some, Value.orElse]
    split
    case isTrue hset => exact .entry hfound hset
    -- An entry that counts as unset is passed over like one that is missing.
    case isFalse hset =>
      refine .other fun same h => ?_
      rw [hfound] at h
      cases h
      exact Bool.eq_false_iff.2 hset

theorem Conveys.reports {value : Value} {m : LintMessage} (h : Conveys value m) (path : String) :
    Reports path value (m.toIssue path) where
  category := rfl
  severity := h.severity
  message := h.message
  code := by
    rw [toIssue, h.rule]
    exact gives_orElse value "ruleId" _
  filePath := rfl
  line := by
    rw [toIssue, h.line]
    exact gives_orElse value "line" _
  column := by
    rw [toIssue, h.column]
    exact gives_orElse value "column" _
  fix := rfl

theorem Tells.isTable {result : Value} {told : List Value} (h : Tells result told) :
    result.IsTable := by
  cases h with
  | absent | present => exact ⟨_, rfl⟩

end LintMessage

/-! ## Outcomes of a call -/

namespace CommandOutcome

/-- Whether a call delivers messages: it finished with a code that tells of no crash, what it wrote is
text, and its output is a list of results all of whose messages are tables. -/
inductive Delivers (host : CommandHost) : CommandOutcome → List Value → Prop
  | finished {code : Int} {output errors : List UInt8} {text complaint : String}
    {results : List Value} {told : List (List Value)} (hcode : code = 0 ∨ code = 1)
    (hdecoded : host.decode output = .ok text) (herrors : host.decode errors = .ok complaint)
    (houtput : Json.Denotes longestNumber host.depth text.toList (.list results))
    (htold : List.Forall₂ Tells results told)
    (htables : ∀ message ∈ told.flatten, message.IsTable) :
    Delivers host (.finished code output errors) told.flatten

/-- Whether a call fails: it was not made to the end, or it crashed, or it wrote something that is no
text, or its output is something else than a list, goes beyond what is read, or has a result or a
message that is no table. -/
inductive Fails (host : CommandHost) : CommandOutcome → Prop
  | notStarted (reason : String) : Fails host (.notStarted reason)
  | timedOut : Fails host .timedOut
  | crashed {code : Int} {output errors : List UInt8} (hcode : ¬(code = 0 ∨ code = 1)) :
    Fails host (.finished code output errors)
  | undecodable {code : Int} {output errors : List UInt8} {reason : String}
    (h : host.decode output = .error reason ∨ host.decode errors = .error reason) :
    Fails host (.finished code output errors)
  | noJson {code : Int} {output errors : List UInt8} {text : String}
    (hdecoded : host.decode output = .ok text)
    (h : ∀ longest levels value, ¬Json.Denotes longest levels text.toList value) :
    Fails host (.finished code output errors)
  | beyond {code : Int} {output errors : List UInt8} {text : String} {longest levels : Nat}
    {value : Value} (hdecoded : host.decode output = .ok text)
    (h : Json.Denotes longest levels text.toList value)
    (hbeyond : ¬Json.Denotes longestNumber host.depth text.toList value) :
    Fails host (.finished code output errors)
  | noList {code : Int} {output errors : List UInt8} {text : String} {longest levels : Nat}
    {value : Value} (hdecoded : host.decode output = .ok text)
    (h : Json.Denotes longest levels text.toList value) (hlist : ∀ items, value ≠ .list items) :
    Fails host (.finished code output errors)
  | result {code : Int} {output errors : List UInt8} {text : String} {longest levels : Nat}
    {results : List Value} {result : Value} (hdecoded : host.decode output = .ok text)
    (h : Json.Denotes longest levels text.toList (.list results)) (hmem : result ∈ results)
    (hresult : ¬result.IsTable) : Fails host (.finished code output errors)
  | message {code : Int} {output errors : List UInt8} {text : String} {longest levels : Nat}
    {results messages : List Value} {entries : List (String × Value)} {message : Value}
    (hdecoded : host.decode output = .ok text)
    (h : Json.Denotes longest levels text.toList (.list results)) (hmem : .table entries ∈ results)
    (hmessages : lookup? "messages" entries = some (.list messages))
    (hmessage : message ∈ messages) (htable : ¬message.IsTable) :
    Fails host (.finished code output errors)

variable {host : CommandHost} {outcome : CommandOutcome} {messages : List Value}

/-- A call that fails delivers nothing. -/
theorem Fails.not_delivers (h : Fails host outcome) : ¬Delivers host outcome messages := by
  intro hdelivers
  cases hdelivers with
  | finished hcode hdecoded herrors houtput htold htables =>
    have hread := Json.read_eq_ok_iff.2 houtput
    -- What is decoded is the same text, and it denotes one value only.
    cases h with
    | crashed hcrash => exact hcrash hcode
    | undecodable hfailed =>
      rw [hdecoded, herrors] at hfailed
      rcases hfailed with hfailed | hfailed <;> cases hfailed
    | noJson hsame hnone =>
      cases hdecoded.symm.trans hsame
      exact hnone _ _ _ houtput
    | beyond hsame hvalue hbeyond =>
      cases hdecoded.symm.trans hsame
      exact hbeyond (hvalue.eq_of_read hread ▸ houtput)
    | noList hsame hvalue hlist =>
      cases hdecoded.symm.trans hsame
      exact hlist _ (hvalue.eq_of_read hread).symm
    | result hsame hvalue hmem hresult =>
      cases hdecoded.symm.trans hsame
      cases hvalue.eq_of_read hread
      obtain ⟨_, _, htells⟩ := exists_mem_of_forall₂ htold hmem
      exact hresult htells.isTable
    | message hsame hvalue hmem hmessages hmessage htable =>
      cases hdecoded.symm.trans hsame
      cases hvalue.eq_of_read hread
      obtain ⟨told, hmemTold, htells⟩ := exists_mem_of_forall₂ htold hmem
      refine htable (htables _ (List.mem_flatten.2 ⟨told, hmemTold, ?_⟩))
      cases htells with
      | absent hnone =>
        rw [hmessages] at hnone
        cases hnone
      | present hfound hitems =>
        rw [hmessages] at hfound
        cases hfound
        cases hitems
        exact hmessage

end CommandOutcome

theorem CommandHost.texts_eq_ok_iff {host : CommandHost} {output errors : List UInt8}
    {text complaint : String} : host.texts output errors = .ok (text, complaint) ↔
      host.decode output = .ok text ∧ host.decode errors = .ok complaint := by
  unfold texts
  cases host.decode output <;> cases host.decode errors <;> simp

/-! ## All or nothing -/

namespace ExternalLinter

open CommandOutcome

variable {host : CommandHost} {l : ExternalLinter} {source : List Char} {path : String}
  {messages : List Value}

theorem issues_eq_of_ok {read : List LintMessage}
    (h : l.readOutcome host path (host.run (l.lintCall (String.ofList source) path)) = .ok read) :
    (l.linter host).issues source path = read.map (toIssue path) := by
  rw [Linter.issues]
  simp only [linter, lint, h]

theorem issues_eq_of_error {failure : Failure}
    (h : l.readOutcome host path (host.run (l.lintCall (String.ofList source) path))
      = .error failure) :
    (l.linter host).issues source path = [] := by
  rw [Linter.issues]
  simp only [linter, lint, h]

/-- The messages that are read from an outcome are those that it delivers. -/
theorem readOutcome_delivers {outcome : CommandOutcome} {read : List LintMessage}
    (h : l.readOutcome host path outcome = .ok read) :
    ∃ messages, Delivers host outcome messages := by
  cases outcome with
  | notStarted | timedOut => cases h
  | finished code output errors =>
    obtain ⟨⟨text, complaint⟩, htexts, h⟩ := bind_eq_ok_iff.1 h
    obtain ⟨hdecoded, herrors⟩ := CommandHost.texts_eq_ok_iff.1 htexts
    dsimp only at h
    split at h
    case isTrue hcode =>
      obtain ⟨results, told, houtput, htold, hconveys⟩ := readAll_eq_ok_iff.1 h
      refine ⟨told.flatten, .finished hcode hdecoded herrors houtput htold fun message hmem => ?_⟩
      obtain ⟨m, -, hm⟩ := exists_mem_of_forall₂ hconveys hmem
      exact hm.isTable
    case isFalse => cases h

/-- What an outcome delivers is read, all of it. -/
theorem exists_readOutcome {outcome : CommandOutcome} (h : Delivers host outcome messages) :
    ∃ read, l.readOutcome host path outcome = .ok read ∧ List.Forall₂ Conveys messages read := by
  cases h with
  | finished hcode hdecoded herrors houtput htold htables =>
    obtain ⟨read, hread⟩ := exists_mapM_read_eq_ok_iff.2 htables
    have hconveys := (mapM_eq_ok_iff.1 hread).imp fun _ _ => read_eq_ok_iff.1
    have htexts := CommandHost.texts_eq_ok_iff.2 ⟨hdecoded, herrors⟩
    refine ⟨read, bind_eq_ok_iff.2 ⟨_, htexts, ?_⟩, hconveys⟩
    dsimp only
    rw [if_pos hcode]
    exact readAll_eq_ok_iff.2 ⟨_, _, houtput, htold, hconveys⟩

theorem issues_of_delivers
    (h : Delivers host (host.run (l.lintCall (String.ofList source) path)) messages) :
    List.Forall₂ (Reports path) messages ((l.linter host).issues source path) := by
  obtain ⟨read, hread, hconveys⟩ := exists_readOutcome h
  rw [issues_eq_of_ok hread, List.forall₂_map_right_iff]
  exact hconveys.imp fun _ _ hm => hm.reports path

theorem issues_of_not_delivers
    (h : ∀ messages,
      ¬Delivers host (host.run (l.lintCall (String.ofList source) path)) messages) :
    (l.linter host).issues source path = [] := by
  cases hread : l.readOutcome host path (host.run (l.lintCall (String.ofList source) path)) with
  | ok read =>
    obtain ⟨messages, hdelivers⟩ := readOutcome_delivers hread
    exact absurd hdelivers (h messages)
  | error => exact issues_eq_of_error hread

/-- Bytes as text, if they are sound. -/
def soundText (bytes : List UInt8) : Except String String :=
  match Utf8.decode? bytes with
  | some text => .ok (String.ofList text)
  | none => .error "invalid start byte"

theorem soundText_encode (text : List Char) :
    soundText (Utf8.encode text) = .ok (String.ofList text) := by
  rw [soundText, Utf8.decode?, Utf8.decode_encode, if_pos rfl]

/-- A host on which every call finishes, with the same output and the same bytes about errors. -/
def finishedHost (depth : Nat) (output : List Char) (errors : List UInt8) : CommandHost where
  find _ := none
  run _ := .finished 0 (Utf8.encode output) errors
  decode := soundText
  depth := depth

section

variable {depth : Nat} {output text : List Char} {errors : List UInt8}

theorem decode_encode_finishedHost :
    (finishedHost depth output errors).decode (Utf8.encode text) = .ok (String.ofList text) :=
  soundText_encode text

theorem decode_nil_finishedHost : (finishedHost depth output errors).decode [] = .ok "" :=
  soundText_encode []

end

/-- A linter as it is made unless something else is chosen. -/
def plainLinter : ExternalLinter :=
  ⟨.default, "eslint", .whole 30, true, "/work"⟩

/-- The entry of a result for its messages, with one message that is empty. -/
def messagesEntry : List Char :=
  '"' :: ("messages".toList ++ '"' :: [':']) ++ "[\x7b\x7d]".toList

theorem denotes_messagesEntry (longest levels : Nat) :
    Json.DenotesEntries longest (levels + 2) messagesEntry
      [("messages", .list [.table []])] :=
  .last (.of_plain (by simp)) (.list (.last (.emptyTable Json.isBlanks_nil)))

/-- **An outcome that delivers messages gives one issue for each of them, in order, and every other
outcome gives none**, however many messages came before what is wrong with it. -/
theorem issues_allOrNothing (host : CommandHost) (l : ExternalLinter) (source : List Char)
    (path : String) :
    (∀ messages, Delivers host (host.run (l.lintCall (String.ofList source) path)) messages →
      List.Forall₂ (Reports path) messages ((l.linter host).issues source path)) ∧
    ((∀ messages, ¬Delivers host (host.run (l.lintCall (String.ofList source) path)) messages) →
      (l.linter host).issues source path = []) ∧
    (Fails host (host.run (l.lintCall (String.ofList source) path)) →
      (l.linter host).issues source path = []) :=
  ⟨fun _ => issues_of_delivers, issues_of_not_delivers,
    fun h => issues_of_not_delivers fun _ => h.not_delivers⟩

/-- A list of one result. -/
def soundOutput : List Char :=
  '[' :: ('\x7b' :: (messagesEntry ++ ['\x7d']) ++ [']'])

/-- A list of the same result and of one that is a text. -/
def brokenOutput : List Char :=
  '[' :: ('\x7b' :: (messagesEntry ++ ['\x7d']) ++ ',' :: "\"\"".toList ++ [']'])

theorem denotes_soundOutput (longest levels : Nat) :
    Json.Denotes longest (levels + 4) (String.ofList soundOutput).toList
      (.list [.table [("messages", .list [.table []])]]) := by
  rw [String.toList_ofList]
  exact .list (.last (.table (denotes_messagesEntry longest levels)))

/-- A message becomes an issue, unless a result behind it is broken. -/
theorem issues_allOrNothing_broken :
    List.Forall₂ (Reports "a.js") [.table []]
      ((plainLinter.linter (finishedHost 4 soundOutput [])).issues [] "a.js") ∧
    (plainLinter.linter (finishedHost 4 brokenOutput [])).issues [] "a.js" = [] := by
  constructor
  · exact (issues_allOrNothing (finishedHost 4 soundOutput []) plainLinter [] "a.js").1
      [[.table []]].flatten (.finished (.inl rfl) decode_encode_finishedHost decode_nil_finishedHost
        (denotes_soundOutput longestNumber 0) (.cons (.present rfl rfl) .nil)
        (List.forall_mem_singleton.2 ⟨_, rfl⟩))
  · have houtput : Json.Denotes longestNumber 4 (String.ofList brokenOutput).toList
        (.list [.table [("messages", .list [.table []])], .text ""]) := by
      rw [String.toList_ofList]
      exact .list (.more (.table (denotes_messagesEntry longestNumber 0)) (.last (.text .nil)))
    exact (issues_allOrNothing (finishedHost 4 brokenOutput []) plainLinter [] "a.js").2.2
      (.result decode_encode_finishedHost houtput (List.mem_cons_of_mem _ List.mem_cons_self) nofun)

/-! ## The limits of the reader -/

/-- A whole number with one digit more than is read. -/
def overlongDigits : List Char :=
  List.replicate (longestNumber + 1) '1'

/-- A list of one result, which has a long number in front of its messages. -/
def overlongOutput : List Char :=
  '[' :: ('\x7b' :: ((('"' :: ("n".toList ++ '"' :: [':'])) ++
    (overlongDigits ++ ',' :: messagesEntry)) ++ ['\x7d']) ++ [']'])

theorem isWhole_overlongDigits : Json.IsWhole overlongDigits := by
  refine .other nofun ⟨nofun, fun c hc => ?_⟩
  rw [List.eq_of_mem_replicate hc]
  rfl

/-- Were it not for the limit on digits, the output would be read as a list with this result. -/
theorem denotes_overlongOutput :
    Json.Denotes (longestNumber + 1) 4 (String.ofList overlongOutput).toList (.list [.table
      [("n", .int (Binary.signed false (Json.digitsOf overlongDigits))),
        ("messages", .list [.table []])]]) := by
  have hnumber : Json.Denotes (longestNumber + 1) 2 overlongDigits
      (.int (Binary.signed false (Json.digitsOf overlongDigits))) :=
    .scalar (.positive (.whole isWhole_overlongDigits (List.length_replicate).le))
  rw [String.toList_ofList]
  exact .list (.last (.table (.more (.of_plain (by simp)) hnumber
    (denotes_messagesEntry (longestNumber + 1) 0))))

/-- Nothing is delivered where the output is not read. -/
theorem issues_of_unread {depth : Nat} {output : List Char} {errors : List UInt8}
    (h : (Json.read depth output).isOk = false) :
    (plainLinter.linter (finishedHost depth output errors)).issues [] "a.js" = [] := by
  refine issues_of_not_delivers fun messages hdelivers => ?_
  cases hdelivers with
  | finished _ hdecoded _ houtput =>
    cases decode_encode_finishedHost.symm.trans hdecoded
    rw [String.toList_ofList] at houtput
    have hread : Json.read depth output = .ok _ := Json.read_eq_ok_iff.2 houtput
    rw [hread] at h
    cases h

/-- Nothing is delivered where something was written that is no text. -/
theorem issues_of_unsound {depth : Nat} {output : List Char} :
    (plainLinter.linter (finishedHost depth output [0xFF])).issues [] "a.js" = [] :=
  issues_of_not_delivers fun _ => (Fails.undecodable (.inr rfl)).not_delivers

/-- A list of results with messages gives no issues if there is a number in it that is too long, if it
is nested too deeply, or if something else that was written is no text. In each case all other limits
are kept. -/
theorem not_issues_unlimited :
    (¬∀ (host : CommandHost) (l : ExternalLinter) (source : List Char) (path : String) (code : Int)
      (output errors : List UInt8) (text complaint : String) (longest : Nat) (results : List Value)
      (told : List (List Value)),
      host.run (l.lintCall (String.ofList source) path) = .finished code output errors →
      code = 0 ∨ code = 1 → host.decode output = .ok text → host.decode errors = .ok complaint →
      Json.Denotes longest host.depth text.toList (.list results) →
      List.Forall₂ (fun result messages => result.IsTable ∧
        (result.get? "messages").getD (.list []) = .list messages) results told →
      (∀ message ∈ told.flatten, message.IsTable) →
      List.Forall₂ (Reports path) told.flatten ((l.linter host).issues source path)) ∧
    (¬∀ (host : CommandHost) (l : ExternalLinter) (source : List Char) (path : String) (code : Int)
      (output errors : List UInt8) (text complaint : String) (levels : Nat) (results : List Value)
      (told : List (List Value)),
      host.run (l.lintCall (String.ofList source) path) = .finished code output errors →
      code = 0 ∨ code = 1 → host.decode output = .ok text → host.decode errors = .ok complaint →
      Json.Denotes longestNumber levels text.toList (.list results) →
      List.Forall₂ (fun result messages => result.IsTable ∧
        (result.get? "messages").getD (.list []) = .list messages) results told →
      (∀ message ∈ told.flatten, message.IsTable) →
      List.Forall₂ (Reports path) told.flatten ((l.linter host).issues source path)) ∧
    ¬∀ (host : CommandHost) (l : ExternalLinter) (source : List Char) (path : String) (code : Int)
      (output errors : List UInt8) (text : String) (results : List Value)
      (told : List (List Value)),
      host.run (l.lintCall (String.ofList source) path) = .finished code output errors →
      code = 0 ∨ code = 1 → host.decode output = .ok text →
      Json.Denotes longestNumber host.depth text.toList (.list results) →
      List.Forall₂ (fun result messages => result.IsTable ∧
        (result.get? "messages").getD (.list []) = .list messages) results told →
      (∀ message ∈ told.flatten, message.IsTable) →
      List.Forall₂ (Reports path) told.flatten ((l.linter host).issues source path) := by
  -- Each output breaks the limit in question and keeps the other two.
  refine ⟨fun hall => ?_, fun hall => ?_, fun hall => ?_⟩
  · have hissues := hall (finishedHost 4 overlongOutput []) plainLinter [] "a.js" 0 _ [] _ _
      _ _ [[.table []]] rfl (.inl rfl) decode_encode_finishedHost
      decode_nil_finishedHost
      denotes_overlongOutput (.cons ⟨⟨_, rfl⟩, rfl⟩ .nil) (List.forall_mem_singleton.2 ⟨[], rfl⟩)
    rw [issues_of_unread (by decide +kernel)] at hissues
    cases hissues
  · have hissues := hall (finishedHost 3 soundOutput []) plainLinter [] "a.js" 0 _ [] _ _
      _ _ [[.table []]] rfl (.inl rfl) decode_encode_finishedHost
      decode_nil_finishedHost
      (denotes_soundOutput _ 0) (.cons ⟨⟨_, rfl⟩, rfl⟩ .nil)
      (List.forall_mem_singleton.2 ⟨[], rfl⟩)
    rw [issues_of_unread (by decide +kernel)] at hissues
    cases hissues
  · have hissues := hall (finishedHost 4 soundOutput [0xFF]) plainLinter [] "a.js" 0 _ [0xFF] _
      _ [[.table []]] rfl (.inl rfl) decode_encode_finishedHost
      (denotes_soundOutput _ 0) (.cons ⟨⟨_, rfl⟩, rfl⟩ .nil) (List.forall_mem_singleton.2 ⟨[], rfl⟩)
    rw [issues_of_unsound] at hissues
    cases hissues

end ExternalLinter

end ScriptAudit
