import ScriptAudit.Text.Refusal
import ScriptAudit.Value.Field
import ScriptAudit.Value.Text

/-!
# Failures

Why something could not be done. A problem is foreseen: it has a kind, a message and named
details. A fault is anything else that goes wrong, such as data of the wrong shape.

* `Problem`, `Problem.Kind` : the foreseen failures, and how their kinds specialise each other.
* `Problem.details` : the named details, without those that are absent.
* `Problem.text`, `Problem.summary` : a problem in full, and in short.
* `Problem.ofValues` : a problem made from values of any shape.
* `Fault`, `Failure` : the other failures, and both together.
* `Value.told` : a value in a message, or the failure to write it.
-/

namespace ScriptAudit

/-- A foreseen failure. -/
inductive Problem where
  | general (message : Value) (details : List (String × Value))
  | analysis (message : Value) (details : List (String × Value))
  | configuration (message : Value) (details : List (String × Value))
  | fileAccess (path reason : Value)
  | lint (path reason exitCode : Value)
  | invalidSetting (key value reason : Value)
  | invalidPath (path reason : Value)

namespace Problem

/-- The kinds of problems. -/
inductive Kind where
  | general
  | analysis
  | configuration
  | fileAccess
  | lint
  | invalidSetting
  | invalidPath
  deriving DecidableEq, Repr

namespace Kind

/-- All kinds, the more general ones first. -/
def all : List Kind :=
  [general, analysis, configuration, fileAccess, lint, invalidSetting, invalidPath]

/-- The kind that a kind specialises. -/
def parent? : Kind → Option Kind
  | general => none
  | analysis | configuration => some general
  | fileAccess | lint => some analysis
  | invalidSetting | invalidPath => some configuration

/-- Whether a kind is another one or specialises it, directly or not. -/
def isA (kind other : Kind) : Bool :=
  kind == other || kind.parent? == some other || (kind.parent?.bind parent?) == some other

theorem mem_all (kind : Kind) : kind ∈ all := by
  cases kind <;> decide

theorem isA_refl (kind : Kind) : kind.isA kind = true := by
  cases kind <;> decide

/-- Every problem is one in general. -/
theorem isA_general (kind : Kind) : kind.isA general = true := by
  cases kind <;> decide

theorem isA_trans {kind other third : Kind} (h : kind.isA other = true)
    (hother : other.isA third = true) : kind.isA third = true := by
  have hall : ∀ kind ∈ all, ∀ other ∈ all, ∀ third ∈ all,
      kind.isA other = true → other.isA third = true → kind.isA third = true := by
    decide
  exact hall _ (mem_all _) _ (mem_all _) _ (mem_all _) h hother

/-- No two kinds specialise each other. -/
theorem isA_antisymm {kind other : Kind} (h : kind.isA other = true) (hother : other.isA kind = true) :
    kind = other := by
  have hall : ∀ kind ∈ all, ∀ other ∈ all,
      kind.isA other = true → other.isA kind = true → kind = other := by
    decide
  exact hall _ (mem_all _) _ (mem_all _) h hother

end Kind

/-- The kind of a problem. -/
def kind : Problem → Kind
  | general .. => .general
  | analysis .. => .analysis
  | configuration .. => .configuration
  | fileAccess .. => .fileAccess
  | lint .. => .lint
  | invalidSetting .. => .invalidSetting
  | invalidPath .. => .invalidPath

/-- What went wrong, without the details. -/
def message : Problem → Value
  | general message _ | analysis message _ | configuration message _ => message
  | fileAccess path _ => .text ("Cannot access file: " ++ path.display)
  | lint path _ _ => .text ("Lint failed for " ++ path.display)
  | invalidSetting key value _ =>
    .text ("Invalid configuration for " ++ key.display ++ ": " ++ value.display)
  | invalidPath path _ => .text ("Invalid path: " ++ path.display)

/-- Everything a problem was given, absent values included. -/
def givenDetails : Problem → List (String × Value)
  | general _ details | analysis _ details | configuration _ details => details
  | fileAccess path reason => [("filepath", path), ("reason", reason)]
  | lint path reason exitCode => [("filepath", path), ("reason", reason), ("exit_code", exitCode)]
  | invalidSetting key value reason => [("key", key), ("value", value), ("reason", reason)]
  | invalidPath path reason => [("path", path), ("reason", reason)]

/-- The text of a detail that is present. -/
def detailText? : Value → Option String
  | .null => none
  | value => some value.display

/-- The details as text; an absent value is left out. -/
def details (p : Problem) : List (String × String) :=
  p.givenDetails.filterMap fun (key, value) => (detailText? value).map (key, ·)

/-- The message, followed by the reason if one is known. -/
def summary (p : Problem) : Value :=
  match lookup? "reason" p.details with
  | some reason => if reason = "" then p.message else .text (p.message.display ++ ": " ++ reason)
  | none => p.message

/-- The message, followed by all details. -/
def text (p : Problem) : String :=
  if p.details.isEmpty then p.message.display
  else p.message.display ++ " ("
    ++ ", ".intercalate (p.details.map fun (key, value) => key ++ "=" ++ value) ++ ")"

/-- Whether a problem can be told: a message that stands alone has to be text. -/
def isTellable (p : Problem) : Bool :=
  !p.details.isEmpty || p.message.isText

end Problem

/-- The kinds of failures that are not foreseen. -/
inductive Fault.Kind where
  | wrongValue
  | wrongType
  | wrongShape
  | unknownKey
  | outOfRange
  | dividedByZero
  | tooDeep
  | disconnected
  | inaccessible
  | undetermined
  | unencodable
  deriving DecidableEq, Repr

/-- A failure that is not foreseen. -/
structure Fault where
  kind : Fault.Kind
  message : String
  deriving DecidableEq, Repr

/-- The fault of data that cannot be written. -/
def Fault.unwritable : Unwritable → Fault
  | .tooLong => ⟨.wrongValue, Unwritable.tooLong.text⟩
  | .tooDeep => ⟨.tooDeep, Unwritable.tooDeep.text⟩

/-- The fault of printing a torn text. Where it is torn is not told. -/
def Fault.torn : Fault :=
  ⟨.unencodable, "surrogates not allowed"⟩

/-- Any failure. -/
inductive Failure where
  | problem (problem : Problem)
  | fault (fault : Fault)

namespace Failure

/-- The text of a failure. -/
def text : Failure → String
  | problem p => p.text
  | fault f => f.message

/-- A fault of a given kind. -/
def ofFault (kind : Fault.Kind) (message : String) : Failure :=
  .fault ⟨kind, message⟩

/-- A refused text as a fault. -/
def ofRefusal (r : Refusal) : Failure :=
  match r with
  | .tooDeep => ofFault .tooDeep r.text
  | _ => ofFault .wrongValue r.text

/-- The failure to hand a path to the system, since a NUL ends it there. -/
def brokenPath : Failure :=
  ofFault .wrongValue "embedded null byte"

/-- The failure to write a value. -/
def ofUnwritable (reason : Unwritable) : Failure :=
  .fault (.unwritable reason)

/-- A problem without details. -/
def general (message : String) : Failure :=
  .problem (.general (.text message) [])

end Failure

/-- A value in a message, if it can be written. What is nested in it has so much room. -/
def Value.told (depth : Nat) (value : Value) : Except Failure String :=
  match value.unwritable? depth with
  | some reason => .error (.ofUnwritable reason)
  | none => .ok value.display

namespace Problem

/-- The details that a value stands for: those of a table, or none. -/
def detailsOf : Value → Except Failure (List (String × Value))
  | .table details => .ok details
  | other =>
    if other.isSet then
      .error (.ofFault .wrongShape ("'" ++ other.typeName ++ "' object has no attribute 'items'"))
    else .ok []

/-- The problem of a kind that is made from values of any shape. -/
def ofValues (kind : Kind) (values : List Value) : Except Failure Problem :=
  match kind, values with
  | .general, [message] => .ok (.general message [])
  | .general, [message, details] => (detailsOf details).map (.general message)
  | .analysis, [message] => .ok (.analysis message [])
  | .analysis, [message, details] => (detailsOf details).map (.analysis message)
  | .configuration, [message] => .ok (.configuration message [])
  | .configuration, [message, details] => (detailsOf details).map (.configuration message)
  | .fileAccess, [path, reason] => .ok (.fileAccess path reason)
  | .lint, [path, reason] => .ok (.lint path reason .null)
  | .lint, [path, reason, exitCode] => .ok (.lint path reason exitCode)
  | .invalidSetting, [key, value, reason] => .ok (.invalidSetting key value reason)
  | .invalidPath, [path, reason] => .ok (.invalidPath path reason)
  | _, _ => .error (.ofFault .wrongType "wrong number of arguments")

/-- The same, if the problem can be told. -/
def tellableOfValues (kind : Kind) (values : List Value) : Except Failure Problem := do
  let p ← ofValues kind values
  if p.isTellable then return p
  else throw (.ofFault .wrongType
    ("__str__ returned non-string (type " ++ p.message.typeName ++ ")"))

theorem kind_of_ofValues {kind : Kind} {values : List Value} {p : Problem}
    (h : ofValues kind values = .ok p) : p.kind = kind := by
  have hdetails {make : List (String × Value) → Problem} {details : Value}
      (hkind : ∀ details, (make details).kind = kind)
      (hmade : (detailsOf details).map make = .ok p) : p.kind = kind := by
    cases hof : detailsOf details with
    | error failure =>
      rw [hof] at hmade
      cases hmade
    | ok details =>
      rw [hof] at hmade
      cases hmade
      exact hkind details
  unfold ofValues at h
  split at h
  case h_2 | h_4 | h_6 => exact hdetails (fun _ => rfl) h
  all_goals
    cases h
  all_goals rfl

/-- A problem that is made from values is of the kind asked for, and can be told. -/
theorem tellableOfValues_spec {kind : Kind} {values : List Value} {p : Problem}
    (h : tellableOfValues kind values = .ok p) : p.kind = kind ∧ p.isTellable = true := by
  unfold tellableOfValues at h
  cases hmade : ofValues kind values with
  | error failure =>
    rw [hmade] at h
    cases h
  | ok made =>
    rw [hmade] at h
    cases htold : made.isTellable with
    | false => simp [bind, Except.bind, htold, throw, throwThe, MonadExceptOf.throw] at h
    | true =>
      simp only [bind, Except.bind, htold, if_true, pure, Except.pure, Except.ok.injEq] at h
      exact ⟨h ▸ kind_of_ofValues hmade, h ▸ htold⟩

end Problem

end ScriptAudit
