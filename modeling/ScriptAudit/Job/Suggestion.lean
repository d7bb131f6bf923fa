import ScriptAudit.Failure.Basic
import ScriptAudit.Format.Limit
import ScriptAudit.Issue.Basic

/-!
# Suggestions

Proposals for improvement that follow from issues.

* `Suggestion` : a proposal.
* `suggestions`, `suggestionsWithin` : a placeholder for each of the first few issues.
-/

namespace ScriptAudit

/-- A proposal for improvement. -/
structure Suggestion where
  category : String
  title : String
  description : String
  file : String
  codeBefore : Value
  codeAfter : String
  priority : String
  confidence : Float

namespace Suggestion

/-- A proposal about no file in particular. -/
def general (category title description : String) : Suggestion :=
  ⟨category, title, description, "unknown", .text "", "", "medium", 0.9⟩

/-- A proposal as data. -/
def toValue (s : Suggestion) : Value :=
  .table [("type", .text s.category), ("title", .text s.title),
    ("description", .text s.description), ("file", .text s.file), ("codeBefore", s.codeBefore),
    ("codeAfter", .text s.codeAfter), ("priority", .text s.priority),
    ("confidence", .float s.confidence)]

/-- The longest code that a proposal quotes. -/
def quotedLength : Nat := 80

/-- The first part of a code, which has to be a text or a list. -/
def quoted : Value → Except Failure Value
  | .text code => .ok (.text (String.ofList (code.toList.take quotedLength)))
  | .list items => .ok (.list (items.take quotedLength))
  | .table _ => .error (.ofFault .wrongType "unhashable type: 'slice'")
  | other =>
    .error (.ofFault .wrongType ("'" ++ other.typeName ++ "' object is not subscriptable"))

/-- The placeholder for an issue, given its number. -/
def ofIssue (number : Nat) (issue : Issue) : Except Failure Suggestion :=
  let file := if issue.filePath = "" then "unknown" else issue.filePath
  (quoted issue.code).map fun code =>
    { category := "logic", title := "Suggestion for Issue #" ++ natText number
      description := "Refactor code in " ++ file ++ " for clarity.", file, codeBefore := code
      codeAfter := "// TODO: refactor code here.", priority := "low", confidence := 0.7 }

/-- The placeholders for issues, numbered from a number on. -/
def ofIssues : Nat → List Issue → Except Failure (List Suggestion)
  | _, [] => .ok []
  | number, issue :: issues => do
    let first ← ofIssue number issue
    let rest ← ofIssues (number + 1) issues
    return first :: rest

end Suggestion

/-- The usual limit of suggestions. -/
def usualSuggestions : Int := 5

/-- Placeholders for the issues up to a limit. -/
def suggestions (limit : Int) (issues : List Issue) : Except Failure (List Suggestion) :=
  Suggestion.ofIssues 1 (limited limit issues)

/-- The same for a limit of any shape; an absent one is no limit. -/
def suggestionsWithin (limit : Value) (issues : List Issue) : Except Failure (List Suggestion) :=
  match limit, limit.int? with
  | .null, _ => Suggestion.ofIssues 1 issues
  | _, some limit => suggestions limit issues
  | _, none => .error (.ofFault .wrongType "slice indices must be integers or None")

/-- Each issue gets a placeholder, if any do. -/
theorem Suggestion.length_ofIssues {number : Nat} {issues : List Issue} {made : List Suggestion}
    (h : ofIssues number issues = .ok made) : made.length = issues.length := by
  induction issues generalizing number made with
  | nil =>
    cases h
    rfl
  | cons issue issues ih =>
    rw [ofIssues] at h
    cases hfirst : ofIssue number issue with
    | error failure =>
      rw [hfirst] at h
      cases h
    | ok first =>
      cases hrest : ofIssues (number + 1) issues with
      | error failure =>
        rw [hfirst, hrest] at h
        cases h
      | ok rest =>
        rw [hfirst, hrest] at h
        cases h
        rw [List.length_cons, List.length_cons, ih hrest]

/-- There are no more placeholders than the limit allows, and by default no more than the usual
number. -/
theorem length_suggestionsWithin_le {limit : Nat} {issues : List Issue} {made : List Suggestion}
    (h : suggestionsWithin (.int limit) issues = .ok made) : made.length ≤ limit := by
  have hlimited : limited (limit : Int) issues = issues.take limit := by
    rw [limited, if_neg (by omega), Int.toNat_natCast]
  rw [Suggestion.length_ofIssues h, hlimited]
  exact List.length_take_le ..

example {issues : List Issue} {made : List Suggestion}
    (h : suggestionsWithin (.int usualSuggestions) issues = .ok made) : made.length ≤ 5 :=
  length_suggestionsWithin_le h

end ScriptAudit
