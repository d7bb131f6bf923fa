import ScriptAudit.Rule.Family
import ScriptAudit.Rule.Vocabulary

/-!
# Security risks

Code made from text, queries and commands made from user input, secrets in the source, regular
expressions that may take exponential time, markup put into a page.

* `readsUserInput` : whether something at or below a node looks like the data of a request.
* `dangerousEval`, `sqlInjection`, `commandInjection`, `hardcodedSecret`, `redosVulnerability`,
  `xssRisk` : the rules.
* `Family.security` : the family.
-/

namespace ScriptAudit.Security

open Vocabulary

/-- Whether a node looks like user input: a property of a request, or an identifier from a list. -/
def isUserInput (d : Document) (names : List String) (n : Node) : Bool :=
  if n.kind = "member_expression" then
    inputProperties.contains (Text.lowerString (d.memberProperty (some n)))
  else n.isIdentifier && names.contains (Text.lowerString (d.text n))

/-- Whether something at or below one of the nodes looks like user input. -/
def readsUserInput (d : Document) (names : List String) (nodes : List (Option Node)) : Bool :=
  nodes.any fun n => n.any fun n => n.reached.any (isUserInput d names)

/-- The name of what a call calls, in lower case: an identifier, or else a method. -/
def calledName (d : Document) (call : Node) : String :=
  let name := d.calleeIdentifier call
  Text.lowerString (if name = "" then d.callMethod call else name)

/-- A call that runs text as code. -/
def dangerousEval (d : Document) (n : Node) : List Finding :=
  if n.kind = "call_expression" && evalFunctions.contains (d.calleeIdentifier n) then
    [.plain n .error "DANGEROUS_EVAL" "Use of eval() is dangerous and should be avoided"]
  else []

/-- A query that reads user input, in its arguments or in the object it is called on. -/
def sqlInjection (d : Document) (n : Node) : List Finding :=
  if n.kind = "call_expression" && sqlMethods.contains (calledName d n)
      && readsUserInput d sqlInputNames [n.arguments?, n.callee?.bind Node.memberObject?] then
    [.plain n .error "SQL_INJECTION" "Potential SQL injection - use parameterized queries"]
  else []

/-- A command that reads user input in its arguments. -/
def commandInjection (d : Document) (n : Node) : List Finding :=
  if n.kind = "call_expression" && commandMethods.contains (calledName d n)
      && readsUserInput d commandInputNames [n.arguments?] then
    [.plain n .error "COMMAND_INJECTION" "Command execution with user input - validate and sanitize"]
  else []

/-- A variable named like a secret that is given a literal of some length. -/
def hardcodedSecret (d : Document) (n : Node) : List Finding :=
  if n.kind = "variable_declarator" then
    match n.child? "name", d.stringValue? (n.child? "value") with
    | some binding, some value =>
      if binding.isIdentifier && longestPlaceholder < value.length
          && nameContains (d.text binding) secretFragments then
        [.plain n .error "HARDCODED_SECRET" "Hardcoded secret detected - use environment variables"]
      else []
    | _, _ => []
  else []

/-- The first argument that is not a comment. -/
def firstArgument? (arguments : Node) : Option Node :=
  arguments.namedChildren.find? (·.kind != "comment")

/-- A regular expression built from a literal with nested or repeated quantifiers. -/
def redosVulnerability (d : Document) (n : Node) : List Finding :=
  if n.kind = "new_expression" && d.isIdentifierNamed (n.child? "constructor") "RegExp"
      && (d.stringValue? (n.arguments?.bind firstArgument?)).any isRedosProne then
    [.plain n .warning "REDOS_VULNERABILITY"
      "Regular expression may be vulnerable to ReDoS attacks"]
  else []

/-- The kinds of assignments. -/
def assignmentKinds : List String := ["assignment_expression", "augmented_assignment_expression"]

/-- An assignment of markup to a part of a page. -/
def xssRisk (d : Document) (n : Node) : List Finding :=
  if assignmentKinds.contains n.kind
      && markupProperties.contains (d.memberProperty (n.child? "left")) then
    [.plain n .warning "XSS_RISK" "innerHTML usage can lead to XSS - use textContent or sanitize"]
  else []

end ScriptAudit.Security

namespace ScriptAudit

/-- Code execution, injection, secrets, regular expressions and markup sinks. -/
def Family.security : Family where
  name := "security"
  category := .security
  Knowledge := Unit
  survey _ := ()
  rules d _ n :=
    Security.dangerousEval d n ++ Security.sqlInjection d n ++ Security.commandInjection d n
      ++ Security.hardcodedSecret d n ++ Security.redosVulnerability d n ++ Security.xssRisk d n

end ScriptAudit
