import ScriptAudit.Rule.Family

/-!
# Leftovers in the syntax

Bindings that nothing uses, statements after a return, traces of debugging, empty blocks.

* `references` : the identifiers of a document with the bytes they cover.
* `bindingScope` : the node within which a binding can be used.
* `unusedVariable`, `unreachableCode`, `consoleStatement`, `debuggerStatement`, `emptyBlock` : the
  rules.
* `Family.syntactic` : the family.
-/

namespace ScriptAudit.Syntactic

/-- The kinds of nodes that use a binding by its name. -/
def referenceKinds : List String := ["identifier", "shorthand_property_identifier"]

/-- The kinds that bound a binding made with `var`. -/
def functionScopeKinds : List String :=
  functionKinds ++ ["method_definition", "class_static_block", "program"]

/-- The kinds that bound any other binding. -/
def blockScopeKinds : List String :=
  ["statement_block", "switch_body", "for_statement", "for_in_statement", "class_static_block",
    "program"]

/-- The parents that make a declaration visible outside the file. -/
def externalKinds : List String := ["export_statement", "ambient_declaration"]

/-- An identifier: its spelling and the bytes it covers. -/
structure Reference where
  name : String
  start : Nat
  stop : Nat
  deriving DecidableEq, Repr

/-- The identifiers below the root of a document. -/
def references (d : Document) : List Reference :=
  (d.root.innerOfKind referenceKinds).map fun n => ⟨d.text n, n.label.start, n.label.stop⟩

/-- The kinds that bound the bindings of a declaration. -/
def scopeKinds (declaration : Node) : List String :=
  if declaration.kind = "variable_declaration" then functionScopeKinds else blockScopeKinds

/-- The node within which the bindings of a declaration can be used: the nearest one above of the
right kind, or else the root of the document. -/
def bindingScope (d : Document) (declaration : Node) : Node :=
  (declaration.ancestors.find? fun n => (scopeKinds declaration).contains n.kind).getD d.root

/-- Whether a reference lies within a node. -/
def Reference.isWithin (r : Reference) (scope : Node) : Bool :=
  scope.label.start ≤ r.start && r.stop ≤ scope.label.stop

/-- Whether a declaration is visible outside the file. -/
def isExternal (declaration : Node) : Bool :=
  declaration.parent?.any fun n => externalKinds.contains n.kind

/-- Whether something other than the binding itself uses its name within a node. -/
def isUsed (d : Document) (known : List Reference) (binding scope : Node) : Bool :=
  let name := d.text binding
  known.any fun r =>
    r.name == name && !(r.start == binding.label.start && r.stop == binding.label.stop)
      && r.isWithin scope

/-- A variable that nothing within its scope uses. -/
def unusedVariable (d : Document) (known : List Reference) (n : Node) : List Finding :=
  if n.kind = "variable_declarator" then
    match n.child? "name", n.parent? with
    | some binding, some declaration =>
      if binding.isIdentifier && !isExternal declaration
          && !isUsed d known binding (bindingScope d declaration) then
        [.plain n .warning "UNUSED_VARIABLE" ("Unused variable: " ++ d.text binding)]
      else []
    | _, _ => []
  else []

/-- The next named sibling that is not a comment. -/
def nextStatement? (n : Node) : Option Node :=
  n.laterSiblings.find? fun later => later.label.named && later.kind != "comment"

/-- The statement after a return statement. -/
def unreachableCode (n : Node) : List Finding :=
  if n.kind = "return_statement" && n.parent?.any (statementListKinds.contains ·.kind) then
    match nextStatement? n with
    | some statement =>
      [.plain statement .warning "UNREACHABLE_CODE" "Unreachable code detected after return statement"]
    | none => []
  else []

/-- A call of a method of the console. -/
def consoleStatement (d : Document) (n : Node) : List Finding :=
  if n.kind = "call_expression"
      && d.isIdentifierNamed (n.callee?.bind Node.memberObject?) "console" then
    [.plain n .info "CONSOLE_STATEMENT" ("Console." ++ d.callMethod n ++ " statement detected")]
  else []

/-- A breakpoint left in the code. -/
def debuggerStatement (n : Node) : List Finding :=
  if n.kind = "debugger_statement" then
    [⟨n, .warning, "DEBUGGER_STATEMENT", "Debugger statement should be removed",
      some ⟨"Remove the debugger statement", ""⟩⟩]
  else []

/-- A block with nothing in it but comments. -/
def emptyBlock (n : Node) : List Finding :=
  if n.kind = "statement_block" && n.namedChildren.all (·.kind == "comment") then
    [.plain n .info "EMPTY_BLOCK" "Empty code block detected"]
  else []

end ScriptAudit.Syntactic

namespace ScriptAudit

/-- Unused bindings, dead statements and leftovers. -/
def Family.syntactic : Family where
  name := "syntax"
  category := .syntactic
  Knowledge := List Syntactic.Reference
  survey := Syntactic.references
  rules d known n :=
    Syntactic.unusedVariable d known n ++ Syntactic.unreachableCode n
      ++ Syntactic.consoleStatement d n ++ Syntactic.debuggerStatement n ++ Syntactic.emptyBlock n

end ScriptAudit
