import ScriptAudit.Text.Blank
import ScriptAudit.Tree.Document
import ScriptAudit.Tree.Walk

/-!
# Reading nodes

What the nodes of a script mean: functions, calls, member accesses, literals.

* `functionKinds`, `classKinds`, `statementListKinds` : the kinds that matter by themselves.
* `Node.unwrapped?`, `Node.outer?` : a node without the parentheses around it, and the nearest
  node outside of them.
* `Node.callee?`, `Document.callMethod`, ... : the parts of a call.
* `Document.stringValue?` : the contents of a string literal.
-/

namespace ScriptAudit

/-- The kinds of function nodes. -/
def functionKinds : List String :=
  ["function_declaration", "generator_function_declaration", "function_expression", "function",
    "generator_function", "arrow_function"]

/-- The kinds of class declarations. -/
def classKinds : List String :=
  ["class_declaration", "abstract_class_declaration"]

/-- The kinds whose children form an ordered list of statements. -/
def statementListKinds : List String :=
  ["program", "statement_block", "switch_case", "switch_default", "class_static_block"]

/-- The kind of a pair of parentheses. -/
def parenthesesKind : String := "parenthesized_expression"

namespace Node

/-- A named child is smaller than its parent. -/
theorem size_lt_of_mem_namedChildren {n m : Node} (h : m ∈ n.namedChildren) : m.size < n.size := by
  have hle : m.size ≤ sizes n.namedChildren := by
    generalize n.namedChildren = nodes at h
    induction nodes with
    | nil => simp at h
    | cons a nodes ih =>
      rw [sizes_cons]
      rcases List.mem_cons.1 h with rfl | h
      · omega
      · have := ih h; omega
  have := sizes_namedChildren_lt n
  omega

/-- What stands inside any number of parentheses; nothing if some pair is empty. -/
def unwrapped? (n : Node) : Option Node :=
  if n.kind = parenthesesKind then
    match _first : n.namedChildren with
    | [] => none
    | inside :: _ => inside.unwrapped?
  else some n
termination_by n.size
decreasing_by exact size_lt_of_mem_namedChildren (by simp [_first])

/-- The nearest node above that is no pair of parentheses. -/
def outer? : Node → Option Node
  | root _ => none
  | child parent _ _ => if parent.kind = parenthesesKind then parent.outer? else some parent

/-- Whether a function is asynchronous. -/
def isAsync (n : Node) : Bool :=
  n.children.any (·.kind == "async")

/-- The operator of an operation. -/
def operator (n : Node) : String :=
  ((n.child? "operator").map kind).getD ""

/-- Whether a node is an identifier. -/
def isIdentifier (n : Node) : Bool :=
  n.kind == "identifier"

/-- The object of a member access. -/
def memberObject? (n : Node) : Option Node :=
  if n.kind = "member_expression" then n.child? "object" else none

/-- What a call calls. -/
def callee? (call : Node) : Option Node :=
  call.child? "function"

/-- The argument list of a call. -/
def arguments? (call : Node) : Option Node :=
  call.child? "arguments"

end Node

namespace Document

/-- Whether a node is an identifier with the given spelling. -/
def isIdentifierNamed (d : Document) (n : Option Node) (name : String) : Bool :=
  n.any fun n => n.isIdentifier && d.text n == name

/-- The property of a member access, or the empty text. -/
def memberProperty (d : Document) (n : Option Node) : String :=
  match n with
  | some n => if n.kind = "member_expression" then d.text? (n.child? "property") else ""
  | none => ""

/-- The method that a call calls on an object, or the empty text. -/
def callMethod (d : Document) (call : Node) : String :=
  d.memberProperty call.callee?

/-- The text of an identifier, or the empty text. -/
def identifierText (d : Document) (n : Option Node) : String :=
  match n with
  | some n => if n.isIdentifier then d.text n else ""
  | none => ""

/-- The identifier on which a call calls a method, or the empty text. -/
def receiverName (d : Document) (call : Node) : String :=
  d.identifierText (call.callee?.bind Node.memberObject?)

/-- The identifier that a call calls, or the empty text. -/
def calleeIdentifier (d : Document) (call : Node) : String :=
  d.identifierText call.callee?

/-- The text between the quotes of a literal; a text without matching quotes is left alone. -/
def unquoted (raw : List Char) : List Char :=
  match raw with
  | quote :: rest =>
    if (quote = '\'' ∨ quote = '"') ∧ rest.getLast? = some quote then rest.dropLast else raw
  | [] => raw

/-- The contents of a string literal. -/
def stringValue? (d : Document) (n : Option Node) : Option (List Char) :=
  match n with
  | some n => if n.kind = "string" then some (unquoted (Utf8.decode (d.slice n))) else none
  | none => none

end Document

end ScriptAudit
