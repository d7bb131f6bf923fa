import ScriptAudit.Rule.Family
import ScriptAudit.Rule.Vocabulary

/-!
# Waste

Nested loops, texts put together in loops, arrays run over more than once, blocking calls in
asynchronous functions, and functions that are too long.

* `isChained`, `isBlockingCall` : what calls look like.
* `nestedLoops`, `concatenationInLoop`, `pushInForEach`, `multipleIterations`, `blockingInAsync`,
  `largeFunction` : the rules.
* `Family.performance` : the family, for a given longest function.
-/

namespace ScriptAudit.Performance

open Vocabulary

/-- The kinds of functions that are checked. -/
def checkedFunctionKinds : List String :=
  ["function_declaration", "generator_function_declaration"]

/-- Whether the result of a call is the object of a method that is called directly. -/
def isChained (call : Node) : Bool :=
  match call.parent? with
  | some access =>
    access.kind == "member_expression" && access.memberObject?.any (·.isSame call)
      && (match access.parent? with
        | some outer => outer.kind == "call_expression" && outer.callee?.any (·.isSame access)
        | none => false)
  | none => false

/-- Whether a call blocks on the file system. -/
def isBlockingCall (d : Document) (call : Node) : Bool :=
  fileSystemObjects.contains (d.receiverName call)
    && Text.endsWith blockingEnding (d.callMethod call)

/-- The number of loops inside a loop. -/
def innerLoops (n : Node) : Nat :=
  (n.innerOfKind loopKinds).length

/-- A loop with at least two loops in it. -/
def nestedLoops (n : Node) : List Finding :=
  if n.kind = "for_statement" && 2 ≤ innerLoops n then
    [.plain n .warning "NESTED_LOOPS"
      ("O(n^" ++ natText (innerLoops n + 1) ++ ") complexity detected - consider optimization")]
  else []

/-- A loop with an addition in it. -/
def concatenationInLoop (n : Node) : List Finding :=
  if n.kind = "for_statement"
      && (n.innerOfKind ["binary_expression"]).any (·.operator == "+") then
    [.plain n .info "STRING_CONCAT_LOOP"
      "String concatenation in loop - use array.join() or template literals"]
  else []

/-- A run over an array that pushes onto another. -/
def pushInForEach (d : Document) (n : Node) : List Finding :=
  if n.kind = "call_expression" && d.callMethod n == "forEach"
      && n.arguments?.any (fun arguments =>
        (arguments.innerOfKind ["call_expression"]).any fun inner => d.callMethod inner == "push")
  then
    [.plain n .info "INEFFICIENT_ARRAY_METHOD" "Use .map() instead of .forEach() with .push()"]
  else []

/-- A run over an array whose result another method is called on. -/
def multipleIterations (d : Document) (n : Node) : List Finding :=
  if n.kind = "call_expression" && iterationMethods.contains (d.callMethod n) && isChained n then
    [.plain n .info "MULTIPLE_ITERATIONS"
      "Multiple array iterations detected - consider combining operations"]
  else []

/-- An asynchronous function with a call in it that blocks on the file system. -/
def blockingInAsync (d : Document) (n : Node) : List Finding :=
  if checkedFunctionKinds.contains n.kind && n.isAsync
      && (n.innerOfKind ["call_expression"]).any (isBlockingCall d) then
    [.plain n .warning "SYNC_IN_ASYNC"
      "Synchronous operation in async function blocks the event loop"]
  else []

/-- A function that spans more lines than allowed. -/
def largeFunction (longest : Number) (d : Document) (n : Node) : List Finding :=
  if checkedFunctionKinds.contains n.kind && longest.isBelow (d.lineSpan n) then
    [.plain n .info "LARGE_FUNCTION"
      ("Large function (" ++ intText (d.lineSpan n) ++ " lines) - consider refactoring")]
  else []

end ScriptAudit.Performance

namespace ScriptAudit

/-- Loops, array pipelines and asynchronous functions; a function may span `longest` lines. -/
def Family.performance (longest : Number) : Family where
  name := "performance"
  category := .performance
  Knowledge := Unit
  survey _ := ()
  rules d _ n :=
    Performance.nestedLoops n ++ Performance.concatenationInLoop n
      ++ Performance.pushInForEach d n ++ Performance.multipleIterations d n
      ++ Performance.blockingInAsync d n ++ Performance.largeFunction longest d n

end ScriptAudit
