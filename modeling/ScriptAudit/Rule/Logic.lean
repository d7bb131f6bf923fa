import ScriptAudit.Rule.Family
import ScriptAudit.Rule.Vocabulary

/-!
# Slips of logic

Promises nobody waits for, functions that may not return a value, loops without an exit, network
calls in loops, comparisons with NaN.

* `isPromiseCall`, `isHandled`, `isApiCall`, `isVoid` : what calls and functions look like.
* `unhandledPromise`, `asyncWithoutTry`, `missingReturn`, `infiniteLoop`, `apiCallInLoop`,
  `nanComparison` : the rules.
* `Family.logic` : the family.
-/

namespace ScriptAudit.Logic

open Vocabulary

/-- The kinds of functions whose returns are checked. -/
def checkedFunctionKinds : List String :=
  ["function_declaration", "generator_function_declaration"]

/-- Whether a call gives a promise: by its method, or by the object it is called on. -/
def isPromiseCall (d : Document) (call : Node) : Bool :=
  call.callee?.any (·.kind == "member_expression")
    && (promiseMethods.contains (d.callMethod call)
      || promiseReceivers.any fun part =>
        Text.contains part.toList (d.receiverName call).toList)

/-- Whether a member access takes care of the promise it is on: it names a handler and is called
directly. -/
def isHandlerAccess (d : Document) (n : Node) : Bool :=
  n.kind == "member_expression" && promiseHandlers.contains (d.memberProperty (some n))
    && n.parent?.any (·.kind == "call_expression")

/-- Whether the promise of a call is taken care of, by the access around the call or by a call
inside it. -/
def isHandled (d : Document) (call : Node) : Bool :=
  call.outer?.any (isHandlerAccess d)
    || (call.innerOfKind ["call_expression"]).any fun inner =>
      promiseHandlers.contains (d.callMethod inner)

/-- The name a call goes by: the identifier called, or else the object of the method. -/
def calledName (d : Document) (call : Node) : String :=
  let name := d.calleeIdentifier call
  if name = "" then d.receiverName call else name

/-- Whether a call goes over the network. -/
def isApiCall (d : Document) (call : Node) : Bool :=
  let name := calledName d call
  name != "" && (apiNames.contains name || nameContains name apiFragments)

/-- Whether a function is declared to return nothing. -/
def isVoid (d : Document) (function : Node) : Bool :=
  match function.child? "return_type" with
  | some annotation =>
    Text.strip ((d.text annotation).toList.dropWhile (· == ':')) == "void".toList
  | none => false

/-- A promise that is neither awaited nor taken care of. -/
def unhandledPromise (d : Document) (n : Node) : List Finding :=
  if n.kind = "call_expression" && isPromiseCall d n
      && !n.outer?.any (·.kind == "await_expression") && !isHandled d n then
    [.plain n .error "UNHANDLED_PROMISE" "Unhandled promise - use await or .catch()"]
  else []

/-- An asynchronous function whose body holds no try statement. -/
def asyncWithoutTry (n : Node) : List Finding :=
  if checkedFunctionKinds.contains n.kind && n.isAsync
      && !(n.child? "body").any (·.contains ["try_statement"]) then
    [.plain n .warning "ASYNC_NO_TRY_CATCH" "Async function without try-catch block"]
  else []

/-- A function without a return statement that is not declared to return nothing. -/
def missingReturn (d : Document) (n : Node) : List Finding :=
  if checkedFunctionKinds.contains n.kind && !n.contains ["return_statement"] && !isVoid d n then
    [.plain n .warning "MISSING_RETURN" "Function may not return a value in all code paths"]
  else []

/-- A loop on a true condition without a break or return statement. -/
def infiniteLoop (n : Node) : List Finding :=
  if n.kind = "while_statement"
      && ((n.child? "condition").bind Node.unwrapped?).any (·.kind == "true")
      && !n.contains ["break_statement", "return_statement"] then
    [.plain n .error "INFINITE_LOOP" "Potential infinite loop detected"]
  else []

/-- A loop with a call over the network in it. -/
def apiCallInLoop (d : Document) (n : Node) : List Finding :=
  if n.kind = "for_statement" && (n.innerOfKind ["call_expression"]).any (isApiCall d) then
    [.plain n .warning "API_CALL_IN_LOOP"
      "API call inside loop - consider batching or using Promise.all()"]
  else []

/-- The operand that is compared with NaN. -/
def comparedWithNan? (d : Document) (n : Node) : Option (Option Node) :=
  let left := n.child? "left"
  let right := n.child? "right"
  if d.isIdentifierNamed right "NaN" then some left
  else if d.isIdentifierNamed left "NaN" then some right
  else none

/-- A comparison for equality with NaN, which never holds. -/
def nanComparison (d : Document) (n : Node) : List Finding :=
  if n.kind = "binary_expression" && equalityOperators.contains n.operator then
    match comparedWithNan? d n with
    | some other =>
      [⟨n, .error, "NAN_COMPARISON", "Use Number.isNaN() instead of comparing with NaN",
        some ⟨"Compare with Number.isNaN()", "Number.isNaN(" ++ d.text? other ++ ")"⟩⟩]
    | none => []
  else []

end ScriptAudit.Logic

namespace ScriptAudit

/-- Promises, returns, loops and NaN. -/
def Family.logic : Family where
  name := "logic"
  category := .logic
  Knowledge := Unit
  survey _ := ()
  rules d _ n :=
    Logic.unhandledPromise d n ++ Logic.asyncWithoutTry n ++ Logic.missingReturn d n
      ++ Logic.infiniteLoop n ++ Logic.apiCallInLoop d n ++ Logic.nanComparison d n

end ScriptAudit
