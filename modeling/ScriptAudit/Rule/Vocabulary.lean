import ScriptAudit.Rule.Pattern
import ScriptAudit.Text.Case
import ScriptAudit.Text.Line

/-!
# Vocabulary

The rules go by names: user input, calls over the network and file system objects are recognised
by how they are spelled. The spellings are collected here.

* `nameContains` : whether a name holds some fragment, without regard to case.
* `isRedosProne` : whether a regular expression nests or repeats its quantifiers.
-/

namespace ScriptAudit.Vocabulary

/-! ## Promises and network calls -/

/-- Methods that give a promise. -/
def promiseMethods : List String := ["then", "fetch"]

/-- Parts of the names of objects whose methods give promises. -/
def promiseReceivers : List String := ["axios", "fetch"]

/-- Methods that take care of a promise when chained onto it. -/
def promiseHandlers : List String := ["then", "catch"]

/-- Names that stand for a call over the network by themselves. -/
def apiNames : List String := ["fetch", "axios"]

/-- Parts of names that stand for a call over the network. -/
def apiFragments : List String := ["http", "api"]

/-- The operators that compare for equality. -/
def equalityOperators : List String := ["==", "==="]

/-! ## Loops, arrays and files -/

/-- The kinds of loops. -/
def loopKinds : List String := ["for_statement", "while_statement"]

/-- Methods that run over an array. -/
def iterationMethods : List String := ["map", "filter", "reduce"]

/-- Names of the file system module. -/
def fileSystemObjects : List String := ["fs", "fse"]

/-- The ending of blocking methods. -/
def blockingEnding : String := "Sync"

/-! ## Security -/

/-- Functions that run text as code. -/
def evalFunctions : List String := ["eval"]

/-- Methods that take a database query, in lower case. -/
def sqlMethods : List String := ["query", "execute", "raw"]

/-- Methods that start a command, in lower case. -/
def commandMethods : List String := ["exec", "spawn", "execsync", "spawnsync"]

/-- Properties that expose the data of a request, in lower case. -/
def inputProperties : List String := ["body", "params", "query"]

/-- Identifiers that look like user input to a query, in lower case. -/
def sqlInputNames : List String := ["body", "params", "query", "username", "email", "password"]

/-- Identifiers that look like user input to a command, in lower case. -/
def commandInputNames : List String := ["body", "params", "query", "username", "password", "token"]

/-- Parts of the names of secrets. -/
def secretFragments : List String := ["password", "secret", "key", "token"]

/-- A literal must be longer than this to count as a secret. -/
def longestPlaceholder : Nat := 8

/-- Properties that take markup. -/
def markupProperties : List String := ["innerHTML"]

/-- Whether a name holds some fragment, without regard to case. -/
def nameContains (name : String) (fragments : List String) : Bool :=
  let lowered := Text.lower name.toList
  fragments.any fun fragment => Text.contains fragment.toList lowered

/-! ## Quantifiers -/

/-- A character that opens a quantifier. -/
def opensQuantifier (c : Char) : Bool :=
  c == '+' || c == '*' || c == '\x7b'

/-- Any character but a line end. -/
def withinLine (c : Char) : Bool :=
  c != '\n'

/-- A quantifier and a later one on the same line, perhaps after a group. -/
def nestedQuantifiers : Pattern :=
  .andThen
    (.optional (.andThen (.exactly '(') (.andThen (.many (.char (· != ')'))) (.exactly ')'))))
    (.andThen (.char opensQuantifier)
      (.andThen (.many (.char withinLine)) (.char opensQuantifier)))

/-- A digit or a comma, as they stand in a counted quantifier. -/
def isCountChar (c : Char) : Bool :=
  c.isDigit || c == ','

/-- Two quantifiers in a row. -/
def repeatedQuantifiers : Pattern :=
  .repeated (.either (.exactly '*') (.either (.exactly '+')
    (.andThen (.exactly '\x7b') (.andThen (.some (.char isCountChar)) (.exactly '\x7d')))))

/-- Whether a regular expression nests or repeats its quantifiers, so that matching it may take
exponential time. -/
def isRedosProne (expression : List Char) : Bool :=
  nestedQuantifiers.occursIn expression || repeatedQuantifiers.occursIn expression

end ScriptAudit.Vocabulary
