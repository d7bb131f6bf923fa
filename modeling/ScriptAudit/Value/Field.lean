import ScriptAudit.Value.Basic

/-!
# Fields of values

Short ways to what a value holds, for data whose shape is agreed on.

* `Value.isText` : whether a value is a text, torn or not.
* `Value.text?`, `Value.int?`, `Value.elements` : a value as a text, a whole number, or a list.
* `Value.field` : the value under a key, or nothing.
-/

namespace ScriptAudit.Value

/-- Whether a value is a text. -/
def isText : Value → Bool
  | .text _ | .torn _ => true
  | _ => false

/-- The text that a value is. -/
def text? : Value → Option String
  | .text s => some s
  | _ => none

/-- The whole number that a value is. -/
def int? : Value → Option Int
  | .int n => some n
  | .bool b => some b.toInt
  | _ => none

/-- The number that a value is, or zero. -/
def nat (value : Value) : Nat :=
  (value.int?.getD 0).toNat

/-- The items of a value that is a list. -/
def elements : Value → List Value
  | .list items => items
  | _ => []

/-- The texts among the items of a list. -/
def strings (value : Value) : List String :=
  value.elements.filterMap text?

/-- The value under a key, or the empty value. -/
def field (value : Value) (key : String) : Value :=
  (value.get? key).getD .null

/-- The text under a key, or another text. -/
def textField (value : Value) (key other : String) : String :=
  ((value.field key).text?).getD other

end ScriptAudit.Value
