import ScriptAudit.Value.Basic
import ScriptAudit.Text.Quoted
import ScriptAudit.Text.Refusal

/-!
# Values as text

* `Value.literal` : a value as an expression, texts in quotes.
* `Value.unwritable?` : why a value cannot be written.
* `Value.display` : a value in a message; a text stands for itself.
* `Value.isTorn` : whether a value is a text that cannot be shown as it is.
-/

namespace ScriptAudit.Value

mutual

/-- A value as an expression. -/
def literal : Value → String
  | .null => "None"
  | .bool b => if b then "True" else "False"
  | .int n => intText n
  | .float x => floatText x
  | .text s => Text.quoteString s
  | .torn t => Text.quoteTorn t
  | .list items => "[" ++ ", ".intercalate (literals items) ++ "]"
  | .table entries => "\x7b" ++ ", ".intercalate (entryLiterals entries) ++ "\x7d"
  | .moment m => m.literal

/-- The items of a list as expressions. -/
def literals : List Value → List String
  | [] => []
  | item :: items => literal item :: literals items

/-- The entries of a table as expressions. -/
def entryLiterals : List (String × Value) → List String
  | [] => []
  | (key, value) :: entries =>
    (Text.quoteString key ++ ": " ++ literal value) :: entryLiterals entries

end

/-- Whether a whole number has few enough digits to be written. -/
def isShort (n : Int) : Bool :=
  n.natAbs < Nat.pow 10 longestNumber

theorem isShort_iff {n : Int} : isShort n = true ↔ n.natAbs < Nat.pow 10 longestNumber := by
  rw [isShort, decide_eq_true_iff]

/-- One digit can be written. -/
theorem isShort_of_lt {n : Int} (h : n.natAbs < 10) : isShort n = true := by
  have hpower (k : Nat) (hk : k ≠ 0) : 10 ≤ Nat.pow 10 k := Nat.le_pow (Nat.pos_of_ne_zero hk)
  exact isShort_iff.2 (Nat.lt_of_lt_of_le h (hpower longestNumber (by decide)))

mutual

/-- Why a value cannot be written as an expression. What is in a collection needs room of its own, of
which there is so much. -/
def unwritable? (depth : Nat) : Value → Option Unwritable
  | .int n => if isShort n then none else some .tooLong
  | .list items => itemsUnwritable? depth items
  | .table entries => entriesUnwritable? depth entries
  | _ => none

/-- Why the items of a list cannot be written, the first reason coming first. -/
def itemsUnwritable? : Nat → List Value → Option Unwritable
  | _, [] => none
  | 0, _ :: _ => some .tooDeep
  | depth + 1, item :: items => (unwritable? depth item).or (itemsUnwritable? (depth + 1) items)

/-- Why the entries of a table cannot be written, the first reason coming first. -/
def entriesUnwritable? : Nat → List (String × Value) → Option Unwritable
  | _, [] => none
  | 0, _ :: _ => some .tooDeep
  | depth + 1, (_, value) :: entries =>
    (unwritable? depth value).or (entriesUnwritable? (depth + 1) entries)

end

/-- Whether a value is a text that nothing can be made of for a file or a console. -/
def isTorn : Value → Bool
  | .torn _ => true
  | _ => false

/-- A value in a message. What is torn in a text is replaced. -/
def display : Value → String
  | .text s => s
  | .torn t => t.text
  | .moment m => m.text
  | value => literal value

end ScriptAudit.Value
