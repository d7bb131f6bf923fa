import ScriptAudit.Text.Rune
import ScriptAudit.Value.Moment

/-!
# Values

What a settings file or a linter may say: data whose shape is known only when it is read.

* `Value` : the values; a table keeps the order of its keys, and no key occurs twice in a table
  built with `insertEntry`.
* `Value.ofRunes` : the text of some runes, which may be torn; `Value.runes?` gives them back.
* `Value.isSet` : whether a value counts as present; zero, the empty text and empty collections do
  not.
* `Number` : the values that take part in arithmetic; a truth value counts as zero or one.
* `Number.toValue` : the value that a number was.
-/

namespace ScriptAudit

/-- Data of any shape. -/
inductive Value where
  | null
  | bool (value : Bool)
  | int (value : Int)
  | float (value : Float)
  | text (value : String)
  | torn (value : Torn)
  | list (items : List Value)
  | table (entries : List (String × Value))
  | moment (value : Moment)
  deriving Inhabited

/-- Puts a value under a key: in the place of the value already there, else at the end. -/
def insertEntry {α : Type} (key : String) (value : α) : List (String × α) → List (String × α)
  | [] => [(key, value)]
  | (k, v) :: rest =>
    if k = key then (k, value) :: rest else (k, v) :: insertEntry key value rest

/-- The value under a key. -/
def lookup? {α : Type} (key : String) : List (String × α) → Option α
  | [] => none
  | (k, v) :: rest => if k = key then some v else lookup? key rest

/-- What a look-up finds is one of the entries. -/
theorem mem_of_lookup? {α : Type} {key : String} {value : α} {entries : List (String × α)}
    (h : lookup? key entries = some value) : (key, value) ∈ entries := by
  induction entries with
  | nil => cases h
  | cons entry rest ih =>
    obtain ⟨k, v⟩ := entry
    rw [lookup?] at h
    split at h
    · rename_i hk
      cases h
      exact hk ▸ List.mem_cons_self
    · exact List.mem_cons_of_mem _ (ih h)

namespace Value

/-- The text of some runes. -/
def ofRunes (runes : List Rune) : Value :=
  if h : runes.any Rune.isHalf = true then .torn ⟨runes, h⟩
  else .text (Rune.text runes)

/-- The runes of a value that is a text. -/
def runes? : Value → Option (List Rune)
  | .text s => some (Rune.ofText s)
  | .torn t => some t.runes
  | _ => none

theorem runes?_ofRunes (runes : List Rune) : (ofRunes runes).runes? = some runes := by
  by_cases htorn : runes.any Rune.isHalf = true
  · rw [ofRunes, dif_pos htorn, runes?]
  · have hwhole : ∀ rune ∈ runes, rune.isHalf = false := by simpa using htorn
    rw [ofRunes, dif_neg htorn, runes?, Rune.ofText_text hwhole]

/-- A text is made up of its runes. -/
theorem ofRunes_of_runes? {value : Value} {runes : List Rune} (h : value.runes? = some runes) :
    ofRunes runes = value := by
  cases value with
  | text s =>
    obtain rfl := Option.some.inj h
    have hwhole : ¬(Rune.ofText s).any Rune.isHalf = true := by
      simpa using fun _ => Rune.isWhole_of_mem_ofText
    rw [ofRunes, dif_neg hwhole, Rune.text_ofText]
  | torn t =>
    obtain rfl := Option.some.inj h
    rw [ofRunes, dif_pos t.isTorn]
  | null | bool | int | float | list | table | moment => cases h

/-- Whether a value counts as present. -/
def isSet : Value → Bool
  | .null => false
  | .bool b => b
  | .int n => n != 0
  | .float x => !(x == 0.0)
  | .text s => s != ""
  | .torn _ => true
  | .list items => !items.isEmpty
  | .table entries => !entries.isEmpty
  | .moment _ => true

/-- The entry of a table under a key; a value that is no table has none. -/
def get? (key : String) : Value → Option Value
  | .table entries => lookup? key entries
  | _ => none

/-- The items of a value that can be gone through: a list, the characters of a text, or the keys of
a table. -/
def items? : Value → Option (List Value)
  | .list items => some items
  | .text s => some (s.toList.map fun c => .text (String.ofList [c]))
  | .torn t => some (t.runes.map fun rune => ofRunes [rune])
  | .table entries => some (entries.map fun (key, _) => .text key)
  | _ => none

/-- The value, or another one if it does not count as present. -/
def orElse (value other : Value) : Value :=
  if value.isSet then value else other

/-- The name of a value's type. -/
def typeName : Value → String
  | .null => "NoneType"
  | .bool _ => "bool"
  | .int _ => "int"
  | .float _ => "float"
  | .text _ | .torn _ => "str"
  | .list _ => "list"
  | .table _ => "dict"
  | .moment m => m.kindName

end Value

/-- A value that takes part in arithmetic. -/
inductive Number where
  | truth (value : Bool)
  | whole (value : Int)
  | real (value : Float)
  deriving DecidableEq, Repr

namespace Number

/-- A comparison of a number with a whole number, which is given for whole numbers and for
floats. -/
def compareBy (whole : Int → Int → Bool) (real : Float → Float → Bool) (n : Number)
    (other : Int) : Bool :=
  match n with
  | .truth value => whole value.toInt other
  | .whole value => whole value other
  | .real value => real value (nearestFloat other)

/-- Whether a number is below a whole number. -/
def isBelow : Number → Int → Bool :=
  compareBy (· < ·) (· < ·)

/-- Whether a number is a whole number or below it. -/
def isAtMost : Number → Int → Bool :=
  compareBy (· ≤ ·) (· ≤ ·)

/-- Whether a number is above a whole number. -/
def isAbove : Number → Int → Bool :=
  compareBy (· > ·) (· > ·)

/-- Whether a number has the value of a whole number. -/
def equals : Number → Int → Bool :=
  compareBy (· == ·) (· == ·)

/-- A number as the value that it was. -/
def toValue : Number → Value
  | .truth value => .bool value
  | .whole value => .int value
  | .real value => .float value

end Number

/-- The number a value stands for. -/
def Value.number? : Value → Option Number
  | .bool b => some (.truth b)
  | .int n => some (.whole n)
  | .float x => some (.real x)
  | _ => none

end ScriptAudit
