import ScriptAudit.Value.Text

/-!
# Writing JSON

Values as JSON text in ASCII: a character beyond ASCII is written as one or two escapes of four
hexadecimal digits, and half of a surrogate pair as one. A float is written in its shortest form, and
the values without digits by the words `NaN` and `Infinity`.

* `Json.quote`, `Json.quoteTorn` : a text as a JSON string.
* `Json.compact` : a value on one line.
* `Json.indented` : a value with one entry a line, each level indented by two spaces.
* `Json.unwritable?` : why a value cannot be written in this way.
-/

namespace ScriptAudit.Json

/-- One escape of four hexadecimal digits. -/
def unitEscape (unit : Nat) : List Char :=
  '\\' :: 'u' :: Text.hex 4 unit

/-- One character inside a string. -/
def escapeChar (c : Char) : List Char :=
  if c = '"' then ['\\', '"']
  else if c = '\\' then ['\\', '\\']
  else if c = '\n' then ['\\', 'n']
  else if c = '\r' then ['\\', 'r']
  else if c = '\t' then ['\\', 't']
  else if c.toNat = 0x08 then ['\\', 'b']
  else if c.toNat = 0x0C then ['\\', 'f']
  else if 0x20 ≤ c.toNat ∧ c.toNat ≤ 0x7E then [c]
  else if c.toNat < 0x10000 then unitEscape c.toNat
  else
    let rest := c.toNat - 0x10000
    unitEscape (0xD800 + rest / 0x400) ++ unitEscape (0xDC00 + rest % 0x400)

/-- A text as a JSON string. -/
def quote (text : List Char) : List Char :=
  '"' :: text.flatMap escapeChar ++ ['"']

/-- A text as a JSON string. -/
def quoteString (text : String) : String :=
  String.ofList (quote text.toList)

/-- One rune inside a string. -/
def escapeRune : Rune → List Char
  | .whole c => escapeChar c
  | .half offset => unitEscape (Rune.firstHalf + offset)

/-- A torn text as a JSON string. -/
def quoteTorn (t : Torn) : String :=
  String.ofList ('"' :: t.runes.flatMap escapeRune ++ ['"'])

/-- The words for floats without digits. -/
def floatStyle : FloatStyle := ⟨"NaN", "Infinity"⟩

/-- A value without parts. A moment has no JSON form and is written as its text. -/
def scalar : Value → String
  | .bool b => if b then "true" else "false"
  | .int n => intText n
  | .float x => floatTextIn floatStyle x
  | .text s => quoteString s
  | .torn t => quoteTorn t
  | .moment m => quoteString m.text
  | _ => "null"

mutual

/-- A value on one line. -/
def compact : Value → String
  | .list items => "[" ++ compactItems items ++ "]"
  | .table entries => "\x7b" ++ compactEntries entries ++ "\x7d"
  | value => scalar value

/-- The items of a list with commas between them. -/
def compactItems : List Value → String
  | [] => ""
  | [item] => compact item
  | item :: items => compact item ++ ", " ++ compactItems items

/-- The entries of a table with commas between them. -/
def compactEntries : List (String × Value) → String
  | [] => ""
  | [(key, value)] => quoteString key ++ ": " ++ compact value
  | (key, value) :: entries =>
    quoteString key ++ ": " ++ compact value ++ ", " ++ compactEntries entries

end

/-- A line end and the indentation of a level. -/
def lineBreak (level : Nat) : String :=
  String.ofList ('\n' :: List.replicate (2 * level) ' ')

mutual

/-- A value at a level of indentation. -/
def indentedAt (level : Nat) : Value → String
  | .list [] => "[]"
  | .list items =>
    "[" ++ lineBreak (level + 1) ++ indentedItems (level + 1) items ++ lineBreak level ++ "]"
  | .table [] => "\x7b\x7d"
  | .table entries =>
    "\x7b" ++ lineBreak (level + 1) ++ indentedEntries (level + 1) entries ++ lineBreak level
      ++ "\x7d"
  | value => scalar value

/-- The items of a list, one a line. -/
def indentedItems (level : Nat) : List Value → String
  | [] => ""
  | [item] => indentedAt level item
  | item :: items =>
    indentedAt level item ++ "," ++ lineBreak level ++ indentedItems level items

/-- The entries of a table, one a line. -/
def indentedEntries (level : Nat) : List (String × Value) → String
  | [] => ""
  | [(key, value)] => quoteString key ++ ": " ++ indentedAt level value
  | (key, value) :: entries =>
    quoteString key ++ ": " ++ indentedAt level value ++ "," ++ lineBreak level
      ++ indentedEntries level entries

end

/-- A value with one entry a line. -/
def indented (value : Value) : String :=
  indentedAt 0 value

mutual

/-- Why a value cannot be written. Every collection needs room of its own, of which there is so
much. -/
def unwritable? : Nat → Value → Option Unwritable
  | _, .int n => if Value.isShort n then none else some .tooLong
  | 0, .list _ | 0, .table _ => some .tooDeep
  | depth + 1, .list items => itemsUnwritable? depth items
  | depth + 1, .table entries => entriesUnwritable? depth entries
  | _, _ => none

/-- Why the items of a list cannot be written, the first reason coming first. -/
def itemsUnwritable? (depth : Nat) : List Value → Option Unwritable
  | [] => none
  | item :: items => (unwritable? depth item).or (itemsUnwritable? depth items)

/-- Why the entries of a table cannot be written, the first reason coming first. -/
def entriesUnwritable? (depth : Nat) : List (String × Value) → Option Unwritable
  | [] => none
  | (_, value) :: entries => (unwritable? depth value).or (entriesUnwritable? depth entries)

end

end ScriptAudit.Json
