import ScriptAudit.Text.Printable
import ScriptAudit.Text.Rune

/-!
# Quoted text

A text as a literal in messages. Single quotes enclose it, or double quotes when it holds single
quotes and no double ones. The backslash, the enclosing quote, tab, line feed and carriage return
are escaped; any other character that is not printable is written by its code point, with two,
four or eight hexadecimal digits, and so is half of a surrogate pair.

* `hex` : a number in a fixed count of lower-case hexadecimal digits.
* `quote`, `quoteTorn` : the literal.
-/

namespace ScriptAudit.Text

/-- The lower-case hexadecimal digit of a number below sixteen. -/
def hexDigit (n : Nat) : Char :=
  if n < 10 then Char.ofNat (0x30 + n) else Char.ofNat (0x57 + n)

/-- The last `width` hexadecimal digits of a number. -/
def hex : Nat → Nat → List Char
  | 0, _ => []
  | width + 1, n => hex width (n / 16) ++ [hexDigit (n % 16)]

/-- The quote that encloses a text. -/
def quoteMark (text : List Char) : Char :=
  if text.contains '\'' && !text.contains '"' then '"' else '\''

/-- One character inside quotes. -/
def quoteChar (mark c : Char) : List Char :=
  if c = '\\' ∨ c = mark then ['\\', c]
  else if c = '\n' then ['\\', 'n']
  else if c = '\r' then ['\\', 'r']
  else if c = '\t' then ['\\', 't']
  else if isPrintable c then [c]
  else if c.toNat < 0x100 then '\\' :: 'x' :: hex 2 c.toNat
  else if c.toNat < 0x10000 then '\\' :: 'u' :: hex 4 c.toNat
  else '\\' :: 'U' :: hex 8 c.toNat

/-- A text as a literal. -/
def quote (text : List Char) : List Char :=
  let mark := quoteMark text
  mark :: text.flatMap (quoteChar mark) ++ [mark]

/-- A string as a literal. -/
def quoteString (text : String) : String :=
  String.ofList (quote text.toList)

/-- One rune inside quotes. -/
def quoteRune (mark : Char) : Rune → List Char
  | .whole c => quoteChar mark c
  | .half offset => '\\' :: 'u' :: hex 4 (Rune.firstHalf + offset)

/-- A torn text as a literal. -/
def quoteTorn (t : Torn) : String :=
  let mark := quoteMark (t.runes.map Rune.char)
  String.ofList (mark :: t.runes.flatMap (quoteRune mark) ++ [mark])

end ScriptAudit.Text
