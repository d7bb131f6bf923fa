/-!
# Blanks

White space, in the two senses the library needs.

* `isBlank` : Unicode white space, for text.
* `isBlankByte` : the six ASCII blanks, for bytes.
* `strip`, `stripStart` : a text without the blanks around it.
-/

namespace ScriptAudit.Text

/-- White space of any script: the ASCII blanks, the four information separators, the next-line
control and the Unicode spaces. -/
def isBlank (c : Char) : Bool :=
  let n := c.toNat
  (0x09 ≤ n && n ≤ 0x0D) || (0x1C ≤ n && n ≤ 0x20) || n == 0x85 || n == 0xA0 || n == 0x1680
    || (0x2000 ≤ n && n ≤ 0x200A) || n == 0x2028 || n == 0x2029 || n == 0x202F || n == 0x205F
    || n == 0x3000

/-- Space, tab, line feed, vertical tab, form feed and carriage return. -/
def isBlankByte (b : UInt8) : Bool :=
  (9 ≤ b && b ≤ 13) || b == 32

/-- A text without its leading blanks. -/
def stripStart (text : List Char) : List Char :=
  text.dropWhile isBlank

/-- A text without the blanks at either end. -/
def strip (text : List Char) : List Char :=
  (stripStart (stripStart text).reverse).reverse

end ScriptAudit.Text
