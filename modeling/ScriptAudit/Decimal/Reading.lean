import ScriptAudit.Text.Blank
import ScriptAudit.Text.Digit
import ScriptAudit.Text.Refusal

/-!
# Text as numbers

Numbers written by people: blanks around them are ignored, a sign may lead, digits of any script
count, and a single underscore may stand between two digits.

* `digitsValue` : the value of a list of digits.
* `floatOfDecimal` : the float nearest to a decimal.
* `readInt` : a whole number of not too many digits.
* `readCount?` : a natural number, which may look like a decimal.
* `readFloat?` : a decimal with an optional point and exponent, or one of the words for infinity
  and not-a-number in any case.
-/

namespace ScriptAudit

/-- The value of decimal digits, the first being the most significant. -/
def digitsValue (digits : List Nat) : Nat :=
  digits.foldl (fun value digit => 10 * value + digit) 0

/-- The float nearest to `digits * 10 ^ power`. Magnitudes far beyond every float are decided
without computing the power. -/
def floatOfDecimal (negative : Bool) (digits : Nat) (power : Int) : Float :=
  let magnitude : Int := digitCount digits + power
  let size :=
    if digits = 0 ∨ magnitude < -400 then 0.0
    else if magnitude > 400 then 1.0 / 0.0
    else match power with
      | .ofNat e => Float.ofScientific digits false e
      | .negSucc e => Float.ofScientific digits true (e + 1)
  if negative then -size else size

/-- The blanks that may surround a number. -/
def isNumberBlank (c : Char) : Bool :=
  Text.isBlank c && !(0x1C ≤ c.toNat && c.toNat ≤ 0x1F)

/-- A text without the blanks around a number. -/
def stripNumber (text : List Char) : List Char :=
  ((text.dropWhile isNumberBlank).reverse.dropWhile isNumberBlank).reverse

/-- The sign of a number, and what follows it. -/
def readSign : List Char → Bool × List Char
  | '-' :: rest => (true, rest)
  | '+' :: rest => (false, rest)
  | text => (false, text)

/-- The digits at the head of a text, with single underscores between them, and what follows. -/
def readDigits : List Char → List Nat × List Char
  | [] => ([], [])
  | [c] =>
    match Text.digitValue? c with
    | some digit => ([digit], [])
    | none => ([], [c])
  | c :: '_' :: d :: rest =>
    match Text.digitValue? c, Text.digitValue? d with
    | some digit, some _ =>
      let (digits, rest) := readDigits (d :: rest)
      (digit :: digits, rest)
    | some digit, none => ([digit], '_' :: d :: rest)
    | none, _ => ([], c :: '_' :: d :: rest)
  | c :: rest =>
    match Text.digitValue? c with
    | some digit =>
      let (digits, rest) := readDigits rest
      (digit :: digits, rest)
    | none => ([], c :: rest)

/-- Whether an underscore follows that belongs to no number. -/
def isBroken : List Char → Bool
  | '_' :: _ => true
  | _ => false

/-- A whole number. A misplaced underscore is noticed before the digits are counted, and any other
character that belongs to no number after that. -/
def readInt (text : List Char) : Except Refusal Int := do
  let (negative, body) := readSign (stripNumber text)
  let (digits, rest) := readDigits body
  if isBroken rest then throw .malformed
  Refusal.checkDigits digits.length
  if digits.isEmpty || !rest.isEmpty then throw .malformed
  return Binary.signed negative (digitsValue digits)

/-- A count in ASCII digits. It may be written with a plus sign, and with a fraction that is zero. -/
def readCount? (text : List Char) : Option Nat :=
  let body := stripNumber text
  let (digits, rest) := readDigits (if body.head? = some '+' then body.drop 1 else body)
  let isWhole := rest.isEmpty || (rest.head? == some '.' && (rest.drop 1).all (· == '0'))
  if body.any (0x80 ≤ ·.toNat) || digits.isEmpty || !isWhole then none
  else some (digitsValue digits)

/-- The exponent at the end of a number: absent, or a whole number that uses up the text. -/
def readExponent? : List Char → Option Int
  | [] => some 0
  | c :: rest =>
    if c = 'e' ∨ c = 'E' then
      let (negative, body) := readSign rest
      match readDigits body with
      | (digits@(_ :: _), []) => some (Binary.signed negative (digitsValue digits))
      | _ => none
    else none

/-- A number given by a word. -/
def readWord? (negative : Bool) (word : List Char) : Option Float :=
  let word := String.ofList (word.map Char.toLower)
  if word = "inf" ∨ word = "infinity" then some (if negative then -(1.0 / 0.0) else 1.0 / 0.0)
  else if word = "nan" then some (0.0 / 0.0)
  else none

/-- A decimal number. -/
def readFloat? (text : List Char) : Option Float :=
  let (negative, body) := readSign (stripNumber text)
  match readWord? negative body with
  | some x => some x
  | none =>
    let (whole, rest) := readDigits body
    let (fraction, rest) :=
      match rest with
      | '.' :: rest => readDigits rest
      | rest => ([], rest)
    if whole.isEmpty && fraction.isEmpty then none
    else (readExponent? rest).map fun exponent =>
      floatOfDecimal negative (digitsValue (whole ++ fraction)) (exponent - fraction.length)

end ScriptAudit
