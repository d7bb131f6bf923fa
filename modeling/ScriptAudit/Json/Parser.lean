import ScriptAudit.Decimal.Reading
import ScriptAudit.Value.Basic

/-!
# Reading JSON

JSON text as a value. Of two entries with one key the later counts, in the place of the earlier.
The words `NaN`, `Infinity` and `-Infinity` are numbers. A control character inside a string is an
error, and so is anything after the value but blanks. An escape of half a surrogate pair stands for
this half, and tears the text.

* `Json.read` : the value of a whole text, collections being nested at most so deeply.
* `Json.readString?` : the same for a string, without a limit, and without a reason if there is none.
-/

namespace ScriptAudit.Json

/-- The four blanks of JSON. -/
def isBlank (c : Char) : Bool :=
  c == ' ' || c == '\t' || c == '\n' || c == '\r'

/-- A text without its leading blanks. -/
def skipBlanks (text : List Char) : List Char :=
  text.dropWhile isBlank

/-- The value of a hexadecimal digit. -/
def hexValue? (c : Char) : Option Nat :=
  if '0' ≤ c ∧ c ≤ '9' then some (c.toNat - 0x30)
  else if 'a' ≤ c ∧ c ≤ 'f' then some (c.toNat - 0x57)
  else if 'A' ≤ c ∧ c ≤ 'F' then some (c.toNat - 0x37)
  else none

/-- The number written by four hexadecimal digits. -/
def hexUnit? (a b c d : Char) : Option Nat := do
  let a ← hexValue? a
  let b ← hexValue? b
  let c ← hexValue? c
  let d ← hexValue? d
  return ((a * 16 + b) * 16 + c) * 16 + d

/-- The character of a single-letter escape. -/
def escaped? : Char → Option Char
  | '"' => some '"'
  | '\\' => some '\\'
  | '/' => some '/'
  | 'b' => some (Char.ofNat 0x08)
  | 'f' => some (Char.ofNat 0x0C)
  | 'n' => some '\n'
  | 'r' => some '\r'
  | 't' => some '\t'
  | _ => none

/-- Whether a unit opens a surrogate pair. -/
def isHighSurrogate (unit : Nat) : Bool :=
  0xD800 ≤ unit && unit < 0xDC00

/-- Whether a unit closes a surrogate pair. -/
def isLowSurrogate (unit : Nat) : Bool :=
  0xDC00 ≤ unit && unit < 0xE000

/-- The character of a surrogate pair. -/
def pairChar (high low : Nat) : Char :=
  Char.ofNat (0x10000 + (high - 0xD800) * 0x400 + (low - 0xDC00))

/-- The runes of a string up to its closing quote, and what follows the quote. The first argument
holds the runes already read, the last one first. -/
def stringBody? (read : List Rune) : List Char → Option (List Rune × List Char)
  | [] => none
  | '"' :: rest => some (read.reverse, rest)
  | '\\' :: 'u' :: a :: b :: c :: d :: '\\' :: 'u' :: e :: f :: g :: h :: rest =>
    match hexUnit? a b c d with
    | none => none
    | some unit =>
      match isHighSurrogate unit, (hexUnit? e f g h).filter isLowSurrogate with
      | true, some low => stringBody? (.whole (pairChar unit low) :: read) rest
      | _, _ => stringBody? (.ofUnit unit :: read) ('\\' :: 'u' :: e :: f :: g :: h :: rest)
  | '\\' :: 'u' :: a :: b :: c :: d :: rest =>
    match hexUnit? a b c d with
    | none => none
    | some unit => stringBody? (.ofUnit unit :: read) rest
  | '\\' :: c :: rest =>
    match escaped? c with
    | none => none
    | some c => stringBody? (.whole c :: read) rest
  | c :: rest =>
    if c.toNat < 0x20 ∨ c = '\\' then none else stringBody? (.whole c :: read) rest

/-- A quote that is not escaped ends the string. -/
theorem stringBody?_end (read : List Rune) (rest : List Char) :
    stringBody? read ('"' :: rest) = some (read.reverse, rest) := by
  rw [stringBody?]

/-- The digits at the head of a text, and what follows them. -/
def digitSpan (text : List Char) : List Char × List Char :=
  text.span Char.isDigit

/-- The value of ASCII digits. -/
def digitsOf (digits : List Char) : Nat :=
  digitsValue (digits.map fun c => c.toNat - 0x30)

/-- A fraction after a point; a point without a digit belongs to no number. -/
def fraction (text : List Char) : List Char × List Char :=
  match text with
  | '.' :: rest =>
    match digitSpan rest with
    | ([], _) => ([], text)
    | (digits, rest) => (digits, rest)
  | _ => ([], text)

/-- An exponent; a letter without a digit belongs to no number. -/
def exponent? (text : List Char) : Option Int × List Char :=
  match text with
  | c :: rest =>
    if c = 'e' ∨ c = 'E' then
      let (negative, body) := readSign rest
      match digitSpan body with
      | ([], _) => (none, text)
      | (digits, rest) => (some (Binary.signed negative (digitsOf digits)), rest)
    else (none, text)
  | [] => (none, text)

/-- A number without its sign, and what follows it. No zero may lead a longer whole part. -/
def magnitude (negative : Bool) (text : List Char) : Except Refusal (Value × List Char) := do
  let (digits, rest) :=
    match text with
    | '0' :: rest => (['0'], rest)
    | _ => digitSpan text
  if digits.isEmpty then throw .malformed
  let (decimals, afterFraction) := fraction rest
  let (power, afterExponent) := exponent? afterFraction
  if decimals.isEmpty && power.isNone then
    Refusal.checkDigits digits.length
    return (.int (Binary.signed negative (digitsOf digits)), rest)
  else
    return (.float (floatOfDecimal negative (digitsOf (digits ++ decimals))
      (power.getD 0 - decimals.length)), afterExponent)

/-- What follows a word at the head of a text. -/
def afterWord? (word : String) (text : List Char) : Option (List Char) :=
  if word.toList.isPrefixOf text then some (text.drop word.length) else none

/-- The words that are values. -/
def words : List (String × Value) :=
  [("null", .null), ("true", .bool true), ("false", .bool false),
    ("NaN", .float (0.0 / 0.0)), ("Infinity", .float (1.0 / 0.0)),
    ("-Infinity", .float (-(1.0 / 0.0)))]

/-- A word or a number, and what follows it. -/
def readScalar (text : List Char) : Except Refusal (Value × List Char) :=
  match words.findSome? fun (word, value) => (afterWord? word text).map (value, ·) with
  | some found => .ok found
  | none =>
    match text with
    | '-' :: rest => magnitude true rest
    | _ => magnitude false text

mutual

/-- A value at the head of a text, and what follows it. The first argument bounds the number of
nested readings, and the second how deeply collections may be nested. -/
def readValue : Nat → Nat → List Char → Except Refusal (Value × List Char)
  | 0, _, _ => .error .malformed
  | fuel + 1, depth, text =>
    match text, depth with
    | '"' :: rest, _ => do
      let (body, rest) ← Refusal.needed (stringBody? [] rest)
      return (.ofRunes body, rest)
    | '[' :: _, 0 | '\x7b' :: _, 0 => .error .tooDeep
    | '[' :: rest, depth + 1 =>
      match skipBlanks rest with
      | ']' :: rest => .ok (.list [], rest)
      | rest => do
        let (items, rest) ← readItems fuel depth rest
        return (.list items, rest)
    | '\x7b' :: rest, depth + 1 =>
      match skipBlanks rest with
      | '\x7d' :: rest => .ok (.table [], rest)
      | rest => do
        let (entries, rest) ← readEntries fuel depth [] rest
        return (.table entries, rest)
    | _, _ => readScalar text

/-- The items of a list up to its closing bracket. -/
def readItems : Nat → Nat → List Char → Except Refusal (List Value × List Char)
  | 0, _, _ => .error .malformed
  | fuel + 1, depth, text => do
    let (item, rest) ← readValue fuel depth text
    match skipBlanks rest with
    | ']' :: rest => return ([item], rest)
    | ',' :: rest =>
      let (items, rest) ← readItems fuel depth (skipBlanks rest)
      return (item :: items, rest)
    | _ => throw .malformed

/-- The entries of a table up to its closing brace, added to those read before. Halves in a key are
replaced. -/
def readEntries : Nat → Nat → List (String × Value) → List Char →
    Except Refusal (List (String × Value) × List Char)
  | 0, _, _, _ => .error .malformed
  | fuel + 1, depth, before, text =>
    match text with
    | '"' :: rest => do
      let (key, rest) ← Refusal.needed (stringBody? [] rest)
      match skipBlanks rest with
      | ':' :: rest =>
        let (value, rest) ← readValue fuel depth (skipBlanks rest)
        let before := insertEntry (Rune.text key) value before
        match skipBlanks rest with
        | '\x7d' :: rest => return (before, rest)
        | ',' :: rest => readEntries fuel depth before (skipBlanks rest)
        | _ => throw .malformed
      | _ => throw .malformed
    | _ => .error .malformed

end

/-- A quote opens a string. -/
theorem readValue_quote (fuel depth : Nat) (rest : List Char) :
    readValue (fuel + 1) depth ('"' :: rest)
      = (Refusal.needed (stringBody? [] rest)).map fun found =>
          (.ofRunes found.1, found.2) := by
  rw [readValue]
  cases stringBody? [] rest <;> rfl

/-- The value of a whole text, if it is JSON. The first argument says how deeply collections may be
nested. Every nested reading uses up a character, so the length of the text bounds their number. -/
def read (depth : Nat) (text : List Char) : Except Refusal Value := do
  let (value, rest) ← readValue (text.length + 1) depth (skipBlanks text)
  if (skipBlanks rest).isEmpty then return value else throw .malformed

/-- The value of a string that holds JSON. Nothing in it is nested more deeply than it is long. -/
def readString? (text : String) : Option Value :=
  (read text.length text.toList).toOption

end ScriptAudit.Json
