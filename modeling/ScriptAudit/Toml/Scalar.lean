import ScriptAudit.Toml.Text

/-!
# Numbers and moments of TOML

* `Toml.readNumber` : whole numbers in four bases, and floats.
* `Toml.moment?` : dates, times of day, and both.
* `Toml.readScalar` : any value that is neither string nor collection.
-/

namespace ScriptAudit.Toml

/-- Digits with single underscores between them, after a first digit. -/
def digitTail (isDigit : Char → Bool) : List Char → List Char × List Char
  | [] => ([], [])
  | [c] => if isDigit c then ([c], []) else ([], [c])
  | c :: d :: rest =>
    if isDigit c then
      let (digits, rest) := digitTail isDigit (d :: rest)
      (c :: digits, rest)
    else if c = '_' ∧ isDigit d then
      let (digits, rest) := digitTail isDigit rest
      (d :: digits, rest)
    else ([], c :: d :: rest)

/-- One or more digits with single underscores between them. -/
def digits? (isDigit : Char → Bool) : List Char → Option (List Char × List Char)
  | c :: rest =>
    if isDigit c then
      let (digits, rest) := digitTail isDigit rest
      some (c :: digits, rest)
    else none
  | [] => none

/-- The value of digits in a base. -/
def valueIn (base : Nat) (digits : List Char) : Nat :=
  digits.foldl (fun value c => value * base + (Json.hexValue? c).getD 0) 0

/-- The bases that a letter after a zero stands for, with their digits. -/
def bases : List (Char × Nat × (Char → Bool)) :=
  [('x', 16, fun c => (Json.hexValue? c).isSome), ('b', 2, fun c => c == '0' || c == '1'),
    ('o', 8, fun c => '0' ≤ c && c ≤ '7')]

/-- A whole number in a base other than ten. -/
def based? : List Char → Option (Value × List Char)
  | '0' :: letter :: rest =>
    match bases.lookup letter with
    | some (base, isDigit) =>
      (digits? isDigit rest).map fun (digits, rest) => (.int (valueIn base digits), rest)
    | none => none
  | _ => none

/-- The fraction of a float: its digits. -/
def fraction (text : List Char) : List Char × List Char :=
  match text with
  | '.' :: rest => (digits? Char.isDigit rest).getD ([], text)
  | _ => ([], text)

/-- The exponent of a float. -/
def exponent? (text : List Char) : Option Int × List Char :=
  match text with
  | c :: rest =>
    if c = 'e' ∨ c = 'E' then
      let (negative, body) := readSign rest
      match digits? Char.isDigit body with
      | some (digits, rest) => (some (Binary.signed negative (valueIn 10 digits)), rest)
      | none => (none, text)
    else (none, text)
  | [] => (none, text)

/-- A whole number in base ten, or a float. No zero may lead a longer whole part. A whole number of
too many digits is recognised and then refused. -/
def decimal? (text : List Char) : Option (Except Refusal (Value × List Char)) :=
  let (negative, body) := readSign text
  let whole? :=
    match body with
    | '0' :: rest => some (['0'], rest)
    | _ => digits? Char.isDigit body
  whole?.map fun (whole, rest) =>
    let (decimals, afterFraction) := fraction rest
    let (power, afterExponent) := exponent? afterFraction
    if decimals.isEmpty && power.isNone then
      (Refusal.checkDigits whole.length).map fun _ =>
        (.int (Binary.signed negative (valueIn 10 whole)), rest)
    else
      .ok (.float (floatOfDecimal negative (valueIn 10 (whole ++ decimals))
        (power.getD 0 - decimals.length)), afterExponent)

/-- A number given by a word. -/
def word? (text : List Char) : Option (Value × List Char) :=
  let (negative, body) := readSign text
  let sign (x : Float) : Value := .float (if negative then -x else x)
  match body with
  | 'i' :: 'n' :: 'f' :: rest => some (sign (1.0 / 0.0), rest)
  | 'n' :: 'a' :: 'n' :: rest => some (sign (0.0 / 0.0), rest)
  | _ => none

/-- A number. -/
def readNumber (text : List Char) : Except Refusal (Value × List Char) :=
  match based? text, decimal? text with
  | some found, _ => .ok found
  | none, some found => found
  | none, none => Refusal.needed (word? text)

/-- A number of exactly so many decimal digits. -/
def fixed? (width : Nat) (text : List Char) : Option (Nat × List Char) :=
  let digits := text.take width
  if digits.length = width ∧ digits.all Char.isDigit then
    some (valueIn 10 digits, text.drop width)
  else none

/-- Two digits for a number below a bound. -/
def below? (bound : Nat) (text : List Char) : Option (Nat × List Char) :=
  (fixed? 2 text).filter fun (n, _) => n < bound

/-- What follows a character at the head of a text. -/
def after? (c : Char) : List Char → Option (List Char)
  | d :: rest => if d = c then some rest else none
  | [] => none

/-- The microseconds of a fraction of a second; digits beyond the sixth are dropped. -/
def microseconds (text : List Char) : Nat × List Char :=
  match text with
  | '.' :: rest =>
    let digits := rest.takeWhile Char.isDigit
    if digits.isEmpty then (0, text)
    else
      let shown := digits.take 6
      (valueIn 10 shown * Nat.pow 10 (6 - shown.length), rest.drop digits.length)
  | _ => (0, text)

/-- A time of day. -/
def clock? (text : List Char) : Option (Clock × List Char) := do
  let (hour, text) ← below? 24 text
  let text ← after? ':' text
  let (minute, text) ← below? 60 text
  let text ← after? ':' text
  let (second, text) ← below? 60 text
  let (microsecond, text) := microseconds text
  return (⟨hour, minute, second, microsecond⟩, text)

/-- The number of days of a month. -/
def daysOf (year month : Nat) : Nat :=
  if month = 2 then
    if year % 4 = 0 ∧ (year % 100 ≠ 0 ∨ year % 400 = 0) then 29 else 28
  else if month = 4 ∨ month = 6 ∨ month = 9 ∨ month = 11 then 30 else 31

/-- A date, of any month and day that two digits can write. -/
def date? (text : List Char) : Option (Date × List Char) := do
  let (year, text) ← fixed? 4 text
  let text ← after? '-' text
  let (month, text) ← below? 13 text
  let text ← after? '-' text
  let (day, text) ← below? 32 text
  if month = 0 ∨ day = 0 then none else return (⟨year, month, day⟩, text)

/-- Whether a date is in the calendar. -/
def isInCalendar (d : Date) : Bool :=
  0 < d.year && d.day ≤ daysOf d.year d.month

/-- An offset from universal time in minutes. -/
def offset? : List Char → Option (Int × List Char)
  | 'Z' :: rest | 'z' :: rest => some (0, rest)
  | c :: rest =>
    if c = '+' ∨ c = '-' then do
      let (hour, rest) ← below? 24 rest
      let rest ← after? ':' rest
      let (minute, rest) ← below? 60 rest
      return (Binary.signed (c == '-') (hour * 60 + minute), rest)
    else none
  | [] => none

/-- A time of day after the letter or the space that joins it to a date. -/
def joinedClock? : List Char → Option (Clock × List Char)
  | c :: rest => if c = 'T' ∨ c = 't' ∨ c = ' ' then clock? rest else none
  | [] => none

/-- A date, perhaps with a time of day and an offset. -/
def dated (d : Date) (text : List Char) : Moment × List Char :=
  match joinedClock? text with
  | none => (.date d, text)
  | some (c, text) =>
    match offset? text with
    | none => (.full d c none, text)
    | some (offset, text) => (.full d c (some offset), text)

/-- A moment. A date that is not in the calendar is none. -/
def moment? (text : List Char) : Option (Value × List Char) :=
  match date? text with
  | some (d, rest) =>
    if isInCalendar d then
      let (m, rest) := dated d rest
      some (.moment m, rest)
    else none
  | none => (clock? text).map fun (c, rest) => (.moment (.clock c), rest)

/-- A value that is neither string nor collection. -/
def readScalar (text : List Char) : Except Refusal (Value × List Char) :=
  match Json.afterWord? "true" text, Json.afterWord? "false" text, moment? text with
  | some rest, _, _ => .ok (.bool true, rest)
  | none, some rest, _ => .ok (.bool false, rest)
  | none, none, some found => .ok found
  | none, none, none => if (date? text).isSome then .error .malformed else readNumber text

end ScriptAudit.Toml
