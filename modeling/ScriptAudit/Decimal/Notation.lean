import ScriptAudit.Decimal.Shortest

/-!
# Numbers as text

* `natText`, `intText` : whole numbers in decimal.
* `FloatStyle` : the words that stand for the values without digits.
* `floatText` : the shortest decimal of a float, positional for magnitudes from `1e-4` up to `1e16`,
  with a power of ten beyond.
* `fixedText` : a float with a fixed count of decimal places, a half going to the even digit.
-/

namespace ScriptAudit

/-- A natural number in decimal. -/
def natText (n : Nat) : String :=
  String.ofList (Nat.toDigits 10 n)

/-- A whole number in decimal. -/
def intText : Int → String
  | .ofNat n => natText n
  | .negSucc n => "-" ++ natText (n + 1)

/-- The words for not-a-number and for infinity. -/
structure FloatStyle where
  nan : String
  infinity : String

/-- The words of plain text. -/
def FloatStyle.plain : FloatStyle := ⟨"nan", "inf"⟩

/-- A decimal in positional notation, always with a digit after the point. -/
def positional (digits : List Char) (power : Int) : List Char :=
  let point : Int := digits.length + power
  if power ≥ 0 then digits ++ List.replicate power.toNat '0' ++ ['.', '0']
  else if point > 0 then digits.take point.toNat ++ '.' :: digits.drop point.toNat
  else '0' :: '.' :: List.replicate (-point).toNat '0' ++ digits

/-- A decimal with one digit before the point and an exponent of at least two digits. -/
def exponential (digits : List Char) (power : Int) : List Char :=
  let exponent : Int := digits.length + power - 1
  let size := Nat.toDigits 10 exponent.natAbs
  let fraction := digits.drop 1
  digits.take 1 ++ (if fraction.isEmpty then [] else '.' :: fraction)
    ++ ['e', if exponent < 0 then '-' else '+']
    ++ List.replicate (2 - size.length) '0' ++ size

/-- A float in its shortest form. -/
def floatTextIn (style : FloatStyle) (x : Float) : String :=
  match Binary.ofFloat x with
  | .nan => style.nan
  | .infinite negative => (if negative then "-" else "") ++ style.infinity
  | .finite negative mantissa exponent =>
    let body :=
      if mantissa = 0 then ['0', '.', '0']
      else
        let (digits, power) := shortest mantissa exponent
        let digits := Nat.toDigits 10 digits
        let magnitude : Int := digits.length + power - 1
        if -4 ≤ magnitude ∧ magnitude < 16 then positional digits power
        else exponential digits power
    (if negative then "-" else "") ++ String.ofList body

/-- A float in its shortest form, in plain text. -/
def floatText (x : Float) : String :=
  floatTextIn .plain x

/-- A number of units of the last decimal place as text. -/
def placesText (places units : Nat) : String :=
  let digits := Nat.toDigits 10 units
  let digits := List.replicate (places + 1 - digits.length) '0' ++ digits
  String.ofList (digits.take (digits.length - places) ++ '.' :: digits.drop (digits.length - places))

/-- A float with a fixed count of decimal places, at least one. -/
def fixedText (places : Nat) (x : Float) : String :=
  match Binary.ofFloat x with
  | .nan => "nan"
  | .infinite negative => if negative then "-inf" else "inf"
  | .finite negative mantissa exponent =>
    let units := divideToEven (mantissa * Nat.pow 2 exponent.toNat * Nat.pow 10 places)
      (Nat.pow 2 (-exponent).toNat)
    (if negative then "-" else "") ++ placesText places units

end ScriptAudit
