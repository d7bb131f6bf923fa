import ScriptAudit.Decimal.Notation

/-!
# Refused texts

Why a text cannot be read as data. Apart from text that is no data at all, whole numbers with very
many digits and collections nested very deeply are refused.

* `Refusal`, `Refusal.text` : the reasons, and how they are told.
* `Refusal.needed`, `Refusal.checkDigits` : what has to be there, and the limit on digits.
* `longestNumber` : the most digits of a whole number.
* `Unwritable` : why data cannot be written.
-/

namespace ScriptAudit

/-- The most digits with which a whole number is read or written in base ten. -/
def longestNumber : Nat := 4300

/-- The complaint about a whole number that would be written with too many digits. -/
def tooLongToWrite : String :=
  "Exceeds the limit (" ++ natText longestNumber ++ " digits) for integer string conversion; "
    ++ "use sys.set_int_max_str_digits() to increase the limit"

/-- Why a text is refused: it is no data, a whole number in it has too many digits, or collections
in it are nested too deeply. -/
inductive Refusal where
  | malformed
  | tooLong (digits : Nat)
  | tooDeep
  deriving DecidableEq, Repr

namespace Refusal

/-- How a refusal is told. What is wrong with text that is no data is not told. -/
def text : Refusal → String
  | malformed => "<syntax>"
  | tooLong digits =>
    "Exceeds the limit (" ++ natText longestNumber ++ " digits) for integer string conversion: "
      ++ "value has " ++ natText digits ++ " digits; "
      ++ "use sys.set_int_max_str_digits() to increase the limit"
  | tooDeep => "maximum recursion depth exceeded"

/-- What has to be there for a text to be data. -/
def needed {α : Type} : Option α → Except Refusal α
  | some a => .ok a
  | none => .error malformed

/-- Refuses a whole number with too many digits. -/
def checkDigits (digits : Nat) : Except Refusal Unit :=
  if digits ≤ longestNumber then .ok () else .error (tooLong digits)

end Refusal

/-- Why data cannot be written: a whole number in it has too many digits, or collections in it are
nested too deeply. -/
inductive Unwritable where
  | tooLong
  | tooDeep
  deriving DecidableEq, Repr

/-- How it is told that data cannot be written. -/
def Unwritable.text : Unwritable → String
  | tooLong => tooLongToWrite
  | tooDeep => Refusal.tooDeep.text

end ScriptAudit
